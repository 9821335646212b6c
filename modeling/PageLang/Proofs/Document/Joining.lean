import PageLang.Proofs.Document.Findings
import PageLang.Proofs.Document.Moving
import PageLang.Proofs.Document.Structure
import PageLang.Proofs.Text.Split

/-!
# Sources one after the other

A source text that follows another one on a line of its own gives its lines, later by the lines of
the first. When its first line is unindented it starts afresh: no block reaches from one text into
the other, and the entries of both stand side by side.

A library is a source text in which everything belongs to components. It gives no nodes and no
title of its own, so that what follows it is the whole page:

> `Document.parse_append`: a source after a library gives the page it gives on its own under other
> line numbers, and the components of the library before its own.
-/

namespace PageLang

/-! ## Later lines -/

namespace Line

/-- The line after further lines and bytes. -/
def later (lines bytes : Nat) (l : Line) : Line :=
  { l with number := l.number + lines, offset := l.offset + bytes }

variable (k o : Nat)

theorem moves_later : Moves (· + k) 0 (later k o) := ⟨fun _ => rfl, fun _ => rfl, fun _ => rfl⟩

theorem ofRaw?_later (number start : Nat) (raw : List Char) :
    ofRaw? (number + k) (start + o) raw = (ofRaw? number start raw).map (later k o) := by
  unfold ofRaw?
  dsimp only
  split
  · rfl
  · rfl
  · rw [Option.map_some, later, Nat.add_right_comm start]

/-- The same pieces further down give the same lines, later. -/
theorem ofPieces_later (pieces : List (List Char)) : ∀ number start : Nat,
    ofPieces (number + k) (start + o) pieces = (ofPieces number start pieces).map (later k o) := by
  induction pieces with
  | nil => exact fun _ _ => rfl
  | cons raw pieces ih =>
    intro number start
    rw [ofPieces, ofPieces, Nat.add_right_comm number, Nat.add_right_comm start,
      Nat.add_right_comm (start + Text.byteLength raw), ih, ofRaw?_later]
    cases ofRaw? number start raw <;> rfl

/-- The lines of two sources are those of the first and, later, those of the second. -/
theorem exists_ofPieces_append (ps qs : List (List Char)) (number start : Nat) :
    ∃ k o, ofPieces number start (ps ++ qs)
      = ofPieces number start ps ++ (ofPieces number start qs).map (later k o) := by
  -- The first pieces are read one line and some bytes on from piece to piece, so the induction is
  -- for all starts.
  suffices h : ∀ k o, ∃ k' o', ofPieces (number + k) (start + o) (ps ++ qs)
      = ofPieces (number + k) (start + o) ps ++ ofPieces (number + k') (start + o') qs by
    obtain ⟨k, o, h⟩ := h 0 0
    exact ⟨k, o, by rw [← ofPieces_later]; exact h⟩
  induction ps with
  | nil => exact fun k o => ⟨k, o, rfl⟩
  | cons raw ps ih =>
    intro k o
    obtain ⟨k', o', h⟩ := ih (k + 1) (o + Text.byteLength raw + 1)
    refine ⟨k', o', ?_⟩
    rw [List.cons_append, ofPieces, ofPieces, Nat.add_assoc number, Nat.add_assoc start,
      Nat.add_assoc start, h]
    cases ofRaw? (number + k) (start + o) raw <;> rfl

/-- A source text after another one gives its lines, later. -/
theorem exists_ofSource_append (first second : String) :
    ∃ k o, ofSource (first ++ "\n" ++ second) = ofSource first ++ (ofSource second).map
      (later k o) := by
  have hpieces : Text.splitBy (· = '\n') (first ++ "\n" ++ second).toList
      = Text.splitBy (· = '\n') first.toList ++ Text.splitBy (· = '\n') second.toList := by
    rw [String.toList_append, String.toList_append, List.append_assoc]
    exact Text.splitBy_append_cons (by decide) first.toList second.toList
  rw [ofSource, hpieces]
  exact exists_ofPieces_append _ _ 1 0

end Line

/-! ## Entries side by side -/

namespace Entry

/-- No body reaches beyond an unindented line. -/
theorem ofLines_append (xs : List Line) {ys : List Line} (h : ∀ y ∈ ys.head?, y.indent = 0) :
    ofLines (xs ++ ys) = ofLines xs ++ ofLines ys := by
  induction xs using ofLines.induct with
  | case1 =>
    rw [List.nil_append, ofLines.eq_1, List.nil_append]
  | case2 l rest header hc ihBody ihRest =>
    have hstops : ∀ y ∈ ys.head?, y.indent ≤ l.indent := by
      intro y hy
      rw [h y hy]
      exact Nat.zero_le _
    have hys := span_of_stops hstops
    have htake : (rest ++ ys).takeWhile (fun x => decide (l.indent < x.indent))
        = rest.takeWhile fun x => decide (l.indent < x.indent) := by
      rw [List.takeWhile_append, hys.1, List.append_nil]
      split
      · next hlength => exact ((List.takeWhile_prefix _).eq_of_length hlength).symm
      · rfl
    have hdrop : (rest ++ ys).dropWhile (fun x => decide (l.indent < x.indent))
        = (rest.dropWhile fun x => decide (l.indent < x.indent)) ++ ys := by
      rw [List.dropWhile_append, hys.2]
      split
      · next hempty => rw [List.isEmpty_iff.mp hempty, List.nil_append]
      · rfl
    rw [List.cons_append, ofLines, ofLines, hc]
    dsimp only
    rw [htake, hdrop, ihRest, List.cons_append]
  | case3 l rest hc ih =>
    have hl := Line.header?_eq_none hc
    rw [List.cons_append, ofLines_cons_of_none hl, ofLines_cons_of_none hl, ih, List.cons_append]

section Append

variable (as bs : List Entry)

/-- The lines of the page are those of both parts. -/
theorem ownLines_append : ownLines (as ++ bs) = ownLines as ++ ownLines bs := by
  induction as with
  | nil => rfl
  | cons a as ih =>
    cases a with
    | line l => rw [List.cons_append, ownLines, ownLines, ih, List.cons_append]
    | component l header body => rw [List.cons_append, ownLines, ownLines, ih]

/-- So are the components. -/
theorem components_append : components (as ++ bs) = components as ++ components bs := by
  induction as with
  | nil => rw [components, List.nil_append, List.nil_append]
  | cons a as ih =>
    cases a with
    | line l => rw [List.cons_append, components, components, ih]
    | component l header body =>
      rw [List.cons_append, components, components, ih, List.append_assoc, List.append_assoc,
        List.append_assoc]

/-- Bodies are in place if they are in both parts. -/
theorem bodyMisplaced?_append_eq_none_iff :
    bodyMisplaced? (as ++ bs) = none ↔ bodyMisplaced? as = none ∧ bodyMisplaced? bs = none := by
  induction as with
  | nil => simp [bodyMisplaced?]
  | cons a as ih =>
    cases a with
    | line l => rw [List.cons_append, bodyMisplaced?, bodyMisplaced?, ih]
    | component l header body =>
      rw [List.cons_append, bodyMisplaced?_component_eq_none_iff,
        bodyMisplaced?_component_eq_none_iff, ih]
      exact and_assoc.symm

/-- The second part is reported with the title that the first leaves. -/
theorem title_append :
    ∀ title, (report title (as ++ bs)).1 = (report (report title as).1 bs).1 := by
  induction as with
  | nil => simp [report]
  | cons a as ih =>
    intro title
    cases a with
    | line l =>
      rw [List.cons_append, report, report]
      exact ih _
    | component l header body =>
      rw [List.cons_append, report, report]
      exact ih _

end Append

end Entry

/-! ## Libraries -/

/-- Whether a line is about the page as a whole. -/
def Line.isPage (l : Line) : Bool :=
  match l.content with
  | .page _ => true
  | _ => false

/-- The lines of a library: the unindented ones are component lines, all others lie in the bodies
of these, and none is about the page as a whole. -/
structure IsLibrary (lines : List Line) : Prop where
  first : ∀ l ∈ lines.head?, l.indent = 0
  components : ∀ l ∈ lines, l.indent = 0 → l.header?.isSome
  pageless : ∀ l ∈ lines, l.isPage = false

instance (lines : List Line) : Decidable (IsLibrary lines) :=
  decidable_of_iff
    ((∀ l ∈ lines.head?, l.indent = 0) ∧ (∀ l ∈ lines, l.indent = 0 → l.header?.isSome)
      ∧ ∀ l ∈ lines, l.isPage = false)
    ⟨fun h => ⟨h.1, h.2.1, h.2.2⟩, fun h => ⟨h.first, h.components, h.pageless⟩⟩

namespace Entry

/-- When the unindented lines are component lines, and the first line is one, no line stands
outside all components. -/
theorem ownLines_eq_nil {lines : List Line} (hfirst : ∀ l ∈ lines.head?, l.indent = 0)
    (hcomponents : ∀ l ∈ lines, l.indent = 0 → l.header?.isSome) :
    ownLines (ofLines lines) = [] := by
  induction lines using ofLines.induct with
  | case1 => rw [ofLines, ownLines]
  | case2 l rest header hc _ ih =>
    have hsuffix := List.dropWhile_suffix (l := rest) fun x => decide (l.indent < x.indent)
    rw [ofLines, hc]
    dsimp only
    rw [ownLines]
    refine ih ?_ fun z hz => hcomponents z (List.mem_cons_of_mem _ (hsuffix.subset hz))
    intro z hz
    have hstop := List.head?_dropWhile_not (fun x => decide (l.indent < x.indent)) rest
    rw [Option.mem_def.mp hz, hfirst l rfl] at hstop
    exact Nat.eq_zero_of_not_pos (of_decide_eq_false hstop)
  | case3 l rest hc =>
    have hsome := hcomponents l (List.mem_cons_self ..) (hfirst l rfl)
    rw [Line.header?_eq_none hc] at hsome
    exact absurd hsome Bool.false_ne_true

/-- Without a page line the title stays. -/
theorem title_of_pageless {lines : List Line} (hn : Numbered lines)
    (h : ∀ l ∈ lines, l.isPage = false) (title : Option String) :
    (report title (ofLines lines)).1 = title := by
  have hnone : lines.findSome? Line.title? = none := by
    refine List.findSome?_eq_none_iff.mpr fun l hl => ?_
    have hpage := h l hl
    unfold Line.isPage at hpage
    unfold Line.title?
    cases hcontent : l.content with
    | page new =>
      rw [hcontent] at hpage
      exact absurd hpage.symm Bool.false_ne_true
    | untagged | state _ | component _ | element _ _ => rfl
  rw [report_fst lines hn, hnone, Option.or_none]

end Entry

/-! ## A source after a library -/

/-- **What follows a library is a page of its own**, with the components of the library before its
own ones. -/
theorem Document.parse_append {library source : String} {d e : Document}
    (hd : Document.parse library = .ok d) (he : Document.parse source = .ok e)
    (hlibrary : IsLibrary (Line.ofSource library)) (hfirst : ∀ l ∈ (Line.ofSource source).head?,
      l.indent = 0) :
    ∃ k joined, Document.parse (library ++ "\n" ++ source) = .ok joined
      ∧ joined.page = { e.page with children := Node.renumberAll (· + k) e.page.children }
      ∧ joined.components = d.components ++ e.components.map (Component.renumber (· + k)) := by
  obtain ⟨hbefore, rfl⟩ := Document.parse_eq_ok_iff.mp hd
  obtain ⟨hafter, rfl⟩ := Document.parse_eq_ok_iff.mp he
  obtain ⟨k, o, hsource⟩ := Line.exists_ofSource_append library source
  have hmoves := Line.moves_later k o
  have hmoved := Entry.moved_ofLines hmoves (Line.ofSource source)
  have hhead : ∀ l ∈ ((Line.ofSource source).map (Line.later k o)).head?, l.indent = 0 := by
    intro l hl
    rw [List.head?_map] at hl
    obtain ⟨l, hmem, rfl⟩ := Option.map_eq_some_iff.mp hl
    exact hfirst l hmem
  have hentries := Entry.ofLines_append (Line.ofSource library) hhead
  have htitle := Entry.title_of_pageless (Line.numbered_ofSource library) hlibrary.pageless none
  have hown := Entry.ownLines_eq_nil hlibrary.first hlibrary.components
  rw [← hsource] at hentries
  -- From here on only the entries of the three texts matter.
  generalize Entry.ofLines (Line.ofSource library) = before at hbefore hentries htitle hown
  generalize Entry.ofLines (Line.ofSource source) = after at hafter hmoved
  generalize Entry.ofLines ((Line.ofSource source).map (Line.later k o)) = moved at hentries hmoved
  have hlines : Entry.ownLines (before ++ moved) = Entry.ownLines moved := by
    rw [Entry.ownLines_append, hown, List.nil_append]
  have hmisplaced : Entry.misplacedIn? (before ++ moved) = none := by
    rw [Entry.misplacedIn?, Entry.earlier_eq_none_iff] at hbefore hafter ⊢
    have hbody : Entry.bodyMisplaced? moved = none := by
      rw [hmoved.bodyMisplaced?_eq hmoves (fun _ _ h => Nat.add_lt_add_right h k), hafter.2,
        Option.map_none]
    refine ⟨?_, (Entry.bodyMisplaced?_append_eq_none_iff ..).mpr ⟨hbefore.2, hbody⟩⟩
    rw [Entry.ownMisplaced?, hlines]
    exact (hmoved.ownMisplaced?_eq hmoves).trans (by rw [hafter.1, Option.map_none])
  have hnodes : Entry.nodes (before ++ moved) = Node.renumberAll (· + k) (Entry.nodes after) := by
    rw [Entry.nodes, hlines]
    exact hmoved.nodes_eq hmoves
  refine ⟨k, _, Document.parse_eq_ok_iff.mpr ⟨by rw [hentries, hmisplaced], rfl⟩, ?_, ?_⟩
  · dsimp only
    rw [hentries, hnodes, Entry.title_append, htitle, hmoved.report_eq hmoves]
    rfl
  · dsimp only
    rw [hentries, Entry.components_append, hmoved.components_eq hmoves]

end PageLang
