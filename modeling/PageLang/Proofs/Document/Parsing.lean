import PageLang.Proofs.Document.Block

/-!
# Reading a block

`parseBlock` reads lines off one list: a component line reads its body from the lines after it and
hands back those that are left. Here that is taken apart. Reading a block is a run over the
entries of its lines (`readBlock_append`), and what a run gives is what the entries say
(`runs_ofLines`): the stack places the lines of the block itself, and reports and components are
gathered in their order.

A run stops at the first line that it cannot place, in whichever block. Entries look for misplaced
lines block by block and then take the earliest. The two agree since lines are numbered.

> `Document.parse_eq`: a source text gives the document of its entries.
-/

namespace PageLang

open Document (Frames Gathered Block parseBlock)

namespace Document

namespace Gathered

/-- What is gathered once entries have been read. -/
def after (g : Gathered) (entries : List Entry) : Gathered where
  title := (Entry.report g.title entries).1
  components := g.components ++ Entry.components entries
  diagnostics := g.diagnostics ++ (Entry.report g.title entries).2

variable (g : Gathered) (l : Line) (entries : List Entry)

theorem after_nil : g.after [] = g := by
  simp [after, Entry.report, Entry.components]

theorem after_line : g.after (.line l :: entries) = (g.note l).after entries := by
  simp [after, note, report, Entry.report, Entry.components]

/-- A body is gathered before its component is defined. -/
theorem after_component (header : ComponentHeader) (body : List Entry) :
    g.after (.component l header body :: entries)
      = ((g.after body).define l header (Entry.nodes body)).after entries := by
  by_cases hname : header.name = []
  · simp [after, define, report, Entry.report, Entry.components, hname]
  · simp [after, define, report, Entry.report, Entry.components, hname]

end Gathered

/-! ## Reading lines as reading entries -/

/-- What is known when a block has ended. -/
def Block.view {lines : List Line} (b : Block lines) : List Node × Gathered × List Line :=
  (b.nodes, b.gathered, b.rest)

/-- Read a block, without the bound on what is left. -/
def readBlock (base : Option Nat) (s : Frames) (g : Gathered) (lines : List Line) :
    Except Misplaced (List Node × Gathered × List Line) :=
  (parseBlock base s g lines).map Block.view

section Equations

variable {base : Option Nat} {s : Frames} {g : Gathered} {l : Line} {lines : List Line}

theorem readBlock_nil : readBlock base s g [] = .ok (s.close, g, []) := by
  rw [readBlock, parseBlock]
  rfl

/-- A line that is not deeper than the base ends the block. -/
theorem readBlock_of_stop (h : base.any (l.indent ≤ ·) = true) :
    readBlock base s g (l :: lines) = .ok (s.close, g, l :: lines) := by
  rw [readBlock, parseBlock, if_pos h]
  rfl

/-- A component line reads its body, and the block goes on with the lines that are left. -/
theorem readBlock_component {header : ComponentHeader} (h : base.any (l.indent ≤ ·) = false)
    (hl : l.header? = some header) :
    readBlock base s g (l :: lines)
      = (readBlock (some l.indent) (.container l.indent) g lines).bind fun body =>
        readBlock base s (body.2.1.define l header body.1) body.2.2 := by
  rw [readBlock, readBlock, parseBlock, if_neg (by simp [h]), hl]
  dsimp only
  cases parseBlock (some l.indent) (.container l.indent) g lines with
  | error m => rfl
  | ok body =>
    dsimp only [Except.map, Except.bind, readBlock, Block.view, bind]
    cases parseBlock base s (body.gathered.define l header body.nodes) body.rest <;> rfl

/-- Any other line is placed. -/
theorem readBlock_line (h : base.any (l.indent ≤ ·) = false) (hl : l.header? = none) :
    readBlock base s g (l :: lines)
      = (s.placeLine l).bind fun s => readBlock base s (g.note l) lines := by
  rw [readBlock, parseBlock, if_neg (by simp [h]), hl]
  dsimp only
  cases s.placeLine l with
  | error m => rfl
  | ok t =>
    dsimp only [Except.map, Except.bind, readBlock, bind]
    cases parseBlock base t (g.note l) lines <;> rfl

end Equations

end Document

namespace Entry

/-- Read entries: the lines of the block are placed on its stack, and every body is read on a
stack of its own. -/
def run (s : Frames) (g : Gathered) : List Entry → Except Misplaced (Frames × Gathered)
  | [] => .ok (s, g)
  | .line l :: entries => (s.placeLine l).bind fun s => run s (g.note l) entries
  | .component l header body :: entries =>
    (run (.container l.indent) g body).bind fun inner =>
      run s (inner.2.define l header inner.1.close) entries

end Entry

/-- A line that ends a block ends the bodies in it. -/
theorem Document.any_le_of_stop {base : Option Nat} {l : Line} {zs : List Line}
    (hl : base.any (l.indent ≤ ·) = false) (hstop : ∀ z ∈ zs.head?, base.any (z.indent ≤ ·) = true)
    (rest : List Line) :
    ∀ z ∈ (rest.dropWhile (fun x => l.indent < x.indent) ++ zs).head?,
      (some l.indent).any (z.indent ≤ ·) = true := by
  intro z hz
  have hnot := List.head?_dropWhile_not (fun x : Line => decide (l.indent < x.indent)) rest
  cases hrest : rest.dropWhile (fun x => l.indent < x.indent) with
  | nil =>
    rw [hrest, List.nil_append] at hz
    have hend := hstop z hz
    cases base with
    | none => cases hend
    | some b =>
      simp only [Option.any_some, decide_eq_true_eq, decide_eq_false_iff_not] at hl hend ⊢
      omega
  | cons w ws =>
    rw [hrest] at hz hnot
    obtain rfl : w = z := Option.some.inj hz
    simpa using hnot

/-- **Reading a block is a run over the entries of its lines.** They are the lines that the block
does not end at, and the lines from there on are left. -/
theorem Document.readBlock_append (xs : List Line) : ∀ {base : Option Nat} {zs : List Line},
    (∀ x ∈ xs, base.any (x.indent ≤ ·) = false) →
    (∀ z ∈ zs.head?, base.any (z.indent ≤ ·) = true) →
    ∀ s g, readBlock base s g (xs ++ zs)
      = (Entry.run s g (Entry.ofLines xs)).map fun r => (r.1.close, r.2, zs) := by
  induction xs using Entry.ofLines.induct with
  | case1 =>
    intro base zs _ hstop s g
    rw [List.nil_append, Entry.ofLines, Entry.run]
    cases zs with
    | nil => exact readBlock_nil
    | cons z zs => exact readBlock_of_stop (hstop z rfl)
  | case2 l rest header hc ihBody ihRest =>
    intro base zs hin hstop s g
    have hl : l.header? = some header := by rw [Line.header?, hc]
    have hbase := hin l (List.mem_cons_self ..)
    have hsplit : rest ++ zs = rest.takeWhile (fun x => l.indent < x.indent)
        ++ (rest.dropWhile (fun x => l.indent < x.indent) ++ zs) := by
      rw [← List.append_assoc, List.takeWhile_append_dropWhile]
    have hdeeper : ∀ x ∈ rest.takeWhile (fun x => l.indent < x.indent),
        (some l.indent).any (x.indent ≤ ·) = false := by
      intro x hx
      simpa using List.mem_takeWhile_imp hx
    have hbody := ihBody hdeeper (any_le_of_stop hbase hstop rest) (.container l.indent) g
    rw [List.cons_append, readBlock_component hbase hl, hsplit, hbody,
      Entry.ofLines_cons_of_some hl, Entry.run]
    cases Entry.run (.container l.indent) g
      (Entry.ofLines (rest.takeWhile fun x => l.indent < x.indent)) with
    | error m => rfl
    | ok inner =>
      refine ihRest (fun x hx => ?_) hstop s _
      exact hin x (List.mem_cons_of_mem _ ((List.dropWhile_sublist _).subset hx))
  | case3 l rest hc ih =>
    intro base zs hin hstop s g
    have hl := Line.header?_eq_none hc
    rw [List.cons_append, readBlock_line (hin l (List.mem_cons_self ..)) hl,
      Entry.ofLines_cons_of_none hl, Entry.run]
    cases s.placeLine l with
    | error m => rfl
    | ok t => exact ih (fun x hx => hin x (List.mem_cons_of_mem _ hx)) hstop t _

/-! ## What a run gives -/

namespace Document.Frames

/-- The line that cannot be placed, if there is one. -/
def fault? (s : Frames) (lines : List Line) : Option Misplaced :=
  match lines.foldlM placeLine s with
  | .error m => some m
  | .ok _ => none

theorem Frame.line_of_checkSibling_eq_error {f : Frame} {l : Line} {m : Misplaced}
    (h : f.checkSibling l = .error m) : m.line = l := by
  unfold Frame.checkSibling at h
  split at h
  · cases h
  · split at h
    · cases h
    · rw [← Except.error.inj h]

/-- A line that cannot be placed is the one that is found. -/
theorem line_of_placeLine_eq_error {s : Frames} {l : Line} {m : Misplaced}
    (h : s.placeLine l = .error m) : m.line = l := by
  unfold placeLine at h
  split at h
  · cases h
  · unfold place at h
    dsimp only at h
    cases hcheck : (s.closeUntil l.indent).top.checkSibling l with
    | error m' =>
      rw [hcheck] at h
      rw [← Except.error.inj h]
      exact Frame.line_of_checkSibling_eq_error hcheck
    | ok top =>
      rw [hcheck] at h
      dsimp only [bind, Except.bind] at h
      split at h <;> cases h

variable {s : Frames} {l : Line} {lines : List Line}

theorem fault?_cons_of_error {m : Misplaced} (h : s.placeLine l = .error m) :
    s.fault? (l :: lines) = some m := by
  rw [fault?, List.foldlM_cons, h]
  rfl

theorem fault?_cons_of_ok {t : Frames} (h : s.placeLine l = .ok t) :
    s.fault? (l :: lines) = t.fault? lines := by
  rw [fault?, List.foldlM_cons, h]
  rfl

/-- With no fault, all lines are placed. -/
theorem exists_of_fault?_eq_none (h : s.fault? lines = none) :
    ∃ t, lines.foldlM placeLine s = .ok t := by
  unfold fault? at h
  split at h
  · cases h
  · next t ht => exact ⟨t, ht⟩

/-- The line at fault is one of the lines. -/
theorem mem_of_fault? {m : Misplaced} :
    ∀ {s : Frames}, s.fault? lines = some m → m.line ∈ lines := by
  induction lines with
  | nil =>
    intro s h
    cases h
  | cons l lines ih =>
    intro s h
    cases hplace : s.placeLine l with
    | error m' =>
      rw [fault?_cons_of_error hplace] at h
      rw [← Option.some.inj h, line_of_placeLine_eq_error hplace]
      exact List.mem_cons_self ..
    | ok t =>
      rw [fault?_cons_of_ok hplace] at h
      exact List.mem_cons_of_mem _ (ih h)

end Document.Frames

namespace Entry

/-- The first line of a block that its stack refuses is the one that `ownMisplaced?` finds. -/
theorem fault?_ownLines (indent : Nat) (entries : List Entry) :
    (Frames.container indent).fault? (ownLines entries) = ownMisplaced? entries := by
  have hnode : ∀ x ∈ NodeLine.ofLines (ownLines entries), x.line.node? = some x.node :=
    fun _ hx => NodeLine.node?_of_mem_ofLines hx
  rw [Frames.fault?, Frames.foldlM_placeLine, ownMisplaced?]
  cases hm : misplaced? none (NodeLine.ofLines (ownLines entries)) with
  | some m => rw [Frames.placeAll_of_misplaced? indent hnode hm]
  | none =>
    obtain ⟨t, ht, -⟩ := Frames.close_placeAll indent hnode hm
    rw [ht]

/-- The stack of a block in which nothing is misplaced closes to the trees of the block. -/
theorem close_ownLines {indent : Nat} {entries : List Entry} {t : Frames}
    (h : (ownLines entries).foldlM Frames.placeLine (Frames.container indent) = .ok t) :
    t.close = nodes entries := by
  have hnode : ∀ x ∈ NodeLine.ofLines (ownLines entries), x.line.node? = some x.node :=
    fun _ hx => NodeLine.node?_of_mem_ofLines hx
  rw [Frames.foldlM_placeLine] at h
  cases hm : misplaced? none (NodeLine.ofLines (ownLines entries)) with
  | some m =>
    rw [Frames.placeAll_of_misplaced? indent hnode hm] at h
    cases h
  | none =>
    obtain ⟨t', ht, hclose⟩ := Frames.close_placeAll indent hnode hm
    rw [ht] at h
    rw [← Except.ok.inj h, hclose, nodes]

/-- The lines of the page are among the lines. -/
theorem ownLines_subset (lines : List Line) (h : Numbered lines) :
    ownLines (ofLines lines) ⊆ lines := by
  induction lines, h using ofLines_induction with
  | nil =>
    rw [ofLines]
    exact List.nil_subset _
  | line l rest hn hl ih =>
    rw [ofLines_cons_of_none hl, ownLines]
    exact List.cons_subset_cons l ih
  | component l ys zs header hcut hl _ ih =>
    rw [ofLines_cut hcut hl, ownLines]
    exact fun x hx => List.mem_cons_of_mem _ (List.mem_append_right _ (ih hx))

/-- A misplaced line of a block is one of its lines. -/
theorem mem_of_ownMisplaced? {lines : List Line} (h : Numbered lines) {m : Misplaced}
    (hm : ownMisplaced? (ofLines lines) = some m) : m.line ∈ lines := by
  rw [← fault?_ownLines 0] at hm
  exact ownLines_subset lines h (Frames.mem_of_fault? hm)

/-- What comes before all others is found, on either side. -/
theorem earlier_eq_left {x : Misplaced} {b : Option Misplaced}
    (h : ∀ y ∈ b, x.line.number < y.line.number) : earlier (some x) b = some x := by
  cases b with
  | none => rfl
  | some y => rw [earlier, if_pos (h y rfl)]

/-- The second one wins if it comes before the first. -/
theorem earlier_eq_right {a : Option Misplaced} {y : Misplaced}
    (h : ∀ x ∈ a, y.line.number < x.line.number) : earlier a (some y) = some y := by
  cases a with
  | none => rfl
  | some x => rw [earlier, if_neg (Nat.lt_asymm (h x rfl))]

theorem mem_of_earlier {a b : Option Misplaced} {m : Misplaced} (h : earlier a b = some m) :
    a = some m ∨ b = some m := by
  cases a with
  | none => exact .inr h
  | some x =>
    cases b with
    | none => exact .inl h
    | some y =>
      rw [earlier] at h
      split at h
      · exact .inl h
      · exact .inr h

/-- A misplaced line of a body is one of the lines. -/
theorem mem_of_bodyMisplaced? {lines : List Line} (h : Numbered lines) {m : Misplaced} :
    bodyMisplaced? (ofLines lines) = some m → m.line ∈ lines := by
  induction lines, h using ofLines_induction with
  | nil =>
    intro hm
    rw [ofLines, bodyMisplaced?] at hm
    cases hm
  | line l rest hn hl ih =>
    intro hm
    rw [ofLines_cons_of_none hl, bodyMisplaced?] at hm
    exact List.mem_cons_of_mem _ (ih hm)
  | component l ys zs header hcut hl ihBody ihRest =>
    intro hm
    rw [ofLines_cut hcut hl, bodyMisplaced?_component] at hm
    refine List.mem_cons_of_mem _ (List.mem_append.mpr ?_)
    rcases Option.or_eq_some_iff.mp hm with hbody | ⟨-, hrest⟩
    · rcases mem_of_earlier hbody with hown | hinner
      · exact .inl (mem_of_ownMisplaced? hcut.numbered_left hown)
      · exact .inl (ihBody hinner)
    · exact .inr (ihRest hrest)

/-- What a run over the entries of a block comes to. -/
structure Runs (s : Frames) (g : Gathered) (entries : List Entry) : Prop where
  misplaced : ∀ m, earlier (s.fault? (ownLines entries)) (bodyMisplaced? entries) = some m →
    run s g entries = .error m
  placed : ∀ t, (ownLines entries).foldlM Frames.placeLine s = .ok t →
    bodyMisplaced? entries = none → run s g entries = .ok (t, g.after entries)

section Steps

variable {s u : Frames} {g : Gathered} {l : Line} {header : ComponentHeader}
  {body entries : List Entry} {m : Misplaced}

/-- A run over no entries changes nothing. -/
theorem runs_nil : Runs s g [] where
  misplaced m hm := by
    rw [bodyMisplaced?] at hm
    cases hm
  placed t ht _ := by rw [run, ← Except.ok.inj ht, Gathered.after_nil]

/-- A line that is refused ends the run, if what is misplaced in the bodies comes later. -/
theorem Runs.line_of_error (hplace : s.placeLine l = .error m)
    (hlater : ∀ m' ∈ bodyMisplaced? entries, m.line.number < m'.line.number) :
    Runs s g (.line l :: entries) where
  misplaced m' hm' := by
    rw [ownLines, Frames.fault?_cons_of_error hplace, bodyMisplaced?, earlier_eq_left hlater] at hm'
    rw [run, hplace, ← Option.some.inj hm']
    rfl
  placed t ht _ := by
    rw [ownLines, List.foldlM_cons, hplace] at ht
    cases ht

/-- A line that is placed is noted, and the run goes on. -/
theorem Runs.line_of_ok (hplace : s.placeLine l = .ok u) (h : Runs u (g.note l) entries) :
    Runs s g (.line l :: entries) := by
  have hrun : run s g (.line l :: entries) = run u (g.note l) entries := by
    rw [run, hplace]
    rfl
  refine ⟨fun m hm => ?_, fun t ht hbody => ?_⟩
  · rw [ownLines, Frames.fault?_cons_of_ok hplace, bodyMisplaced?] at hm
    exact hrun.trans (h.misplaced m hm)
  · rw [ownLines, List.foldlM_cons, hplace] at ht
    rw [bodyMisplaced?] at hbody
    rw [hrun, Gathered.after_line]
    exact h.placed t ht hbody

/-- A misplaced line in a body ends the run, if it comes before all of the block after the body. -/
theorem Runs.component_of_misplaced (hbody : Runs (.container l.indent) g body)
    (hm : earlier (ownMisplaced? body) (bodyMisplaced? body) = some m)
    (hlater : ∀ m' ∈ s.fault? (ownLines entries), m.line.number < m'.line.number) :
    Runs s g (.component l header body :: entries) where
  misplaced m' hm' := by
    have hstop := hbody.misplaced m (by rw [fault?_ownLines, hm])
    rw [ownLines, bodyMisplaced?_component, hm, Option.some_or, earlier_eq_right hlater] at hm'
    rw [run, hstop, ← Option.some.inj hm']
    rfl
  placed t _ hnone := by
    rw [bodyMisplaced?_component, hm] at hnone
    cases hnone

/-- A body in which nothing is misplaced defines its component, and the run goes on. -/
theorem Runs.component_of_placed (hbody : Runs (.container l.indent) g body)
    (hm : earlier (ownMisplaced? body) (bodyMisplaced? body) = none)
    (h : Runs s ((g.after body).define l header (nodes body)) entries) :
    Runs s g (.component l header body :: entries) := by
  obtain ⟨hown, hinner⟩ := (earlier_eq_none_iff _ _).mp hm
  rw [← fault?_ownLines l.indent] at hown
  obtain ⟨t, ht⟩ := Frames.exists_of_fault?_eq_none hown
  have hrun : run s g (.component l header body :: entries)
      = run s ((g.after body).define l header (nodes body)) entries := by
    rw [run, hbody.placed t ht hinner, ← close_ownLines ht]
    rfl
  refine ⟨fun m hm' => ?_, fun t ht hnone => ?_⟩
  · rw [ownLines, bodyMisplaced?_component, hm, Option.none_or] at hm'
    exact hrun.trans (h.misplaced m hm')
  · rw [bodyMisplaced?_component, hm, Option.none_or] at hnone
    rw [hrun, Gathered.after_component]
    exact h.placed t ht hnone

end Steps

/-- **A run stops at the earliest misplaced line, and gathers what the entries say otherwise.** -/
theorem runs_ofLines (lines : List Line) (h : Numbered lines) :
    ∀ s g, Runs s g (ofLines lines) := by
  induction lines, h using ofLines_induction with
  | nil =>
    intro s g
    rw [ofLines]
    exact runs_nil
  | line l rest hn hl ih =>
    intro s g
    rw [ofLines_cons_of_none hl]
    cases hplace : s.placeLine l with
    | error m =>
      refine .line_of_error hplace fun m' hm' => ?_
      rw [Frames.line_of_placeLine_eq_error hplace]
      exact List.rel_of_pairwise_cons hn (mem_of_bodyMisplaced? hn.of_cons hm')
    | ok u => exact .line_of_ok hplace (ih u (g.note l))
  | component l ys zs header hcut hl ihBody ihRest =>
    intro s g
    rw [ofLines_cut hcut hl]
    cases hinner : earlier (ownMisplaced? (ofLines ys)) (bodyMisplaced? (ofLines ys)) with
    | none => exact .component_of_placed (ihBody _ g) hinner (ihRest s _)
    | some m =>
      -- The line is in the body, and so before every line that follows it in the block.
      have hm : m.line ∈ ys := by
        rcases mem_of_earlier hinner with hown | hbody
        · exact mem_of_ownMisplaced? hcut.numbered_left hown
        · exact mem_of_bodyMisplaced? hcut.numbered_left hbody
      refine .component_of_misplaced (ihBody _ g) hinner fun m' hm' => ?_
      exact hcut.lt_of_mem_of_mem hm
        (ownLines_subset zs hcut.numbered_right (Frames.mem_of_fault? hm'))

end Entry

/-- A document is refused for the line at which reading its lines stops. -/
theorem Document.parse_of_readBlock_error {source : String} {m : Misplaced}
    (h : readBlock none (.container 0) {} (Line.ofSource source) = .error m) :
    Document.parse source = .error m.error := by
  unfold readBlock at h
  unfold Document.parse
  cases hparse : parseBlock none (.container 0) {} (Line.ofSource source) with
  | ok block =>
    rw [hparse] at h
    cases h
  | error m' =>
    rw [hparse] at h
    rw [Except.error.inj h]

/-- Otherwise it has the nodes that were read and what was gathered on the way. -/
theorem Document.parse_of_readBlock_ok {source : String} {nodes : List Node} {g : Gathered}
    {rest : List Line}
    (h : readBlock none (.container 0) {} (Line.ofSource source) = .ok (nodes, g, rest)) :
    Document.parse source = .ok ⟨Node.page g.title nodes, g.components, g.diagnostics⟩ := by
  unfold readBlock at h
  unfold Document.parse
  cases hparse : parseBlock none (.container 0) {} (Line.ofSource source) with
  | error m =>
    rw [hparse] at h
    cases h
  | ok block =>
    rw [hparse] at h
    have hview : block.view = (nodes, g, rest) := Except.ok.inj h
    obtain ⟨rfl, hrest⟩ := Prod.mk.inj hview
    obtain ⟨rfl, -⟩ := Prod.mk.inj hrest
    rfl

/-- **A source text gives the document of its entries.** -/
theorem Document.parse_eq (source : String) :
    Document.parse source = Entry.document (Entry.ofLines (Line.ofSource source)) := by
  have hread : readBlock none (.container 0) {} (Line.ofSource source ++ []) = _ :=
    readBlock_append _ (by simp) (by simp) _ _
  have hruns := Entry.runs_ofLines _ (Line.numbered_ofSource source) (.container 0) {}
  rw [List.append_nil] at hread
  unfold Entry.document
  cases hm : Entry.misplacedIn? (Entry.ofLines (Line.ofSource source)) with
  | some m =>
    rw [hruns.misplaced m (by rw [Entry.fault?_ownLines]; exact hm)] at hread
    exact parse_of_readBlock_error hread
  | none =>
    obtain ⟨hown, hbody⟩ := (Entry.earlier_eq_none_iff _ _).mp hm
    rw [← Entry.fault?_ownLines 0] at hown
    obtain ⟨t, ht⟩ := Frames.exists_of_fault?_eq_none hown
    rw [hruns.placed t ht hbody] at hread
    rw [parse_of_readBlock_ok hread, Entry.close_ownLines ht]
    rfl

/-- A source text is refused for the first misplaced line of its entries. -/
theorem Document.parse_eq_error_iff {source : String} {err : ParseError} :
    Document.parse source = .error err ↔
      ∃ m, Entry.misplacedIn? (Entry.ofLines (Line.ofSource source)) = some m ∧ err = m.error := by
  rw [Document.parse_eq, Entry.document]
  cases Entry.misplacedIn? (Entry.ofLines (Line.ofSource source)) <;> simp [eq_comm]

/-- It is accepted if there is none, and then holds the trees, the components and the reports of its
entries. -/
theorem Document.parse_eq_ok_iff {source : String} {d : Document} :
    Document.parse source = .ok d ↔
      Entry.misplacedIn? (Entry.ofLines (Line.ofSource source)) = none
        ∧ d = ⟨Node.page (Entry.report none (Entry.ofLines (Line.ofSource source))).1
            (Entry.nodes (Entry.ofLines (Line.ofSource source))),
          Entry.components (Entry.ofLines (Line.ofSource source)),
          (Entry.report none (Entry.ofLines (Line.ofSource source))).2⟩ := by
  rw [Document.parse_eq, Entry.document]
  cases Entry.misplacedIn? (Entry.ofLines (Line.ofSource source)) <;> simp [eq_comm]

end PageLang
