import PageLang.Proofs.Document.Joining
import PageLang.Proofs.Document.Quotes

/-!
# The title of a page

The text after `title:` is meant to be the title, whatever it holds. But it is read as a list of
pairs: a comma or a colon outside quotes and brackets ends the title, and what follows is dropped
without a report.

> `Document.title_whole_iff`: a title line is reported, or the title is all of its text, exactly
> if the line gives no title or comes too late, or if its text has no such comma or colon and no
> quotes at its ends that are no pair.
-/

namespace PageLang

open Text (isBlank isQuote trim trimStart trimEnd stored)

namespace Properties

open Scan (isInert)

/-! ## The first value of a list of pairs -/

/-- Blanks are neither quotes nor brackets, and they separate nothing. -/
theorem isInert_of_isBlank {c : Char} (h : isBlank c = true) :
    isInert c = true ∧ isSeparator c = false := by
  refine ⟨?_, ?_⟩
  · by_contra hc
    simp only [isInert, isQuote, isOpening, isClosing, Bool.and_eq_true, Bool.not_eq_true',
      Bool.or_eq_false_iff, decide_eq_false_iff_not, not_and_or, not_not] at hc
    rcases hc with ((rfl | rfl) | (rfl | rfl) | rfl) | (rfl | rfl) | rfl <;> cases h
  · rw [← Bool.not_eq_true]
    intro hc
    rcases Bool.or_eq_true_iff.mp hc with hc | hc <;> rw [of_decide_eq_true hc] at h <;> cases h

section FirstValue

variable {key blanks value : List Char} (p : Properties) (first : Bool)

theorem put_append_blanks (hblanks : ∀ c ∈ blanks, isBlank c = true) :
    p.put key (blanks ++ value) = p.put key value := by
  have htrim : trim (blanks ++ value) = trim value :=
    congrArg trimEnd (List.dropWhile_append_of_pos hblanks)
  rw [put, put, stored, htrim, stored]

/-- Blanks after the colon of a pair do not matter. -/
theorem addPairs_blanks (hk : IsKey key) (hblanks : ∀ c ∈ blanks, isBlank c = true) :
    addPairs p first (key ++ ':' :: (blanks ++ value))
      = addPairs p first (key ++ ':' :: value) := by
  have hpasses : ({} : Scan).passes isSeparator blanks = true :=
    Scan.passes_of_forall (fun c hc => (isInert_of_isBlank (hblanks c hc)).2) {}
  have hafter : ({} : Scan).after blanks = {} :=
    Scan.after_of_isInert (fun c hc => (isInert_of_isBlank (hblanks c hc)).1) 0
  -- The search comes out of the blanks as it went in, so it finds what it would find without them.
  have hfind : find? isSeparator (blanks ++ value)
      = (find? isSeparator value).map fun f => (f.1 + blanks.length, f.2) := by
    have hwalk := findFrom_append separators_isSeparator hpasses value
    rwa [hafter] at hwalk
  rw [addPairs_pair p first hk, addPairs_pair p first hk, hfind]
  cases find? isSeparator value with
  | none => exact put_append_blanks p hblanks
  | some found =>
    obtain ⟨k, c⟩ := found
    have htake : (blanks ++ value).take (k + blanks.length) = blanks ++ value.take k := by
      rw [Nat.add_comm, List.take_length_add_append]
    have hdrop : (blanks ++ value).drop (k + blanks.length + 1) = value.drop (k + 1) := by
      rw [Nat.add_right_comm, Nat.add_comm (k + 1), List.drop_length_add_append]
    simp only [Option.map_some, Option.elim_some, htake, hdrop, put_append_blanks p hblanks]

/-- Without a comma or a colon outside quotes and brackets all of the text is the value of the
first key. -/
theorem get?_first_of_passes (hk : IsKey key) (h : ({} : Scan).passes isSeparator value = true) :
    (addPairs {} true (key ++ ':' :: value)).pairs.get? (String.ofList key)
      = if stored value = [] then none else some (String.ofList (stored value)) := by
  rw [addPairs_pair {} true hk, (find?_eq_none_iff separators_isSeparator).mpr h, Option.elim_none,
    put_eq_single hk.ne_nil, get?_single]

/-- With one, whatever the value of the first key is in the end, it is shorter than the text. -/
theorem length_first_lt (hk : IsKey key) (h : ({} : Scan).passes isSeparator value = false)
    {v : String} (hv : (addPairs {} true (key ++ ':' :: value)).pairs.get? (String.ofList key)
      = some v) :
    v.length < value.length := by
  cases hfind : find? isSeparator value with
  | none =>
    rw [(find?_eq_none_iff separators_isSeparator).mp hfind] at h
    cases h
  | some found =>
    obtain ⟨k, c⟩ := found
    obtain ⟨-, -, hlt, -⟩ := sealed_of_find? separators_isSeparator hfind
    have htake := List.length_take (i := k) (l := value)
    have hfirst (hput : (put {} key (value.take k)).pairs.get? (String.ofList key) = some v) :
        v.length < value.length := by
      rcases get?_put hput with hold | ⟨-, rfl⟩
      · cases hold
      · have hle := (length_stored_le (value.take k)).trans (Text.length_trim_le _)
        rw [String.length_ofList]
        omega
    rw [addPairs_pair {} true hk, hfind, Option.elim_some] at hv
    dsimp only at hv
    split at hv
    · -- A comma: the key may come again, but only in what is left.
      rcases (fits_addPairs _ false _ (content_put ..)).pair _ _ hv with hput | hroom
      · exact hfirst hput
      · have hrest := Text.length_trimStart_le (value.drop (k + 1))
        rw [List.length_drop] at hrest
        omega
    · exact hfirst hv

end FirstValue

/-- A text with a comma or a colon outside quotes and brackets is no literal. -/
theorem not_isLiteral_of_passes {value : List Char}
    (h : ({} : Scan).passes isSeparator value = false) : ¬ IsLiteral value := by
  rintro ⟨q, inner, hq, hmem, rfl⟩
  rw [(sealed_quoted separators_isSeparator hq hmem).passes] at h
  cases h

end Properties

open Properties (IsKey EndsUnpaired Scan isSeparator unquoted)

/-! ## The title of a line -/

section TitleLine

variable {l : Line} {rest value : List Char} (htag : splitTag l.text = ("page".toList, rest))

include htag

theorem Line.content_page : l.content = .page ((Properties.ofText rest).pairs.get? "title") := by
  unfold Line.content
  rw [htag]
  dsimp only
  rw [if_neg (by decide), if_pos rfl]

variable (htitle : trimStart rest = "title:".toList ++ value) (hne : trim value ≠ [])

include htitle hne

/-- Blanks before the title, after its colon and at the end of the line do not matter. -/
theorem Line.title?_eq :
    l.title? = (Properties.addPairs {} true ("title".toList ++ ':' :: trim value)).pairs.get?
      (String.ofList "title".toList) := by
  have hkey : IsKey "title".toList := by decide
  have htext : trim rest = "title".toList ++ ':' :: (value.takeWhile isBlank ++ trim value) := by
    have hcolon : "title:".toList = "title".toList ++ [':'] := by decide
    rw [trim, htitle, hcolon, List.append_assoc, List.singleton_append,
      Text.trimEnd_append_cons (by decide), Text.trimEnd_eq_append_trim hne]
  have hblanks : ∀ c ∈ value.takeWhile isBlank, isBlank c = true :=
    fun c hc => List.mem_takeWhile_imp hc
  rw [Line.title?, Line.content_page htag, Properties.ofText_of_trim htext hkey,
    Properties.addPairs_blanks {} true hkey hblanks]
  rfl

theorem Line.title?_of_passes (h : ({} : Scan).passes isSeparator (trim value) = true) :
    l.title?
      = if stored (trim value) = [] then none else some (String.ofList (stored (trim value))) := by
  rw [Line.title?_eq htag htitle hne, Properties.get?_first_of_passes (by decide) h]

/-- A line that gives a title gives the text of its literal, or all of its text, unless there is a
separator in it or the quotes at its ends are no pair; then it gives something shorter. -/
theorem Line.title?_eq_some {v : String} (hv : l.title? = some v) :
    (v = String.ofList (unquoted (trim value))
        ↔ ({} : Scan).passes isSeparator (trim value) = true ∧ ¬ EndsUnpaired (trim value))
      ∧ (v ≠ String.ofList (unquoted (trim value)) → v.length < (trim value).length) := by
  have htrim : trim (trim value) = trim value :=
    Text.trim_eq_self (Text.isBlank_head?_trim value) (Text.isBlank_getLast?_trim value)
  cases hpasses : ({} : Scan).passes isSeparator (trim value) with
  | false =>
    have hlt : v.length < (trim value).length := by
      rw [Line.title?_eq htag htitle hne] at hv
      exact Properties.length_first_lt (by decide) hpasses hv
    refine ⟨iff_of_false (fun heq => ?_) (fun hkept => Bool.false_ne_true hkept.1), fun _ => hlt⟩
    rw [heq, Properties.unquoted_of_not_isLiteral (Properties.not_isLiteral_of_passes hpasses),
      String.length_ofList] at hlt
    exact Nat.lt_irrefl _ hlt
  | true =>
    rw [Line.title?_of_passes htag htitle hne hpasses] at hv
    split at hv
    · cases hv
    · have hstored := @Properties.stored_eq_unquoted_iff (trim value)
      rw [htrim] at hstored
      obtain rfl := Option.some.inj hv
      have hsame : String.ofList (stored (trim value)) = String.ofList (unquoted (trim value))
          ↔ ¬ EndsUnpaired (trim value) :=
        ⟨fun heq => hstored.mp (String.ofList_injective heq),
          fun hpaired => congrArg String.ofList (hstored.mpr hpaired)⟩
      refine ⟨⟨fun heq => ⟨rfl, hsame.mp heq⟩, fun hkept => hsame.mpr hkept.2⟩, fun hdiffer => ?_⟩
      have hunpaired : EndsUnpaired (trim value) := by
        by_contra hpaired
        exact hdiffer (hsame.mpr hpaired)
      have henclosed := Properties.enclosed_iff.mpr (.inr hunpaired)
      rw [String.length_ofList, Properties.stored_of_enclosed (htrim.symm ▸ henclosed), htrim]
      exact henclosed.length_lt

end TitleLine

/-! ## The title of the document -/

theorem Node.title?_page (title : Option String) (children : List Node) :
    (Node.page title children).title? = title := by
  cases title with
  | none => rfl
  | some t => exact (OrderedMap.get?_insert ..).trans (if_pos rfl)

namespace Document

variable {source : String} {d : Document} (h : Document.parse source = .ok d)

include h

/-- The title of a document is the first that a line gives. -/
theorem title?_eq_findSome? : d.page.title? = (Line.ofSource source).findSome? Line.title? := by
  obtain ⟨-, rfl⟩ := Document.parse_eq_ok_iff.mp h
  rw [Node.title?_page, Entry.report_fst _ (Line.numbered_ofSource source), Option.none_or]

variable {l : Line} (hl : l ∈ Line.ofSource source)

include hl

/-- A page line is reported exactly if it gives no title, or if an earlier line gives one. -/
theorem reported_iff {title : Option String} (hpage : l.content = .page title) :
    (∃ diag ∈ d.diagnostics, diag.line = l.number)
      ↔ title = none ∨ ∃ z ∈ Line.ofSource source, z.number < l.number
        ∧ z.title?.isSome = true := by
  obtain ⟨-, rfl⟩ := Document.parse_eq_ok_iff.mp h
  have hheader : l.header? = none := by rw [Line.header?, hpage]
  have hreport := Entry.onNumber_report _ (Line.numbered_ofSource source) none l hl hheader
  have hsome :
      (∃ diag ∈ (Entry.report none (Entry.ofLines (Line.ofSource source))).2, diag.line = l.number)
      ↔ Entry.onNumber l.number (Entry.report none (Entry.ofLines (Line.ofSource source))).2
          ≠ [] := by
    simp [Entry.onNumber, List.filter_eq_nil_iff]
  rw [hsome, hreport, ← titleBefore_isSome_iff, Option.none_or, lineFindings, hpage]
  cases title with
  | none => simp
  | some new => cases titleBefore (Line.ofSource source) l <;> simp

/-- A page line that is not reported sets the title. -/
theorem title?_of_not_reported {title : Option String} (hpage : l.content = .page title)
    (hnot : ¬ ∃ diag ∈ d.diagnostics, diag.line = l.number) :
    d.page.title? = title ∧ title ≠ none := by
  rw [Document.reported_iff h hl hpage, not_or] at hnot
  obtain ⟨hsome, hearlier⟩ := hnot
  obtain ⟨new, rfl⟩ := Option.ne_none_iff_exists'.mp hsome
  have htitle : l.title? = some new := by rw [Line.title?, hpage]
  have hn := Line.numbered_ofSource source
  obtain ⟨before, after, hlines⟩ := List.append_of_mem hl
  have hbefore : before.findSome? Line.title? = none := by
    refine List.findSome?_eq_none_iff.mpr fun z hz => Option.not_isSome_iff_eq_none.mp fun hz' =>
      hearlier ?_
    rw [hlines] at hn ⊢
    exact ⟨z, List.mem_append_left _ hz,
      (List.pairwise_append.mp hn).2.2 z hz l (List.mem_cons_self ..), hz'⟩
  rw [Document.title?_eq_findSome? h, hlines, List.findSome?_append, hbefore,
    List.findSome?_cons, htitle]
  exact ⟨rfl, hsome⟩

end Document

/-- **A title line is reported or its text is the title, except where the text is not kept.** Let
`t` be the text after `title:`. Either a diagnostic is reported on the line or the title of the
page is `t`, without quotes if `t` is a literal, exactly if the line gives no title, or an earlier
line gives one, or `t` has no comma and no colon outside quotes and brackets and does not begin
and end with quotes that are no pair. In the first two cases the line is reported. Otherwise
nothing is reported on it, and the title is shorter than `t`. -/
theorem Document.title_whole_iff {source : String} {d : Document}
    (h : Document.parse source = .ok d) {l : Line} (hl : l ∈ Line.ofSource source)
    {rest value : List Char} (htag : splitTag l.text = ("page".toList, rest))
    (htitle : trimStart rest = "title:".toList ++ value) (hne : trim value ≠ []) :
    let t := trim value
    let reported := ∃ diag ∈ d.diagnostics, diag.line = l.number
    let late := ∃ z ∈ Line.ofSource source, z.number < l.number ∧ z.title?.isSome = true
    let kept := ({} : Scan).passes isSeparator t = true ∧ ¬ EndsUnpaired t
    (reported ∨ d.page.title? = some (String.ofList (unquoted t)) ↔ l.title? = none ∨ late ∨ kept)
      ∧ (reported ↔ l.title? = none ∨ late)
      ∧ (¬ (l.title? = none ∨ late ∨ kept) → ∃ v, d.page.title? = some v
          ∧ v.length < t.length) := by
  intro t reported late kept
  have hpage := Line.content_page htag
  have hgives : l.title? = (Properties.ofText rest).pairs.get? "title" := by rw [Line.title?, hpage]
  rw [← hgives] at hpage
  have hreported : reported ↔ l.title? = none ∨ late := Document.reported_iff h hl hpage
  have hset (hnot : ¬ reported) : ∃ v, d.page.title? = some v
      ∧ (v = String.ofList (unquoted t) ↔ kept)
      ∧ (v ≠ String.ofList (unquoted t) → v.length < t.length) := by
    obtain ⟨hsame, hsome⟩ := Document.title?_of_not_reported h hl hpage hnot
    obtain ⟨v, hv⟩ := Option.ne_none_iff_exists'.mp hsome
    exact ⟨v, hsame.trans hv, Line.title?_eq_some htag htitle hne hv⟩
  refine ⟨?_, hreported, fun hlost => ?_⟩
  · by_cases hcase : reported
    · exact iff_of_true (.inl hcase) ((hreported.mp hcase).imp_right .inl)
    · obtain ⟨v, hv, hwhole, -⟩ := hset hcase
      have hno := fun hcases => hcase (hreported.mpr hcases)
      rw [or_iff_right hcase, ← or_assoc, or_iff_right hno, hv, Option.some.injEq, hwhole]
  · rw [← or_assoc, not_or, ← hreported] at hlost
    obtain ⟨v, hv, hwhole, hshort⟩ := hset hlost.1
    exact ⟨v, hv, hshort fun heq => hlost.2 (hwhole.mp heq)⟩

/-- A quoted title with separators, in the body of a component and before another title line. -/
theorem Document.title_whole_iff_quoted :
    let source := "component card\n  page title: \"A, b: c\" \npage title: x, y\n"
    ∃ d, Document.parse source = .ok d ∧ (¬ ∃ diag ∈ d.diagnostics, diag.line = 2)
      ∧ d.page.title? = some "A, b: c" := by
  intro source
  obtain ⟨d, hparse⟩ : ∃ d, Document.parse source = .ok d :=
    Document.exists_parse_of_aligned (by decide +kernel)
  have hl : (⟨2, 2, 17, "page title: \"A, b: c\"".toList⟩ : Line) ∈ Line.ofSource source := by
    decide +kernel
  have htag : splitTag "page title: \"A, b: c\"".toList
      = ("page".toList, " title: \"A, b: c\"".toList) := by decide
  have htitle :
      trimStart " title: \"A, b: c\"".toList = "title:".toList ++ " \"A, b: c\"".toList := by decide
  have hne : trim " \"A, b: c\"".toList ≠ [] := by decide
  have hpasses : ({} : Scan).passes isSeparator (trim " \"A, b: c\"".toList) = true := by decide
  have hpaired : ¬ EndsUnpaired (trim " \"A, b: c\"".toList) := by decide
  have hunquoted : String.ofList (unquoted (trim " \"A, b: c\"".toList)) = "A, b: c" := by decide
  have hlate : ¬ ∃ z ∈ Line.ofSource source, z.number < 2 ∧ z.title?.isSome = true := by
    decide +kernel
  have hgives : (⟨2, 2, 17, "page title: \"A, b: c\"".toList⟩ : Line).title? ≠ none := by
    rw [Line.title?_of_passes htag htitle hne hpasses, if_neg (by decide)]
    exact Option.some_ne_none _
  obtain ⟨hwhole, hreported, -⟩ := Document.title_whole_iff hparse hl htag htitle hne
  have hnot : ¬ ∃ diag ∈ d.diagnostics, diag.line = 2 := fun h => (hreported.mp h).elim hgives hlate
  have hset := (hwhole.mpr (.inr (.inr ⟨hpasses, hpaired⟩))).resolve_left hnot
  rw [hunquoted] at hset
  exact ⟨d, hparse, hnot, hset⟩

/-- The document of one page line with a title. -/
theorem Document.parse_of_pageLine {source title : String} {l : Line}
    (hsource : Line.ofSource source = [l]) (hcontent : l.content = .page (some title)) :
    Document.parse source = .ok ⟨Node.page (some title) [], [], []⟩ := by
  have hentries : Entry.ofLines [l] = [.line l] := by
    rw [Entry.ofLines_cons_of_none (by rw [Line.header?, hcontent]), Entry.ofLines]
  have hnode : l.node? = none := by rw [Line.node?, hcontent]
  have hlines : NodeLine.ofLines (Entry.ownLines [.line l]) = [] := by
    simp [NodeLine.ofLines, Entry.ownLines, hnode]
  have hmisplaced : Entry.misplacedIn? [.line l] = none := by
    rw [Entry.misplacedIn?, Entry.ownMisplaced?, hlines]
    simp [misplaced?, Entry.bodyMisplaced?, Entry.earlier]
  have hreport : Entry.report none [.line l] = (some title, []) := by
    simp [Entry.report, lineFindings, hcontent]
  rw [Document.parse_eq, hsource, hentries, Entry.document, hmisplaced]
  dsimp only
  rw [hreport, Entry.nodes, hlines, forest, Entry.components, Entry.components]

/-- **A comma takes the rest of a title away, and nothing is reported.** -/
theorem Document.title_loses_text :
    unquoted "Hello, World".toList = "Hello, World".toList
      ∧ Document.parse "page title: Hello, World\n" = .ok ⟨Node.page (some "Hello") [], [],
        []⟩ := by
  have hkey : IsKey "title".toList := by decide
  have htext : trim " title: Hello, World".toList
      = "title".toList ++ ':' :: (" Hello".toList ++ ',' :: " World".toList) := by decide
  have hread : Properties.ofText " title: Hello, World".toList
      = (Properties.single "title".toList "Hello".toList).setAside "World".toList := by
    have hworld := Properties.addPairs_junk_end (Properties.put {} "title".toList " Hello".toList)
      (show "World".toList ≠ [] by decide) (by decide) (by decide)
    have hrest : trimStart " World".toList = "World".toList := by decide
    rw [Properties.ofText_of_trim htext hkey, Properties.addPairs_comma {} true hkey (by decide),
      hrest, hworld, Properties.put_eq_single hkey.ne_nil]
    rfl
  have htag : splitTag "page title: Hello, World".toList
      = ("page".toList, " title: Hello, World".toList) := by decide
  have hsource : Line.ofSource "page title: Hello, World\n"
      = [⟨1, 0, 0, "page title: Hello, World".toList⟩] := by
    decide +kernel
  refine ⟨by decide, Document.parse_of_pageLine hsource ?_⟩
  rw [Line.content_page htag, hread]
  rfl

end PageLang
