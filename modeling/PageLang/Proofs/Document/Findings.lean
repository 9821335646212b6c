import PageLang.Proofs.Document.Block

/-!
# Titles and diagnostics of a block

The lines are read in their order, also those of component bodies, and a title that was found is
carried along. Here both results are told from the lines alone, without the way they fall into
blocks:

> `Entry.report_fst`: the title is the first that a line gives.

> `Entry.onNumber_report`: the diagnostics with the number of a line are what is found on it when
> the title is known that the lines before it give.
-/

namespace PageLang

/-- The title that a line gives. -/
def Line.title? (l : Line) : Option String :=
  match l.content with
  | .page title => title
  | _ => none

theorem Line.title?_of_header? {l : Line} {header : ComponentHeader} (h : l.header? = some header) :
    l.title? = none := by
  unfold Line.header? at h
  unfold Line.title?
  cases hc : l.content with
  | page title =>
    rw [hc] at h
    cases h
  | untagged | state _ | component _ | element _ _ => rfl

/-- The first title that a line before the given one gives. -/
def titleBefore (lines : List Line) (y : Line) : Option String :=
  (lines.filter (·.number < y.number)).findSome? Line.title?

section TitleBefore

variable {xs ys : List Line} {l y : Line}

/-- The title before a line is the first one in the first run, or else in the second. -/
theorem titleBefore_append :
    titleBefore (xs ++ ys) y = (titleBefore xs y).or (titleBefore ys y) := by
  rw [titleBefore, List.filter_append, List.findSome?_append, titleBefore, titleBefore]

/-- All titles before a later line count. -/
theorem titleBefore_of_lt (h : ∀ x ∈ xs, x.number < y.number) :
    titleBefore xs y = xs.findSome? Line.title? := by
  rw [titleBefore, List.filter_eq_self.mpr fun x hx => decide_eq_true (h x hx)]

/-- No title on or after a line counts. -/
theorem titleBefore_of_le (h : ∀ x ∈ xs, y.number ≤ x.number) : titleBefore xs y = none := by
  rw [titleBefore, List.filter_eq_nil_iff.mpr fun x hx => by simpa using h x hx, List.findSome?_nil]

theorem titleBefore_cons (h : l.number < y.number) :
    titleBefore (l :: xs) y = l.title?.or (titleBefore xs y) := by
  have hself : titleBefore [l] y = l.title? := by
    rw [titleBefore_of_lt fun x hx => by rwa [List.mem_singleton.mp hx], List.findSome?_cons]
    cases l.title? <;> rfl
  rw [← List.singleton_append, titleBefore_append, hself]

/-- There is no title before the first line. -/
theorem titleBefore_head (hn : Numbered (l :: xs)) : titleBefore (l :: xs) l = none := by
  refine titleBefore_of_le fun x hx => ?_
  rcases List.mem_cons.mp hx with rfl | hx
  · exact Nat.le_refl _
  · exact Nat.le_of_lt (List.rel_of_pairwise_cons hn hx)

/-- There is a title before a line if one of the lines before it sets one. -/
theorem titleBefore_isSome_iff :
    (titleBefore xs y).isSome = true ↔ ∃ x ∈ xs, x.number < y.number ∧ x.title?.isSome := by
  rw [titleBefore, List.findSome?_isSome_iff]
  simp [and_assoc]

end TitleBefore

/-! ## Reading the entries -/

namespace Entry

/-- The first title stays. -/
theorem lineFindings_fst (title : Option String) (l : Line) :
    (lineFindings title l).1 = title.or l.title? := by
  unfold lineFindings Line.title?
  cases l.content with
  | page new => cases new <;> cases title <;> rfl
  | state entry => cases entry <;> cases title <;> rfl
  | untagged | component _ | element _ _ => cases title <;> rfl

/-- **The title is the first that a line gives**, unless there is one already. -/
theorem report_fst (lines : List Line) (hn : Numbered lines) :
    ∀ title, (report title (ofLines lines)).1 = title.or (lines.findSome? Line.title?) := by
  induction lines, hn using ofLines_induction with
  | nil =>
    intro title
    rw [ofLines, report, List.findSome?_nil, Option.or_none]
  | line l rest hn hl ih =>
    intro title
    rw [ofLines_cons_of_none hl, report]
    dsimp only
    rw [ih, lineFindings_fst, List.findSome?_cons, Option.or_assoc]
    cases l.title? <;> rfl
  | component l ys zs header hcut hl ihBody ihRest =>
    intro title
    rw [ofLines_cut hcut hl, report]
    dsimp only
    rw [ihRest, ihBody, List.findSome?_cons, Line.title?_of_header? hl, List.findSome?_append,
      Option.or_assoc]

/-- What is reported is reported on some line. -/
theorem exists_line_of_mem_report (lines : List Line) (hn : Numbered lines) :
    ∀ title, ∀ d ∈ (report title (ofLines lines)).2, ∃ l ∈ lines, d.line = l.number := by
  induction lines, hn using ofLines_induction with
  | nil =>
    intro title d hd
    rw [ofLines, report] at hd
    cases hd
  | line l rest hn hl ih =>
    intro title d hd
    rw [ofLines_cons_of_none hl, report] at hd
    rcases List.mem_append.mp hd with hd | hd
    · obtain ⟨f, -, rfl⟩ := List.mem_map.mp hd
      exact ⟨l, List.mem_cons_self .., rfl⟩
    · obtain ⟨x, hx, hline⟩ := ih _ d hd
      exact ⟨x, List.mem_cons_of_mem _ hx, hline⟩
  | component l ys zs header hcut hl ihBody ihRest =>
    intro title d hd
    rw [ofLines_cut hcut hl, report] at hd
    rcases List.mem_append.mp hd with hd | hd
    · rcases List.mem_append.mp hd with hd | hd
      · obtain ⟨x, hx, hline⟩ := ihBody _ d hd
        exact ⟨x, List.mem_cons_of_mem _ (List.mem_append_left _ hx), hline⟩
      · obtain ⟨f, -, rfl⟩ := List.mem_map.mp hd
        exact ⟨l, List.mem_cons_self .., rfl⟩
    · obtain ⟨x, hx, hline⟩ := ihRest _ d hd
      exact ⟨x, List.mem_cons_of_mem _ (List.mem_append_right _ hx), hline⟩

/-- The diagnostics with a number. -/
def onNumber (n : Nat) (ds : List Diagnostic) : List Diagnostic := ds.filter (·.line = n)

theorem onNumber_append (n : Nat) (ds es : List Diagnostic) :
    onNumber n (ds ++ es) = onNumber n ds ++ onNumber n es :=
  List.filter_append ..

/-- What is found on a line is found under its number. -/
theorem onNumber_onLine (n : Nat) (fs : List Finding) :
    onNumber n (fs.map (·.onLine n)) = fs.map (·.onLine n) := by
  refine List.filter_eq_self.mpr fun d hd => ?_
  obtain ⟨f, -, rfl⟩ := List.mem_map.mp hd
  exact decide_eq_true rfl

theorem onNumber_onLine_of_ne {n m : Nat} (h : m ≠ n) (fs : List Finding) :
    onNumber n (fs.map (·.onLine m)) = [] := by
  refine List.filter_eq_nil_iff.mpr fun d hd => ?_
  obtain ⟨f, -, rfl⟩ := List.mem_map.mp hd
  exact fun heq => h (of_decide_eq_true heq)

/-- Nothing is reported on a number that no line has. -/
theorem onNumber_report_of_ne {lines : List Line} (hn : Numbered lines) {n : Nat}
    (h : ∀ l ∈ lines, l.number ≠ n) (title : Option String) :
    onNumber n (report title (ofLines lines)).2 = [] := by
  refine List.filter_eq_nil_iff.mpr fun d hd => ?_
  obtain ⟨l, hl, hline⟩ := exists_line_of_mem_report lines hn title d hd
  rw [hline]
  simpa using h l hl

/-- **The diagnostics on a line are what is found on it**, in its order, with the title that the
lines before it give. -/
theorem onNumber_report (lines : List Line) (hn : Numbered lines) :
    ∀ title, ∀ y ∈ lines, y.header? = none →
      onNumber y.number (report title (ofLines lines)).2
        = (lineFindings (title.or (titleBefore lines y)) y).2.map (·.onLine y.number) := by
  induction lines, hn using ofLines_induction with
  | nil =>
    intro title y hy
    cases hy
  | line l rest hn hl ih =>
    intro title y hy hheader
    rw [ofLines_cons_of_none hl, report]
    dsimp only
    rw [onNumber_append]
    rcases List.mem_cons.mp hy with rfl | hy
    · have hlater : ∀ x ∈ rest, x.number ≠ y.number :=
        fun x hx => Nat.ne_of_gt (List.rel_of_pairwise_cons hn hx)
      rw [onNumber_onLine, onNumber_report_of_ne hn.of_cons hlater, titleBefore_head hn,
        List.append_nil, Option.or_none]
    · -- The title that is carried past `l` is the one known before, or else its own.
      have hlt := List.rel_of_pairwise_cons hn hy
      rw [onNumber_onLine_of_ne (Nat.ne_of_lt hlt), ih _ y hy hheader, titleBefore_cons hlt,
        lineFindings_fst, Option.or_assoc, List.nil_append]
  | component l ys zs header hcut hl ihBody ihRest =>
    intro title y hy hheader
    rw [ofLines_cut hcut hl, report]
    dsimp only
    rw [onNumber_append, onNumber_append]
    rcases List.mem_cons.mp hy with rfl | hy
    · rw [hl] at hheader
      cases hheader
    · have hlt : l.number < y.number := List.rel_of_pairwise_cons hcut.numbered hy
      have htitle : titleBefore (l :: (ys ++ zs)) y = (titleBefore ys y).or (titleBefore zs y) := by
        rw [titleBefore_cons hlt, Line.title?_of_header? hl, Option.none_or, titleBefore_append]
      rw [onNumber_onLine_of_ne (Nat.ne_of_lt hlt), htitle, List.append_nil]
      -- For a line of the body the rest gives no title yet; for one of the rest the body has
      -- given all of its own.
      rcases List.mem_append.mp hy with hy | hy
      · have hlater : ∀ z ∈ zs, y.number < z.number := fun z hz => hcut.lt_of_mem_of_mem hy hz
        rw [ihBody _ y hy hheader, onNumber_report_of_ne hcut.numbered_right fun z hz =>
          Nat.ne_of_gt (hlater z hz),
          titleBefore_of_le fun z hz => Nat.le_of_lt (hlater z hz), Option.or_none, List.append_nil]
      · have hearlier : ∀ x ∈ ys, x.number < y.number := fun x hx => hcut.lt_of_mem_of_mem hx hy
        rw [ihRest _ y hy hheader, onNumber_report_of_ne hcut.numbered_left fun x hx => Nat.ne_of_lt
          (hearlier x hx),
          titleBefore_of_lt hearlier, report_fst ys hcut.numbered_left, Option.or_assoc,
          List.nil_append]

end Entry

end PageLang
