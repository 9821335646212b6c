import PageLang.Proofs.Document.Structure
import PageLang.Proofs.Text.Trim

/-!
# The first misplaced line

A line `Offends` in its block if its parent is a state line, or if an earlier line with the same
parent has another indentation. `misplaced?` does not look for such lines one after the other, it
cuts the lines into trees and looks through these. Still it finds the first: all lines before the
one that it finds are aligned, and what it gives as the cause is true of it.

> `first_of_misplaced?`: the lines before a misplaced line pass, and the cause explains it.

> `Entry.earliest_misplacedIn?`: of all blocks, the line is found that comes first.
-/

namespace PageLang

/-- A line that cannot stand where it does: it hangs below a state line, or an earlier line with
the same parent has another indentation. -/
def Offends (block : List Line) (y : Line) : Prop :=
  (∃ x, parent? block y = some x ∧ x.declaresState = true)
    ∨ ∃ z ∈ block, z.number < y.number ∧ parent? block z = parent? block y ∧ z.indent ≠ y.indent

/-! ## The lines before a line -/

/-- Only earlier lines can be the parent of a line. -/
theorem parent?_append {before after : List Line} {y : Line}
    (h : ∀ z ∈ after, y.number ≤ z.number) :
    parent? (before ++ after) y = parent? before y := by
  have hafter : after.filter (fun x => x.number < y.number ∧ x.indent < y.indent) = [] := by
    rw [List.filter_eq_nil_iff]
    intro z hz
    have hle := h z hz
    simp only [decide_eq_true_eq]
    omega
  unfold parent?
  rw [List.filter_append, hafter, List.append_nil]

section Before

variable {before after : List Line} (hn : Numbered (before ++ after))
include hn

theorem Numbered.lt_of_mem_append {x y : Line} (hx : x ∈ before) (hy : y ∈ after) :
    x.number < y.number :=
  (List.pairwise_append.mp hn).2.2 x hx y hy

/-- Later lines do not change the parent of a line. -/
theorem Numbered.parent?_before {y : Line} (hy : y ∈ before) :
    parent? (before ++ after) y = parent? before y :=
  parent?_append fun _ hz => Nat.le_of_lt (hn.lt_of_mem_append hy hz)

/-- What comes before a line of the first part is in that part. -/
theorem Numbered.mem_before {x y : Line} (hx : x ∈ before ++ after) (hy : y ∈ before)
    (hlt : x.number < y.number) : x ∈ before := by
  rcases List.mem_append.mp hx with hx | hx
  · exact hx
  · exact absurd hlt (Nat.lt_asymm (hn.lt_of_mem_append hy hx))

/-- What offends offends already before the later lines are there. -/
theorem Numbered.offends_before {y : Line} (hy : y ∈ before) (h : Offends (before ++ after) y) :
    Offends before y := by
  rcases h with ⟨x, hx, hstate⟩ | ⟨z, hz, hlt, hparent, hindent⟩
  · rw [hn.parent?_before hy] at hx
    exact .inl ⟨x, hx, hstate⟩
  · have hz' := hn.mem_before hz hy hlt
    rw [hn.parent?_before hz', hn.parent?_before hy] at hparent
    exact .inr ⟨z, hz', hlt, hparent, hindent⟩

end Before

/-- In an aligned block no line offends. -/
theorem Aligned.not_offends {block : List Line} (h : Aligned block) {y : Line} (hy : y ∈ block) :
    ¬ Offends block y := by
  rintro (⟨x, hx, hstate⟩ | ⟨z, hz, -, hparent, hindent⟩)
  · rw [h.noStateParent y hy x hx] at hstate
    cases hstate
  · exact hindent (h.siblings z hz y hy hparent)

/-! ## What is found -/

/-- What a cause says of a line in its block; earlier lines at the top of the block may have set
an indentation for those that follow. -/
def Misplacement.Explains (siblings : Option Nat) (block : List Line) (y : Line) :
    Misplacement → Prop
  | .belowState => ∃ x, parent? block y = some x ∧ x.declaresState = true
  | .unaligned indent k =>
    indent = y.indent ∧ y.indent < k
      ∧ ((parent? block y = none ∧ siblings = some k)
        ∨ ∃ z ∈ block, z.number < y.number ∧ parent? block z = parent? block y ∧ z.indent = k)

/-- Nothing is misplaced if nothing is in the two parts of a cut. -/
theorem misplaced?_append_eq_none {siblings : Option Nat} {x : NodeLine} (ys zs : List NodeLine)
    (hys : ∀ y ∈ ys, x.isBelow y = true) (hzs : ∀ z ∈ zs.head?, x.isBelow z = false)
    (hindent : x.line.indent = siblings.getD x.line.indent)
    (hstate : x.line.declaresState = true → ys = []) (hbelow : misplaced? none ys = none)
    (hafter : misplaced? (some (siblings.getD x.line.indent)) zs = none) :
    misplaced? siblings (x :: (ys ++ zs)) = none := by
  have htake : (ys ++ zs).takeWhile x.isBelow = ys := Text.takeWhile_append_of_stop hys hzs
  have hdrop : (ys ++ zs).dropWhile x.isBelow = zs := by
    have hparts := List.takeWhile_append_dropWhile (p := x.isBelow) (l := ys ++ zs)
    rw [htake] at hparts
    exact List.append_cancel_left hparts
  rw [misplaced?_cons_eq_none_iff, htake, hdrop]
  exact ⟨hindent, hstate, hbelow, hafter⟩

/-- The lines before a misplaced line pass. -/
theorem exists_before_of_misplaced? {siblings : Option Nat} {xs : List NodeLine} {m : Misplaced}
    (h : misplaced? siblings xs = some m) :
    ∃ before y after, xs = before ++ y :: after ∧ y.line = m.line
      ∧ misplaced? siblings before = none := by
  fun_induction misplaced? siblings xs with
  | case1 siblings => cases h
  | case2 siblings x rest indent hindent =>
    cases h
    exact ⟨[], x, rest, rfl, rfl, by rw [misplaced?]⟩
  | case3 siblings x rest indent hindent y hhead hstate =>
    cases h
    obtain ⟨ys, hys⟩ := List.head?_eq_some_iff.mp hhead
    have hrest := List.takeWhile_append_dropWhile (p := x.isBelow) (l := rest)
    rw [hys] at hrest
    refine ⟨[x], y, ys ++ rest.dropWhile x.isBelow, by simpa using hrest.symm, rfl, ?_⟩
    exact misplaced?_append_eq_none [] [] (by simp) (by simp) (not_not.mp hindent) (fun _ => rfl)
      (by rw [misplaced?]) (by rw [misplaced?])
  | case4 siblings x rest indent hindent m' hbelow hstate ih =>
    cases h
    obtain ⟨before, y, after, htake, hline, hbefore⟩ := ih hbelow
    have hrest := List.takeWhile_append_dropWhile (p := x.isBelow) (l := rest)
    rw [htake] at hrest
    have hdeeper : ∀ z ∈ before, x.isBelow z = true := fun z hz =>
      List.mem_takeWhile_imp (htake ▸ List.mem_append_left _ hz)
    -- A state line has nothing below it, or else the first line there would have been found.
    have hempty : x.line.declaresState = true → before = [] := by
      intro hs
      obtain ⟨z, hz⟩ : ∃ z, (rest.takeWhile x.isBelow).head? = some z := by
        rw [htake]
        cases before <;> simp
      exact absurd hz (hstate z hs)
    refine ⟨x :: before, y, after ++ rest.dropWhile x.isBelow, by simpa using hrest.symm, hline, ?_⟩
    have hnone :=
      misplaced?_append_eq_none before [] hdeeper (by simp) (not_not.mp hindent) hempty hbefore
      (by rw [misplaced?])
    rwa [List.append_nil] at hnone
  | case5 siblings x rest indent hindent hbelow hstate _ ih =>
    obtain ⟨before, y, after, hdrop, hline, hbefore⟩ := ih h
    have hrest := List.takeWhile_append_dropWhile (p := x.isBelow) (l := rest)
    rw [hdrop] at hrest
    have hstops : ∀ z ∈ before.head?, x.isBelow z = false := by
      intro z hz
      have hnot := List.head?_dropWhile_not x.isBelow rest
      have hhead : (before ++ y :: after).head? = some z := by
        rw [List.head?_append, Option.mem_def.mp hz]; rfl
      rw [hdrop, hhead] at hnot
      exact hnot
    have hempty : x.line.declaresState = true → rest.takeWhile x.isBelow = [] := by
      intro hs
      rw [← List.head?_eq_none_iff, Option.eq_none_iff_forall_ne_some]
      exact fun z => hstate z hs
    refine ⟨x :: (rest.takeWhile x.isBelow ++ before), y, after, by simpa using hrest.symm,
      hline, ?_⟩
    exact misplaced?_append_eq_none _ before (fun z hz => List.mem_takeWhile_imp hz) hstops
      (not_not.mp hindent)
      hempty hbelow hbefore

namespace Misplacement.Explains

variable {x y : Line} {ys zs : List Line} {siblings : Option Nat} {cause : Misplacement}

/-- What explains a line among the deeper lines after `x` explains it in the whole. -/
theorem left (hcut : Cut x ys zs) (hy : y ∈ ys) (h : cause.Explains none ys y) :
    cause.Explains siblings (x :: (ys ++ zs)) y := by
  cases cause with
  | belowState =>
    obtain ⟨w, hw, hstate⟩ := h
    exact ⟨w, (hcut.attaches_parent?.left_eq_iff hy).mpr (.inl hw), hstate⟩
  | unaligned indent k =>
    obtain ⟨hindent, hlt, ⟨-, hnone⟩ | ⟨z, hz, hbefore, hparent, hk⟩⟩ := h
    · cases hnone
    · refine ⟨hindent, hlt,
        .inr ⟨z, List.mem_cons_of_mem _ (List.mem_append_left _ hz), hbefore, ?_, hk⟩⟩
      rw [hcut.parent?_left hz, hcut.parent?_left hy, hparent]

/-- What explains a line from the cut on explains it in the whole: where it should be aligned with
earlier lines, `x` is one of these. -/
theorem right (hcut : Cut x ys zs) (hy : y ∈ zs) (h : cause.Explains (some x.indent) zs y) :
    cause.Explains siblings (x :: (ys ++ zs)) y := by
  cases cause with
  | belowState =>
    obtain ⟨w, hw, hstate⟩ := h
    exact ⟨w, (hcut.parent?_right hy).trans hw, hstate⟩
  | unaligned indent k =>
    obtain ⟨hindent, hlt, ⟨htop, hk⟩ | ⟨z, hz, hbefore, hparent, hk⟩⟩ := h
    · refine ⟨hindent, hlt,
        .inr ⟨x, List.mem_cons_self .., hcut.lt_of_mem_right hy, ?_, Option.some.inj hk⟩⟩
      rw [hcut.parent?_head, hcut.parent?_right hy, htop]
    · refine ⟨hindent, hlt,
        .inr ⟨z, List.mem_cons_of_mem _ (List.mem_append_right _ hz), hbefore, ?_, hk⟩⟩
      rw [hcut.parent?_right hz, hcut.parent?_right hy, hparent]

end Misplacement.Explains

/-- A misplaced line is one of the lines. -/
theorem mem_of_misplaced? {siblings : Option Nat} {xs : List NodeLine} {m : Misplaced}
    (h : misplaced? siblings xs = some m) : m.line ∈ xs.map NodeLine.line := by
  obtain ⟨before, y, after, rfl, hline, -⟩ := exists_before_of_misplaced? h
  rw [← hline]
  exact List.mem_map_of_mem (List.mem_append_right _ (List.mem_cons_self ..))

/-- The cause that is given explains the line, as long as no line starts deeper than its earlier
siblings. -/
theorem explains_of_misplaced? {siblings : Option Nat} {xs : List NodeLine} {m : Misplaced}
    (hn : Numbered (xs.map NodeLine.line)) (hk : ∀ k ∈ siblings, ∀ x ∈ xs.head?, x.line.indent ≤ k)
    (h : misplaced? siblings xs = some m) :
    m.cause.Explains siblings (xs.map NodeLine.line) m.line := by
  fun_induction misplaced? siblings xs with
  | case1 siblings => cases h
  | case2 siblings x rest indent hindent =>
    cases h
    cases siblings with
    | none => exact absurd rfl hindent
    | some k =>
      have hle : x.line.indent ≤ k := hk k rfl x rfl
      exact ⟨rfl, Nat.lt_of_le_of_ne hle hindent, .inl ⟨parent?_head_of_numbered hn, rfl⟩⟩
  | case3 siblings x rest indent hindent y hhead hstate =>
    cases h
    obtain ⟨ys, hys⟩ := List.head?_eq_some_iff.mp hhead
    have hcut := cut_nodeLines hn
    rw [map_line_cons]
    rw [hys, List.map_cons] at hcut ⊢
    exact ⟨x.line, hcut.parent?_first, hstate⟩
  | case4 siblings x rest indent hindent m' hbelow hstate ih =>
    cases h
    have hcut := cut_nodeLines hn
    rw [map_line_cons]
    exact (ih hcut.numbered_left (by simp) hbelow).left hcut (mem_of_misplaced? hbelow)
  | case5 siblings x rest indent hindent hbelow hstate _ ih =>
    have hcut := cut_nodeLines hn
    have hx : x.line.indent = indent := not_not.mp hindent
    have hstops : ∀ k ∈ some indent, ∀ z ∈ (rest.dropWhile x.isBelow).head?, z.line.indent ≤ k := by
      intro k hindent' z hz
      rw [← Option.some.inj hindent', ← hx]
      refine hcut.stops z.line ?_
      rw [List.head?_map, Option.mem_def.mp hz]
      rfl
    have hright := ih hcut.numbered_right hstops h
    rw [← hx] at hright
    rw [map_line_cons]
    exact hright.right hcut (mem_of_misplaced? h)

/-! ## The first line of a block that offends -/

/-- The line below which a line would be put: its parent or, since a state line holds nothing, the
parent of that. -/
def holder? (block : List Line) (y : Line) : Option Line :=
  (parent? block y).bind fun x => if x.declaresState then parent? block x else some x

/-- The earlier lines that a line is expected to be aligned with: those held by the same line. -/
def siblingsBefore (block : List Line) (y : Line) : List Line :=
  block.filter fun z => z.number < y.number ∧ parent? block z = holder? block y

/-- The indentation that a line is expected to have: there are such lines, and they share it. -/
structure Expects (block : List Line) (y : Line) (k : Nat) : Prop where
  ne_nil : siblingsBefore block y ≠ []
  shared : ∀ z ∈ siblingsBefore block y, z.indent = k

/-- The lines of the block before this one are aligned, and the cause explains it. -/
structure Misplaced.First (m : Misplaced) (block : List Line) : Prop where
  exists_before : ∃ before after, block = before ++ m.line :: after ∧ Aligned before
  explains : m.cause.Explains none block m.line

/-- What is found is the first line that offends, with its cause. -/
theorem first_of_misplaced? {xs : List NodeLine} {m : Misplaced}
    (hn : Numbered (xs.map NodeLine.line)) (h : misplaced? none xs = some m) :
    m.First (xs.map NodeLine.line) where
  exists_before := by
    obtain ⟨before, y, after, rfl, hline, hbefore⟩ := exists_before_of_misplaced? h
    rw [List.map_append, List.map_cons, hline] at hn ⊢
    have haligned :=
      ((misplaced?_eq_none_iff before (List.pairwise_append.mp hn).1 none).mp hbefore).1
    exact ⟨before.map NodeLine.line, after.map NodeLine.line, rfl, haligned⟩
  explains := explains_of_misplaced? hn (by simp) h

namespace Misplaced.First

variable {m : Misplaced} {block : List Line} (h : m.First block)
include h

/-- The line is in the block. -/
theorem mem : m.line ∈ block := by
  obtain ⟨before, after, rfl, -⟩ := h.exists_before
  exact List.mem_append_right _ (List.mem_cons_self ..)

/-- The line offends. -/
theorem offends : Offends block m.line := by
  have hexplains := h.explains
  cases hcause : m.cause with
  | belowState =>
    rw [hcause] at hexplains
    exact .inl hexplains
  | unaligned indent k =>
    rw [hcause] at hexplains
    obtain ⟨-, hlt, ⟨-, hnone⟩ | ⟨z, hz, hbefore, hparent, hk⟩⟩ := hexplains
    · cases hnone
    · exact .inr ⟨z, hz, hbefore, hparent, by omega⟩

variable (hn : Numbered block)
include hn

/-- No line before it does. -/
theorem le_of_offends {z : Line} (hz : z ∈ block) (hoffends : Offends block z) :
    m.line.number ≤ z.number := by
  obtain ⟨before, after, rfl, haligned⟩ := h.exists_before
  rcases List.mem_append.mp hz with hz | hz
  · exact absurd (hn.offends_before hz hoffends) (haligned.not_offends hz)
  · rcases List.mem_cons.mp hz with rfl | hz
    · exact Nat.le_refl _
    · exact Nat.le_of_lt (List.rel_of_pairwise_cons (List.pairwise_append.mp hn).2.1 hz)

/-- No earlier line hangs below a state line. -/
theorem noStateParent_before {z x : Line} (hz : z ∈ block) (hlt : z.number < m.line.number)
    (hx : parent? block z = some x) : x.declaresState = false := by
  rw [← Bool.not_eq_true]
  intro hstate
  exact absurd (h.le_of_offends hn hz (.inl ⟨x, hx, hstate⟩)) (Nat.not_le.mpr hlt)

/-- Earlier lines with the same parent share their indentation. -/
theorem indent_eq_before {z w : Line} (hz : z ∈ block) (hzlt : z.number < m.line.number)
    (hw : w ∈ block) (hwlt : w.number < m.line.number)
    (hparent : parent? block z = parent? block w) : z.indent = w.indent := by
  by_contra hindent
  rcases Nat.lt_trichotomy z.number w.number with hlt | heq | hlt
  · exact absurd (h.le_of_offends hn hw (.inr ⟨z, hz, hlt, hparent, hindent⟩)) (Nat.not_le.mpr hwlt)
  · exact hindent (congrArg Line.indent (hn.number_inj hz hw heq))
  · exact absurd
      (h.le_of_offends hn hz (.inr ⟨w, hw, hlt, hparent.symm, fun he => hindent he.symm⟩))
      (Nat.not_le.mpr hzlt)

/-- **The cause tells on which side of its siblings a line stands.** If it is deeper than
expected, it hangs below a state line, and this is the cause; otherwise it is shallower. -/
theorem exists_expects : ∃ k, Expects block m.line k
    ∧ ((m.cause = .belowState ∧ k < m.line.indent ∧ ∃ x, parent? block m.line = some x
      ∧ x.declaresState = true)
      ∨ (m.cause = .unaligned m.line.indent k ∧ m.line.indent < k
        ∧ ∀ x, parent? block m.line = some x → x.declaresState = false)) := by
  -- It is enough to know one of the siblings, since they all share its indentation.
  suffices hone : ∃ w ∈ siblingsBefore block m.line,
      (m.cause = .belowState ∧ w.indent < m.line.indent
        ∧ ∃ x, parent? block m.line = some x ∧ x.declaresState = true)
      ∨ (m.cause = .unaligned m.line.indent w.indent ∧ m.line.indent < w.indent
        ∧ ∀ x, parent? block m.line = some x → x.declaresState = false) by
    obtain ⟨w, hw, hside⟩ := hone
    refine ⟨w.indent, ⟨List.ne_nil_of_mem hw, fun z hz => ?_⟩, hside⟩
    simp only [siblingsBefore, List.mem_filter, decide_eq_true_eq] at hw hz
    exact h.indent_eq_before hn hz.1 hz.2.1 hw.1 hw.2.1 (hz.2.2.trans hw.2.2.symm)
  have hexplains := h.explains
  cases hcause : m.cause with
  | belowState =>
    rw [hcause] at hexplains
    obtain ⟨x, hx, hstate⟩ := hexplains
    obtain ⟨hmem, hlt, hdeeper⟩ := mem_of_parent?_eq hx
    refine ⟨x, ?_, .inl ⟨rfl, hdeeper, x, hx, hstate⟩⟩
    have hholder : holder? block m.line = parent? block x := by
      rw [holder?, hx, Option.bind_some, if_pos hstate]
    exact List.mem_filter.mpr ⟨hmem, decide_eq_true ⟨hlt, hholder.symm⟩⟩
  | unaligned indent k =>
    rw [hcause] at hexplains
    obtain ⟨rfl, hshallow, ⟨-, hnone⟩ | ⟨z, hz, hlt, hparent, rfl⟩⟩ := hexplains
    · cases hnone
    · have hplain : ∀ x, parent? block m.line = some x → x.declaresState = false := fun x hx =>
        h.noStateParent_before hn hz hlt (hparent.trans hx)
      have hholder : holder? block m.line = parent? block m.line := by
        rw [holder?]
        cases hx : parent? block m.line with
        | none => rfl
        | some x => rw [Option.bind_some, hplain x hx, if_neg Bool.false_ne_true]
      refine ⟨z, List.mem_filter.mpr ⟨hz, decide_eq_true ⟨hlt, hparent.trans hholder.symm⟩⟩,
        .inr ⟨rfl, hshallow, hplain⟩⟩

end Misplaced.First

/-! ## The first block -/

/-- The first misplaced line of a block. -/
def blockMisplaced? (lines : List Line) (block : Option Line) : Option Misplaced :=
  misplaced? none (NodeLine.ofLines (nodesOf lines block))

/-- Lines that give no nodes can be left out. -/
theorem NodeLine.ofLines_filter (lines : List Line) :
    ofLines (lines.filter fun y => y.node?.isSome) = ofLines lines := by
  rw [ofLines, List.filterMap_filter, ofLines]
  refine List.filterMap_congr fun l _ => ?_
  cases l.node? <;> rfl

theorem map_line_nodesOf (lines : List Line) (block : Option Line) :
    (NodeLine.ofLines (nodesOf lines block)).map NodeLine.line = nodesOf lines block := by
  rw [nodesOf, NodeLine.ofLines_filter, NodeLine.map_line_ofLines]

section Block

variable {lines : List Line} (hn : Numbered lines) {block : Option Line}
include hn

/-- What is found in a block is the first line of the block that offends. -/
theorem first_of_blockMisplaced? {m : Misplaced} (h : blockMisplaced? lines block = some m) :
    m.First (nodesOf lines block) := by
  have hfirst := first_of_misplaced? (by rw [map_line_nodesOf]; exact numbered_nodesOf hn block) h
  rwa [map_line_nodesOf] at hfirst

/-- Nothing is found in a block exactly if it is aligned. -/
theorem blockMisplaced?_eq_none_iff :
    blockMisplaced? lines block = none ↔ Aligned (nodesOf lines block) := by
  rw [blockMisplaced?,
    misplaced?_eq_none_iff _ (by rw [map_line_nodesOf]; exact numbered_nodesOf hn block),
    map_line_nodesOf]
  exact and_iff_left (by simp)

end Block

/-- The node lines of a block are those that belong to it and give nodes. -/
theorem mem_nodesOf {lines : List Line} {block : Option Line} {y : Line} :
    y ∈ nodesOf lines block ↔ y ∈ lines ∧ owner? lines y = block ∧ y.node?.isSome = true := by
  rw [nodesOf, linesOf, List.mem_filter, List.mem_filter, decide_eq_true_eq, and_assoc]

/-- What is found in a block is one of the lines. -/
theorem mem_of_blockMisplaced? {lines : List Line} {block : Option Line} {m : Misplaced}
    (h : blockMisplaced? lines block = some m) : m.line ∈ lines := by
  have hmem := mem_of_misplaced? h
  rw [map_line_nodesOf] at hmem
  exact (mem_nodesOf.mp hmem).1

/-- What was found comes first among candidates, and nothing was found only if there are none. -/
structure Earliest (found : Option Misplaced) (candidate : Misplaced → Prop) : Prop where
  some : ∀ m ∈ found, candidate m ∧ ∀ m', candidate m' → m.line.number ≤ m'.line.number
  none : found = none → ∀ m, ¬ candidate m

namespace Earliest

variable {a b : Option Misplaced} {p q : Misplaced → Prop} (ha : Earliest a p) (hb : Earliest b q)
include ha hb

/-- The earlier of two that come first, each among its candidates, comes first among all. -/
theorem earlier : Earliest (Entry.earlier a b) fun m => p m ∨ q m where
  some := by
    intro m hm
    cases a with
    | none =>
      have hb' := hb.some m hm
      exact ⟨.inr hb'.1, fun m' hm' => hm'.elim (fun hp => absurd hp (ha.none rfl m')) (hb'.2 m')⟩
    | some x =>
      obtain ⟨hx, hxle⟩ := ha.some x rfl
      cases b with
      | none =>
        cases hm
        exact ⟨.inl hx, fun m' hm' => hm'.elim (hxle m') (fun hq => absurd hq (hb.none rfl m'))⟩
      | some y =>
        obtain ⟨hy, hyle⟩ := hb.some y rfl
        cases hm
        by_cases hlt : x.line.number < y.line.number
        · rw [if_pos hlt]
          exact ⟨.inl hx, fun m' hm' => hm'.elim (hxle m') fun hq => (Nat.le_of_lt hlt).trans
            (hyle m' hq)⟩
        · rw [if_neg hlt]
          exact ⟨.inr hy, fun m' hm' => hm'.elim (fun hp => (Nat.not_lt.mp hlt).trans (hxle m' hp))
            (hyle m')⟩
  none := by
    intro h
    rw [Entry.earlier_eq_none_iff] at h
    exact fun m hm => hm.elim (ha.none h.1 m) (hb.none h.2 m)

/-- If all candidates of the first kind come before those of the second, the first kind is looked
at first. -/
theorem or (hbefore : ∀ m m', p m → q m' → m.line.number < m'.line.number) :
    Earliest (a.or b) fun m => p m ∨ q m where
  some := by
    intro m hm
    cases a with
    | none =>
      have hb' := hb.some m hm
      exact ⟨.inr hb'.1, fun m' hm' => hm'.elim (fun hp => absurd hp (ha.none rfl m')) (hb'.2 m')⟩
    | some x =>
      obtain ⟨hx, hxle⟩ := ha.some x rfl
      cases hm
      exact ⟨.inl hx, fun m' hm' => hm'.elim (hxle m') fun hq => Nat.le_of_lt (hbefore _ m' hx hq)⟩
  none := by
    intro h
    rw [Option.or_eq_none_iff] at h
    exact fun m hm => hm.elim (ha.none h.1 m) (hb.none h.2 m)

end Earliest

/-- What counts is which candidates there are. -/
theorem Earliest.congr {found : Option Misplaced} {p q : Misplaced → Prop} (h : Earliest found p)
    (hpq : ∀ m, p m ↔ q m) : Earliest found q :=
  (funext fun m => propext (hpq m) : p = q) ▸ h

/-- Something found is the earliest of itself. -/
theorem earliest_self (found : Option Misplaced) : Earliest found (found = some ·) where
  some := by
    intro m hm
    refine ⟨hm, fun m' hm' => ?_⟩
    cases hm.symm.trans hm'
    exact Nat.le_refl _
  none := by
    intro h m hm
    rw [h] at hm
    cases hm

namespace Entry

/-- What entries find in the page is what is found in its block. -/
theorem ownMisplaced?_ofLines (lines : List Line) (h : Numbered lines) :
    ownMisplaced? (ofLines lines) = blockMisplaced? lines none := by
  rw [ownMisplaced?, blockMisplaced?, ← ownLines_ofLines lines h, NodeLine.ofLines_filter]

/-- The line is the first misplaced one of the body of a component. -/
def MisplacedInBody (lines : List Line) (m : Misplaced) : Prop :=
  ∃ c ∈ lines, c.header?.isSome = true ∧ blockMisplaced? lines (some c) = some m

/-- A line in front that is no component line does not matter for the bodies. -/
theorem misplacedInBody_cons {l : Line} {rest : List Line} (hn : Numbered (l :: rest))
    (hl : l.header? = none) (m : Misplaced) :
    MisplacedInBody (l :: rest) m ↔ MisplacedInBody rest m := by
  simp only [MisplacedInBody, List.exists_mem_cons_iff, hl, blockMisplaced?,
    nodesOf_cons_some hn hl]
  simp

/-- What is misplaced in a body is so in that of the first line, or in one in either part. -/
theorem misplacedInBody_cut {l : Line} {ys zs : List Line} (hcut : Cut l ys zs)
    (hl : l.header?.isSome = true) (m : Misplaced) : MisplacedInBody (l :: (ys ++ zs)) m ↔
      (blockMisplaced? ys none = some m ∨ MisplacedInBody ys m) ∨ MisplacedInBody zs m := by
  have hys :
      (∃ c ∈ ys, c.header?.isSome = true ∧ blockMisplaced? (l :: (ys ++ zs)) (some c) = some m)
      ↔ MisplacedInBody ys m := by
    refine exists_congr fun c => and_congr_right fun hc => ?_
    rw [blockMisplaced?, hcut.nodesOf_left hl hc, blockMisplaced?]
  have hzs :
      (∃ c ∈ zs, c.header?.isSome = true ∧ blockMisplaced? (l :: (ys ++ zs)) (some c) = some m)
      ↔ MisplacedInBody zs m := by
    refine exists_congr fun c => and_congr_right fun hc => ?_
    rw [blockMisplaced?, hcut.nodesOf_right hl hc, blockMisplaced?]
  have hhead : blockMisplaced? (l :: (ys ++ zs)) (some l) = blockMisplaced? ys none := by
    rw [blockMisplaced?, hcut.nodesOf_head hl, blockMisplaced?]
  rw [MisplacedInBody, List.exists_mem_cons_iff, hhead, and_iff_right hl, or_assoc, ← hys, ← hzs]
  simp only [List.mem_append, or_and_right, exists_or]

/-- Of the bodies of components, the line is found that comes first. -/
theorem earliest_bodyMisplaced? (lines : List Line) (h : Numbered lines) :
    Earliest (bodyMisplaced? (ofLines lines)) (MisplacedInBody lines) := by
  induction lines, h using ofLines_induction with
  | nil =>
    rw [ofLines, bodyMisplaced?]
    refine ⟨fun m hm => absurd hm (by simp), fun _ m hm => ?_⟩
    obtain ⟨c, hc, -⟩ := hm
    exact List.not_mem_nil hc
  | line l rest hn hl ih =>
    rw [ofLines_cons_of_none hl, bodyMisplaced?]
    exact ih.congr fun m => (misplacedInBody_cons hn hl m).symm
  | component l ys zs header hcut hl ihBody ihRest =>
    rw [ofLines_cut hcut hl, bodyMisplaced?_component, ownMisplaced?_ofLines ys hcut.numbered_left]
    refine (((earliest_self _).earlier ihBody).or ihRest ?_).congr fun m =>
      (misplacedInBody_cut hcut (by rw [hl]; rfl) m).symm
    -- All lines of the body come before those that follow it.
    rintro m m' hm ⟨c', -, -, hm'⟩
    refine hcut.lt_of_mem_of_mem ?_ (mem_of_blockMisplaced? hm')
    rcases hm with hm | ⟨c, -, -, hm⟩
    · exact mem_of_blockMisplaced? hm
    · exact mem_of_blockMisplaced? hm

/-- **Of all blocks, the line is found that comes first.** -/
theorem earliest_misplacedIn? (lines : List Line) (h : Numbered lines) :
    Earliest (misplacedIn? (ofLines lines)) fun m => ∃ b ∈ blocks lines,
      blockMisplaced? lines b = some m := by
  rw [misplacedIn?, ownMisplaced?_ofLines lines h]
  refine ((earliest_self _).earlier (earliest_bodyMisplaced? lines h)).congr fun m => ?_
  simp [blocks, MisplacedInBody, and_assoc]

end Entry

end PageLang
