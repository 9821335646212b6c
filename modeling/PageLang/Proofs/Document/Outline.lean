import Mathlib.Data.List.Basic
import Mathlib.Data.List.TakeWhile
import PageLang.Proofs.Document.Forest
import PageLang.Proofs.Document.Lines

/-!
# Parents by indentation

Among lines with increasing numbers, the parent of a line is the nearest one before it with less
indentation. `parent?` says just that, without any recursion; `treesBelow` hangs every line below
its parent; `Aligned` asks that nothing hangs below a state line and that lines with the same
parent have the same indentation.

`forest` and `misplaced?` never look for parents: they cut the lines after the first into those
that directly follow it and are deeper, and the rest. The lemmas on `x :: (ys ++ zs)` say what
that cut does to parents, and the two main statements are drawn from them by induction on the
cuts:

> `forest_eq_treesBelow`: `forest` builds the trees of the parent relation.

> `misplaced?_eq_none_iff`: `misplaced?` finds nothing exactly in lines that are `Aligned`.
-/

namespace PageLang

/-- The parent of a line: the nearest line before it with less indentation. -/
def parent? (block : List Line) (y : Line) : Option Line :=
  (block.filter fun x => x.number < y.number ∧ x.indent < y.indent).getLast?

/-- The lines with a given parent, in order. Those without a parent are at the top. -/
def childrenOf (block : List Line) (p : Option Line) : List Line :=
  block.filter fun y => parent? block y = p

/-- Whether a line comes after another; every line comes after the top. -/
def comesAfter : Option Line → Line → Bool
  | none, _ => true
  | some x, y => x.number < y.number

/-- A parent comes before its child and is less indented. -/
theorem mem_of_parent?_eq {block : List Line} {x y : Line} (h : parent? block y = some x) :
    x ∈ block ∧ x.number < y.number ∧ x.indent < y.indent := by
  have hx := List.mem_of_getLast? h
  rw [List.mem_filter] at hx
  exact ⟨hx.1, by simpa using hx.2⟩

/-- The children of a line are the lines of the block with that parent. -/
theorem mem_childrenOf {block : List Line} {p : Option Line} {y : Line} :
    y ∈ childrenOf block p ↔ y ∈ block ∧ parent? block y = p := by
  simp [childrenOf]

/-- A child comes after its parent, so fewer lines come after it. -/
theorem length_comesAfter_lt {block : List Line} {p : Option Line} {y : Line}
    (hy : y ∈ childrenOf block p) :
    (block.filter (comesAfter (some y))).length < (block.filter (comesAfter p)).length := by
  obtain ⟨hmem, hp⟩ := mem_childrenOf.mp hy
  have hafter : ∀ z, comesAfter (some y) z = true → comesAfter p z = true := by
    intro z hz
    cases p with
    | none => rfl
    | some x =>
      have hxy := (mem_of_parent?_eq hp).2.1
      simp only [comesAfter, decide_eq_true_eq] at hz ⊢
      omega
  have hself : comesAfter p y = true := by
    cases p with
    | none => rfl
    | some x => simpa [comesAfter] using (mem_of_parent?_eq hp).2.1
  have hnested : block.filter (comesAfter (some y))
      = (block.filter (comesAfter p)).filter (comesAfter (some y)) := by
    rw [List.filter_filter]
    refine List.filter_congr fun z _ => ?_
    cases hz : comesAfter (some y) z with
    | false => simp
    | true => simp [hafter z hz]
  rw [hnested, List.length_filter_lt_length_iff_exists]
  exact ⟨y, List.mem_filter.mpr ⟨hmem, hself⟩, by simp [comesAfter]⟩

/-- The trees of the parent relation that hang below a line, or stand at the top. -/
def treesBelow (block : List Line) (p : Option Line) : List Node :=
  (childrenOf block p).attach.filterMap fun y =>
    y.val.node?.map fun n => { n with children := treesBelow block (some y.val) }
termination_by (block.filter (comesAfter p)).length
decreasing_by exact length_comesAfter_lt y.property

/-- Nothing hangs below a state line, and lines with the same parent have the same indentation. -/
structure Aligned (block : List Line) : Prop where
  /-- No line has a state line as its parent. -/
  noStateParent : ∀ y ∈ block, ∀ x, parent? block y = some x → x.declaresState = false
  /-- Siblings share their indentation. -/
  siblings : ∀ y ∈ block, ∀ z ∈ block, parent? block y = parent? block z → y.indent = z.indent

instance (block : List Line) : Decidable (Aligned block) :=
  decidable_of_iff
    ((∀ y ∈ block, ∀ x ∈ parent? block y, x.declaresState = false)
      ∧ ∀ y ∈ block, ∀ z ∈ block, parent? block y = parent? block z → y.indent = z.indent)
    ⟨fun h => ⟨h.1, h.2⟩, fun h => ⟨h.noStateParent, h.siblings⟩⟩

/-! ## The cut after a line -/

/-- A line, the lines that directly follow it and are deeper, and the lines from there on. -/
structure Cut (x : Line) (ys zs : List Line) : Prop where
  numbered : Numbered (x :: (ys ++ zs))
  deeper : ∀ y ∈ ys, x.indent < y.indent
  stops : ∀ z ∈ zs.head?, z.indent ≤ x.indent

/-- Numbered lines are cut after the first where `takeWhile` and `dropWhile` cut them. -/
theorem cut_span {x : Line} {rest : List Line} (h : Numbered (x :: rest)) :
    Cut x (rest.takeWhile fun y => x.indent < y.indent)
      (rest.dropWhile fun y => x.indent < y.indent) where
  numbered := by rw [List.takeWhile_append_dropWhile]; exact h
  deeper := by
    intro y hy
    simpa using List.mem_takeWhile_imp hy
  stops := by
    intro z hz
    have hnot := List.head?_dropWhile_not (fun y : Line => decide (x.indent < y.indent)) rest
    rw [Option.mem_def.mp hz] at hnot
    simpa using hnot

namespace Cut

variable {x : Line} {ys zs : List Line}

/-- The first line comes before all in the first part. -/
theorem lt_of_mem_left (h : Cut x ys zs) {y : Line} (hy : y ∈ ys) : x.number < y.number :=
  List.rel_of_pairwise_cons h.numbered (List.mem_append_left _ hy)

/-- It comes before all in the second part. -/
theorem lt_of_mem_right (h : Cut x ys zs) {z : Line} (hz : z ∈ zs) : x.number < z.number :=
  List.rel_of_pairwise_cons h.numbered (List.mem_append_right _ hz)

/-- The first part comes before the second. -/
theorem lt_of_mem_of_mem (h : Cut x ys zs) {y z : Line} (hy : y ∈ ys) (hz : z ∈ zs) :
    y.number < z.number :=
  (List.pairwise_append.mp h.numbered.of_cons).2.2 y hy z hz

theorem numbered_left (h : Cut x ys zs) : Numbered ys :=
  (List.pairwise_append.mp h.numbered.of_cons).1

theorem numbered_right (h : Cut x ys zs) : Numbered zs :=
  (List.pairwise_append.mp h.numbered.of_cons).2.1

theorem not_mem_left (h : Cut x ys zs) : x ∉ ys := fun hx =>
  Nat.lt_irrefl _ (h.lt_of_mem_left hx)

theorem not_mem_right (h : Cut x ys zs) : x ∉ zs := fun hx =>
  Nat.lt_irrefl _ (h.lt_of_mem_right hx)

theorem disjoint (h : Cut x ys zs) {w : Line} (hy : w ∈ ys) : w ∉ zs := fun hz =>
  Nat.lt_irrefl _ (h.lt_of_mem_of_mem hy hz)

/-- The first of the lines from the cut on comes before each of them or is that line. -/
theorem exists_head_le (h : Cut x ys zs) {z : Line} (hz : z ∈ zs) :
    ∃ w ∈ zs, w.indent ≤ x.indent ∧ (w = z ∨ w.number < z.number) := by
  cases zs with
  | nil => exact absurd hz List.not_mem_nil
  | cons w rest =>
    refine ⟨w, List.mem_cons_self .., h.stops w rfl, ?_⟩
    rcases List.mem_cons.mp hz with rfl | hrest
    · exact Or.inl rfl
    · exact Or.inr (List.rel_of_pairwise_cons h.numbered_right hrest)

/-- The first line has no parent. -/
theorem parent?_head (h : Cut x ys zs) : parent? (x :: (ys ++ zs)) x = none := by
  unfold parent?
  rw [List.getLast?_eq_none_iff, List.filter_eq_nil_iff]
  intro w hw
  have hle : x.number ≤ w.number := by
    rcases List.mem_cons.mp hw with rfl | hrest
    · exact Nat.le_refl _
    · exact Nat.le_of_lt (List.rel_of_pairwise_cons h.numbered hrest)
  simp only [decide_eq_true_eq]
  omega

/-- A deeper line that directly follows `x` has its parent among such lines, or it is `x`. -/
theorem parent?_left (h : Cut x ys zs) {y : Line} (hy : y ∈ ys) :
    parent? (x :: (ys ++ zs)) y = (parent? ys y).or (some x) := by
  have hxy : x.number < y.number ∧ x.indent < y.indent := ⟨h.lt_of_mem_left hy, h.deeper y hy⟩
  have hzs : zs.filter (fun w => w.number < y.number ∧ w.indent < y.indent) = [] := by
    rw [List.filter_eq_nil_iff]
    intro z hz
    have := h.lt_of_mem_of_mem hy hz
    simp only [decide_eq_true_eq]
    omega
  unfold parent?
  rw [List.filter_cons_of_pos (by simpa using hxy), List.filter_append, hzs, List.append_nil,
    List.getLast?_cons]
  cases (ys.filter fun w => w.number < y.number ∧ w.indent < y.indent).getLast? with
  | none => rfl
  | some w => rfl

/-- A line from the cut on has its parent there or has none: whatever stands before the cut is at
least as deep as the first line after it. -/
theorem parent?_right (h : Cut x ys zs) {z : Line} (hz : z ∈ zs) :
    parent? (x :: (ys ++ zs)) z = parent? zs z := by
  unfold parent?
  rw [← List.cons_append, List.filter_append, List.getLast?_append]
  cases hlast : (zs.filter fun w => w.number < z.number ∧ w.indent < z.indent).getLast? with
  | some w => rfl
  | none =>
    -- With no parent there, `z` is no deeper than the first line from the cut on, so no deeper
    -- than `x`.
    rw [List.getLast?_eq_none_iff, List.filter_eq_nil_iff] at hlast
    obtain ⟨w, hw, hwx, hwz⟩ := h.exists_head_le hz
    have hzw : z.indent ≤ w.indent := by
      rcases hwz with rfl | hlt
      · exact Nat.le_refl _
      · have := hlast w hw
        simp only [decide_eq_true_eq] at this
        omega
    rw [Option.none_or, List.getLast?_eq_none_iff, List.filter_eq_nil_iff]
    intro v hv
    have hxv : x.indent ≤ v.indent := by
      rcases List.mem_cons.mp hv with rfl | hys
      · exact Nat.le_refl _
      · exact Nat.le_of_lt (h.deeper v hys)
    simp only [decide_eq_true_eq]
    omega

end Cut

/-! ## What a cut does to an assignment of lines to lines -/

/-- An assignment that finds for every line another one among given lines goes through a cut part
by part: a line of the first part keeps what it is assigned there or, having nothing, gets `x`; a
line of the second part keeps what it is assigned there. The parent of a line is such an
assignment, and so is the component line that it belongs to. -/
structure Attaches (f : List Line → Line → Option Line) (x : Line) (ys zs : List Line) : Prop where
  cut : Cut x ys zs
  mem : ∀ {lines : List Line} {y w : Line}, f lines y = some w → w ∈ lines
  head : f (x :: (ys ++ zs)) x = none
  left : ∀ y ∈ ys, f (x :: (ys ++ zs)) y = (f ys y).or (some x)
  right : ∀ z ∈ zs, f (x :: (ys ++ zs)) z = f zs z

namespace Attaches

variable {f : List Line → Line → Option Line} {x : Line} {ys zs : List Line}

/-- Every line in the first part is attached to something. -/
theorem left_ne_none (h : Attaches f x ys zs) {y : Line} (hy : y ∈ ys) :
    f (x :: (ys ++ zs)) y ≠ none := by
  rw [h.left y hy]
  cases f ys y <;> simp

/-- A line in the first part is attached as it is there, or to the first line if it is to nothing
there. -/
theorem left_eq_iff (h : Attaches f x ys zs) {y w : Line} (hy : y ∈ ys) :
    f (x :: (ys ++ zs)) y = some w ↔ f ys y = some w ∨ (f ys y = none ∧ x = w) := by
  rw [h.left y hy]
  cases f ys y <;> simp

/-- A line of the first part is never assigned the same as one of the second part. -/
theorem left_ne_right (h : Attaches f x ys zs) {y z : Line} (hy : y ∈ ys) (hz : z ∈ zs) :
    f (x :: (ys ++ zs)) y ≠ f (x :: (ys ++ zs)) z := by
  intro he
  cases hw : f (x :: (ys ++ zs)) y with
  | none => exact h.left_ne_none hy hw
  | some w =>
    have hright : w ∈ zs := h.mem ((h.right z hz).symm.trans (he.symm.trans hw))
    rcases (h.left_eq_iff hy).mp hw with hleft | ⟨-, rfl⟩
    · exact h.cut.disjoint (h.mem hleft) hright
    · exact h.cut.not_mem_right hright

/-- Lines of the first part that are assigned the same are so within the first part. -/
theorem left_inj (h : Attaches f x ys zs) {y y' : Line} (hy : y ∈ ys) (hy' : y' ∈ ys)
    (he : f (x :: (ys ++ zs)) y = f (x :: (ys ++ zs)) y') : f ys y = f ys y' := by
  have hne : ∀ {v w : Line}, f ys v = some w → w ≠ x := fun hv hwx =>
    h.cut.not_mem_left (hwx ▸ h.mem hv)
  rw [h.left y hy, h.left y' hy'] at he
  cases hw : f ys y with
  | none =>
    cases hw' : f ys y' with
    | none => rfl
    | some w' => exact absurd (by simpa [hw, hw'] using he.symm) (hne hw')
  | some w =>
    cases hw' : f ys y' with
    | none => exact absurd (by simpa [hw, hw'] using he) (hne hw)
    | some w' => simpa [hw, hw'] using he

/-- The lines that are assigned `p`, part by part. -/
theorem filter_eq (h : Attaches f x ys zs) (p : Option Line) :
    (x :: (ys ++ zs)).filter (fun y => f (x :: (ys ++ zs)) y = p)
      = (if p = none then [x] else []) ++ ys.filter (fun y => (f ys y).or (some x) = p)
        ++ zs.filter (fun z => f zs z = p) := by
  have hys : ys.filter (fun y => f (x :: (ys ++ zs)) y = p)
      = ys.filter (fun y => (f ys y).or (some x) = p) :=
    List.filter_congr fun y hy => by rw [h.left y hy]
  have hzs : zs.filter (fun z => f (x :: (ys ++ zs)) z = p) = zs.filter (fun z => f zs z = p) :=
    List.filter_congr fun z hz => by rw [h.right z hz]
  rw [List.filter_cons, List.filter_append, h.head, hys, hzs]
  cases p <;> simp

/-- Nothing is attached to a line that is not there. -/
theorem filter_not_mem (h : Attaches f x ys zs) {lines : List Line} {w : Line} (hw : w ∉ lines) :
    lines.filter (fun y => f lines y = some w) = [] := by
  rw [List.filter_eq_nil_iff]
  intro z _ hz
  exact hw (h.mem (of_decide_eq_true hz))

/-- Attached to nothing are the first line and what is so in the second part. -/
theorem filter_none (h : Attaches f x ys zs) :
    (x :: (ys ++ zs)).filter (fun y => f (x :: (ys ++ zs)) y = none)
      = x :: zs.filter (fun z => f zs z = none) := by
  have hys : ys.filter (fun y => (f ys y).or (some x) = none) = [] := by
    rw [List.filter_eq_nil_iff]
    intro y _
    cases f ys y <;> simp
  rw [h.filter_eq, hys]
  simp

/-- Attached to the first line is what is attached to nothing in the first part. -/
theorem filter_head (h : Attaches f x ys zs) :
    (x :: (ys ++ zs)).filter (fun y => f (x :: (ys ++ zs)) y = some x)
      = ys.filter (fun y => f ys y = none) := by
  have hys : ys.filter (fun y => (f ys y).or (some x) = some x)
      = ys.filter (fun y => f ys y = none) := by
    refine List.filter_congr fun y _ => decide_eq_decide.mpr ?_
    cases hw : f ys y with
    | none => simp
    | some w => simpa using fun hwx : w = x => h.cut.not_mem_left (hwx ▸ h.mem hw)
  rw [h.filter_eq, hys, h.filter_not_mem h.cut.not_mem_right]
  simp

/-- What is attached to a line in the first part lies in that part. -/
theorem filter_left (h : Attaches f x ys zs) {w : Line} (hw : w ∈ ys) :
    (x :: (ys ++ zs)).filter (fun y => f (x :: (ys ++ zs)) y = some w)
      = ys.filter (fun y => f ys y = some w) := by
  have hxw : x ≠ w := fun he => h.cut.not_mem_left (he ▸ hw)
  have hys : ys.filter (fun y => (f ys y).or (some x) = some w)
      = ys.filter (fun y => f ys y = some w) := by
    refine List.filter_congr fun y _ => decide_eq_decide.mpr ?_
    cases f ys y <;> simp [hxw]
  rw [h.filter_eq, hys, h.filter_not_mem (h.cut.disjoint hw)]
  simp

/-- What is attached to a line in the second part lies in that part. -/
theorem filter_right (h : Attaches f x ys zs) {w : Line} (hw : w ∈ zs) :
    (x :: (ys ++ zs)).filter (fun y => f (x :: (ys ++ zs)) y = some w)
      = zs.filter (fun z => f zs z = some w) := by
  have hys : ys.filter (fun y => (f ys y).or (some x) = some w) = [] := by
    rw [List.filter_eq_nil_iff]
    intro y _ he
    cases hv : f ys y with
    | none =>
      have hxw : x = w := by simpa [hv] using he
      exact h.cut.not_mem_right (hxw ▸ hw)
    | some v =>
      have hvw : v = w := by simpa [hv] using he
      exact h.cut.disjoint (h.mem hv) (hvw ▸ hw)
  rw [h.filter_eq, hys]
  simp

end Attaches

/-- Parents go through a cut part by part. -/
theorem Cut.attaches_parent? {x : Line} {ys zs : List Line} (h : Cut x ys zs) :
    Attaches parent? x ys zs where
  cut := h
  mem := fun hw => (mem_of_parent?_eq hw).1
  head := h.parent?_head
  left := fun _ hy => h.parent?_left hy
  right := fun _ hz => h.parent?_right hz

/-! ## The trees of the parent relation -/

/-- The trees below a line are those of its children, each with the trees below it. -/
theorem treesBelow_eq (block : List Line) (p : Option Line) :
    treesBelow block p = (childrenOf block p).filterMap fun y =>
      y.node?.map fun n => { n with children := treesBelow block (some y) } := by
  rw [treesBelow]
  simp only [List.filterMap_subtype, List.unattach_attach]

/-- Trees depend on the children of the lines only, wherever these are looked for. -/
theorem treesBelow_congr {block part : List Line}
    (hpart : ∀ w ∈ part, childrenOf block (some w) = childrenOf part (some w)) :
    ∀ (q p : Option Line), childrenOf block p = childrenOf part q →
      treesBelow block p = treesBelow part q := by
  intro q
  induction q using treesBelow.induct part with
  | case1 q ih =>
    intro p h
    rw [treesBelow_eq block p, treesBelow_eq part q, h]
    refine List.filterMap_congr fun y hy => ?_
    have hy' := hpart y (mem_childrenOf.mp hy).1
    rw [ih ⟨y, hy⟩ (some y) hy']

namespace Cut

variable {x : Line} {ys zs : List Line}

/-- At the top stand the first line and what is at the top of the second part. -/
theorem childrenOf_none (h : Cut x ys zs) :
    childrenOf (x :: (ys ++ zs)) none = x :: childrenOf zs none :=
  h.attaches_parent?.filter_none

/-- The trees of a block are the tree of its first line, over the trees of the deeper lines that
directly follow it, and the trees of the lines from the cut on. -/
theorem treesBelow_none (h : Cut x ys zs) {n : Node} (hn : x.node? = some n) :
    treesBelow (x :: (ys ++ zs)) none
      = { n with children := treesBelow ys none } :: treesBelow zs none := by
  have hbelow : treesBelow (x :: (ys ++ zs)) (some x) = treesBelow ys none :=
    treesBelow_congr (fun w hw => h.attaches_parent?.filter_left hw) none (some x)
      h.attaches_parent?.filter_head
  have hright : ∀ w ∈ zs, treesBelow (x :: (ys ++ zs)) (some w) = treesBelow zs (some w) :=
    fun w hw => treesBelow_congr (fun v hv => h.attaches_parent?.filter_right hv) (some w) (some w)
      (h.attaches_parent?.filter_right hw)
  rw [treesBelow_eq, h.childrenOf_none, List.filterMap_cons, hn, hbelow, treesBelow_eq zs none]
  refine congrArg (List.cons _) (List.filterMap_congr fun w hw => ?_)
  rw [hright w (mem_childrenOf.mp hw).1]

end Cut

/-- Cutting node lines after the first is cutting their lines. -/
theorem cut_nodeLines {x : NodeLine} {rest : List NodeLine}
    (h : Numbered ((x :: rest).map NodeLine.line)) :
    Cut x.line ((rest.takeWhile x.isBelow).map NodeLine.line)
      ((rest.dropWhile x.isBelow).map NodeLine.line) := by
  have hcut := cut_span (show Numbered (x.line :: rest.map NodeLine.line) from h)
  rw [List.takeWhile_map, List.dropWhile_map] at hcut
  exact hcut

/-- The lines behind a first one are those of the two parts, in order. -/
theorem map_line_cons (x : NodeLine) (rest : List NodeLine) :
    (x :: rest).map NodeLine.line
      = x.line :: ((rest.takeWhile x.isBelow).map NodeLine.line
        ++ (rest.dropWhile x.isBelow).map NodeLine.line) := by
  rw [← List.map_append, List.takeWhile_append_dropWhile, List.map_cons]

/-- **The trees built by cutting are those of the parent relation.** -/
theorem forest_eq_treesBelow (xs : List NodeLine) (hn : Numbered (xs.map NodeLine.line))
    (hx : ∀ x ∈ xs, x.line.node? = some x.node) :
    forest xs = treesBelow (xs.map NodeLine.line) none := by
  induction xs using forest.induct with
  | case1 => rw [forest, treesBelow_eq]; rfl
  | case2 x rest ihLeft ihRight =>
    have hcut := cut_nodeLines hn
    have hleft := ihLeft hcut.numbered_left fun y hy =>
      hx y (List.mem_cons_of_mem _ ((List.takeWhile_sublist _).subset hy))
    have hright := ihRight hcut.numbered_right fun y hy =>
      hx y (List.mem_cons_of_mem _ ((List.dropWhile_sublist _).subset hy))
    rw [forest, hleft, hright, map_line_cons,
      hcut.treesBelow_none (hx x (List.mem_cons_self ..))]

/-! ## Alignment -/

/-- The lines at the top of a block all have a given indentation. -/
def TopAt (block : List Line) (k : Nat) : Prop := ∀ y ∈ childrenOf block none, y.indent = k

theorem aligned_nil : Aligned [] := ⟨by simp, by simp⟩

/-- The first line of a block is at its top. -/
theorem parent?_head_of_numbered {y : Line} {rest : List Line} (h : Numbered (y :: rest)) :
    parent? (y :: rest) y = none := by
  have hcut := cut_span h
  have hhead := hcut.parent?_head
  rwa [List.takeWhile_append_dropWhile] at hhead

namespace Cut

variable {x : Line} {ys zs : List Line} {k : Nat}

/-- The first deeper line that follows `x` hangs below `x` itself. -/
theorem parent?_first {y : Line} (h : Cut x (y :: ys) zs) :
    parent? (x :: ((y :: ys) ++ zs)) y = some x :=
  (h.attaches_parent?.left_eq_iff (List.mem_cons_self ..)).mpr
    (.inr ⟨parent?_head_of_numbered h.numbered_left, rfl⟩)

/-- What an aligned block says of the parts of a cut. -/
theorem aligned_parts (h : Cut x ys zs) (ha : Aligned (x :: (ys ++ zs)))
    (ht : TopAt (x :: (ys ++ zs)) k) :
    x.indent = k ∧ (x.declaresState = true → ys = []) ∧ Aligned ys ∧ Aligned zs ∧ TopAt zs k := by
  have memLeft : ∀ {y}, y ∈ ys → y ∈ x :: (ys ++ zs) := fun hy =>
    List.mem_cons_of_mem _ (List.mem_append_left _ hy)
  have memRight : ∀ {z}, z ∈ zs → z ∈ x :: (ys ++ zs) := fun hz =>
    List.mem_cons_of_mem _ (List.mem_append_right _ hz)
  refine ⟨ht x ?_, ?_, ⟨?_, ?_⟩, ⟨?_, ?_⟩, ?_⟩
  · rw [h.childrenOf_none]
    exact List.mem_cons_self ..
  · intro hstate
    cases ys with
    | nil => rfl
    | cons y rest =>
      rw [ha.noStateParent y (memLeft (List.mem_cons_self ..)) x h.parent?_first] at hstate
      exact absurd hstate (by simp)
  · intro y hy w hw
    exact ha.noStateParent y (memLeft hy) w ((h.attaches_parent?.left_eq_iff hy).mpr (Or.inl hw))
  · intro y hy y' hy' hp
    refine ha.siblings y (memLeft hy) y' (memLeft hy') ?_
    rw [h.parent?_left hy, h.parent?_left hy', hp]
  · intro z hz w hw
    exact ha.noStateParent z (memRight hz) w (by rw [h.parent?_right hz]; exact hw)
  · intro z hz z' hz' hp
    refine ha.siblings z (memRight hz) z' (memRight hz') ?_
    rw [h.parent?_right hz, h.parent?_right hz', hp]
  · intro z hz
    refine ht z ?_
    rw [h.childrenOf_none]
    exact List.mem_cons_of_mem _ hz

/-- Aligned parts whose tops agree make an aligned block. -/
theorem aligned_join (h : Cut x ys zs) (hx : x.indent = k)
    (hstate : x.declaresState = true → ys = []) (hys : Aligned ys) (hzs : Aligned zs)
    (ht : TopAt zs k) : Aligned (x :: (ys ++ zs)) ∧ TopAt (x :: (ys ++ zs)) k := by
  have htop : TopAt (x :: (ys ++ zs)) k := by
    intro y hy
    rw [h.childrenOf_none] at hy
    rcases List.mem_cons.mp hy with rfl | hz
    · exact hx
    · exact ht y hz
  have headRight : ∀ {z}, z ∈ zs → parent? (x :: (ys ++ zs)) z = none → z.indent = k := by
    intro z hz hnone
    rw [h.parent?_right hz] at hnone
    exact ht z (mem_childrenOf.mpr ⟨hz, hnone⟩)
  have split : ∀ {w}, w ∈ x :: (ys ++ zs) → w = x ∨ w ∈ ys ∨ w ∈ zs := by
    intro w hw
    simpa using hw
  refine ⟨⟨?_, ?_⟩, htop⟩
  · intro y hy w hw
    rcases split hy with rfl | hy | hy
    · rw [h.parent?_head] at hw
      exact absurd hw (by simp)
    · rcases (h.attaches_parent?.left_eq_iff hy).mp hw with hw | ⟨-, rfl⟩
      · exact hys.noStateParent y hy w hw
      · cases hs : x.declaresState with
        | false => rfl
        | true => exact absurd (hstate hs ▸ hy) List.not_mem_nil
    · rw [h.parent?_right hy] at hw
      exact hzs.noStateParent y hy w hw
  · intro y hy z hz hp
    -- Only lines of the same part, and the tops of the block, can share a parent.
    rcases split hy with rfl | hys' | hzs' <;> rcases split hz with rfl | hzy | hzz
    · rfl
    · rw [h.parent?_head] at hp
      exact absurd hp.symm (h.attaches_parent?.left_ne_none hzy)
    · rw [h.parent?_head] at hp
      rw [hx, headRight hzz hp.symm]
    · rw [h.parent?_head] at hp
      exact absurd hp (h.attaches_parent?.left_ne_none hys')
    · exact hys.siblings y hys' z hzy (h.attaches_parent?.left_inj hys' hzy hp)
    · exact absurd hp (h.attaches_parent?.left_ne_right hys' hzz)
    · rw [h.parent?_head] at hp
      rw [hx, headRight hzs' hp]
    · exact absurd hp.symm (h.attaches_parent?.left_ne_right hzy hzs')
    · rw [h.parent?_right hzs', h.parent?_right hzz] at hp
      exact hzs.siblings y hzs' z hzz hp

end Cut

/-- The indentation that the first line sets, or that earlier siblings have set, is that of the
top. -/
theorem topAt_getD {x : Line} {rest : List Line} (hn : Numbered (x :: rest))
    (ha : Aligned (x :: rest)) (siblings : Option Nat) (hk : ∀ k ∈ siblings, TopAt (x :: rest) k) :
    TopAt (x :: rest) (siblings.getD x.indent) := by
  cases siblings with
  | some k => exact hk k rfl
  | none =>
    intro y hy
    obtain ⟨hmem, hnone⟩ := mem_childrenOf.mp hy
    exact ha.siblings y hmem x (List.mem_cons_self ..)
      (hnone.trans (parent?_head_of_numbered hn).symm)

/-- What `misplaced?` asks of the parts of a cut. -/
theorem misplaced?_cons_eq_none_iff (siblings : Option Nat) (x : NodeLine) (rest : List NodeLine) :
    misplaced? siblings (x :: rest) = none ↔
      x.line.indent = siblings.getD x.line.indent
        ∧ (x.line.declaresState = true → rest.takeWhile x.isBelow = [])
        ∧ misplaced? none (rest.takeWhile x.isBelow) = none
        ∧ misplaced? (some (siblings.getD x.line.indent)) (rest.dropWhile x.isBelow) = none := by
  rw [misplaced?]
  by_cases hindent : x.line.indent = siblings.getD x.line.indent
  · rw [if_neg (not_not.mpr hindent)]
    cases hs : x.line.declaresState <;> cases ht : rest.takeWhile x.isBelow with
    | nil => simp [← hindent, misplaced?]
    | cons y ys =>
      cases misplaced? none (y :: ys) <;> simp [← hindent]
  · rw [if_pos hindent]
    exact ⟨fun h => absurd h (by simp), fun h => absurd h.1 hindent⟩

/-- Nothing is misplaced among lines that must share the indentation of earlier siblings, if there
are any, exactly when they are aligned and their top has that indentation. -/
theorem misplaced?_eq_none_iff (xs : List NodeLine) (hn : Numbered (xs.map NodeLine.line)) :
    ∀ siblings : Option Nat, misplaced? siblings xs = none ↔
      Aligned (xs.map NodeLine.line) ∧ ∀ k ∈ siblings, TopAt (xs.map NodeLine.line) k := by
  -- The deeper lines start without siblings and the rest goes on with those of `x`, so the
  -- induction is for all siblings at once.
  induction xs using forest.induct with
  | case1 =>
    intro siblings
    rw [misplaced?]
    exact ⟨fun _ => ⟨aligned_nil, fun k _ => by simp [TopAt, childrenOf]⟩, fun _ => rfl⟩
  | case2 x rest ihLeft ihRight =>
    intro siblings
    have hcut := cut_nodeLines hn
    have hleft := ihLeft hcut.numbered_left none
    have hright := ihRight hcut.numbered_right (some (siblings.getD x.line.indent))
    rw [misplaced?_cons_eq_none_iff, hleft, hright]
    rw [map_line_cons] at hn ⊢
    constructor
    · rintro ⟨hindent, hstate, ⟨hys, -⟩, hzs, htop⟩
      have hjoin := hcut.aligned_join hindent
        (fun hs => by rw [hstate hs]; rfl) hys hzs (htop _ rfl)
      refine ⟨hjoin.1, ?_⟩
      rintro k rfl
      exact hjoin.2
    · rintro ⟨ha, hk⟩
      obtain ⟨hindent, hstate, hys, hzs, hzk⟩ :=
        hcut.aligned_parts ha (topAt_getD hn ha siblings hk)
      refine ⟨hindent, fun hs => List.map_eq_nil_iff.mp (hstate hs), ⟨hys, by simp⟩, hzs, ?_⟩
      intro k hkz
      exact Option.mem_some_iff.mp hkz ▸ hzk

end PageLang
