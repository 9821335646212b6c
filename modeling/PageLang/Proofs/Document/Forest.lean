import Mathlib.Data.List.TakeWhile
import PageLang.Document.Frame

/-!
# Indentation as structure

Among the lines that give nodes, the parent of a line is the nearest one before it with less
indentation. `forest` builds the trees of that relation, without a stack: it cuts the lines after
the first into those that directly follow it and are deeper, and the rest. Not every sequence of
lines is accepted: `misplaced?` finds, by the same cuts, the first line that stands below a state
line, or whose indentation differs from that of the lines with the same parent.

The stack of open nodes does the same one line at a time:

> `placeAll_of_misplaced?`: the first line that cannot be placed is the one that `misplaced?` finds.

> `close_placeAll`: if there is none, the block closes to the trees of `forest`.

Both come from `places`, by induction on the cuts. What it says of the stack afterwards is said of
the stack with the deepest frames closed, since these stay open until a later line closes them.
-/

namespace PageLang

/-- A line that gives a node, with its node. -/
structure NodeLine where
  line : Line
  node : Node

/-- The lines among these that give nodes. -/
def NodeLine.ofLines (lines : List Line) : List NodeLine :=
  lines.filterMap fun l => l.node?.map (⟨l, ·⟩)

/-- Whether a line is deeper than another. -/
def NodeLine.isBelow (top x : NodeLine) : Bool := top.line.indent < x.line.indent

/-- The trees of a sequence of lines: below a line lie the lines that directly follow it and are
deeper. -/
def forest : List NodeLine → List Node
  | [] => []
  | x :: rest =>
    { x.node with children := forest (rest.takeWhile x.isBelow) }
      :: forest (rest.dropWhile x.isBelow)
termination_by xs => xs.length
decreasing_by
  · have := (List.takeWhile_prefix (l := rest) x.isBelow).length_le
    simp only [List.length_cons]
    omega
  · have := (List.dropWhile_suffix (l := rest) x.isBelow).length_le
    simp only [List.length_cons]
    omega

/-- The first line that cannot stand where it does, among lines that have the same parent and those
below them. The first of the siblings sets the indentation that the others must share. -/
def misplaced? (siblings : Option Nat) : List NodeLine → Option Misplaced
  | [] => none
  | x :: rest =>
    let indent := siblings.getD x.line.indent
    if x.line.indent ≠ indent then some ⟨x.line, .unaligned x.line.indent indent⟩
    else
      match x.line.declaresState, (rest.takeWhile x.isBelow).head? with
      | true, some y => some ⟨y.line, .belowState⟩
      | _, _ =>
        match misplaced? none (rest.takeWhile x.isBelow) with
        | some m => some m
        | none => misplaced? (some indent) (rest.dropWhile x.isBelow)
termination_by xs => xs.length
decreasing_by
  · have := (List.takeWhile_prefix (l := rest) x.isBelow).length_le
    simp only [List.length_cons]
    omega
  · have := (List.dropWhile_suffix (l := rest) x.isBelow).length_le
    simp only [List.length_cons]
    omega

theorem forest_nil : forest [] = [] := by rw [forest]

/-- The tree of a line with the given lines below it. -/
def NodeLine.tree (x : NodeLine) (below : List NodeLine) : Node :=
  { x.node with children := forest below }

/-- The first tree takes the deeper lines after its root. -/
theorem forest_cons (x : NodeLine) (rest : List NodeLine) :
    forest (x :: rest)
      = x.tree (rest.takeWhile x.isBelow) :: forest (rest.dropWhile x.isBelow) := by
  rw [forest, NodeLine.tree]

section Cut

variable {siblings : Option Nat} {x : NodeLine} {rest : List NodeLine}

/-- A line that is not indented as its siblings is misplaced. -/
theorem misplaced?_cons_of_ne (h : x.line.indent ≠ siblings.getD x.line.indent) :
    misplaced? siblings (x :: rest)
      = some ⟨x.line, .unaligned x.line.indent (siblings.getD x.line.indent)⟩ := by
  rw [misplaced?, if_pos h]

/-- The first of the deeper lines after a state line is misplaced. -/
theorem misplaced?_cons_of_state {y : NodeLine}
    (h : x.line.indent = siblings.getD x.line.indent) (hx : x.line.declaresState = true)
    (hy : (rest.takeWhile x.isBelow).head? = some y) :
    misplaced? siblings (x :: rest) = some ⟨y.line, .belowState⟩ := by
  rw [misplaced?, if_neg (not_not.mpr h), hx, hy]

/-- Unless it is that one, a misplaced line is one of the deeper ones after the first line, or
else of those that follow them. -/
theorem misplaced?_cons_of_eq (h : x.line.indent = siblings.getD x.line.indent)
    (hx : x.line.declaresState = true → rest.takeWhile x.isBelow = []) :
    misplaced? siblings (x :: rest)
      = (misplaced? none (rest.takeWhile x.isBelow)).or
        (misplaced? (some x.line.indent) (rest.dropWhile x.isBelow)) := by
  rw [misplaced?, if_neg (not_not.mpr h)]
  split
  · next y hstate hy =>
    rw [hx hstate] at hy
    cases hy
  · rw [← h]
    cases misplaced? none (rest.takeWhile x.isBelow) <;> rfl

end Cut

/-- If nothing is misplaced, the first line stands where its siblings do. -/
theorem indent_eq_of_misplaced?_eq_none {k : Nat} {xs : List NodeLine}
    (h : misplaced? (some k) xs = none) : ∀ x ∈ xs.head?, x.line.indent = k := by
  intro x hx
  obtain ⟨rest, rfl⟩ := List.head?_eq_some_iff.mp hx
  by_contra hne
  rw [misplaced?, if_pos (by simpa using hne)] at h
  cases h

namespace Line

variable {l : Line} {n : Node}

/-- The node of a line comes without children. -/
theorem children_of_node? (h : l.node? = some n) : n.children = [] := by
  unfold node? at h
  split at h
  · rw [← Option.some.inj h]
  · rw [← Option.some.inj h]
  · cases h

/-- The node of a state line is of the kind by which it is told from others. -/
theorem kind_of_declaresState (hstate : l.declaresState = true) (h : l.node? = some n) :
    n.kind = Node.stateKind := by
  unfold declaresState at hstate
  unfold node? at h
  split at hstate
  · next hcontent =>
    rw [hcontent] at h
    rw [← Option.some.inj h]
  · cases hstate

end Line

/-- A line with nothing below it gives its own node. -/
theorem NodeLine.tree_nil {x : NodeLine} (h : x.line.node? = some x.node) : x.tree [] = x.node := by
  have hchildren := Line.children_of_node? h
  obtain ⟨l, n⟩ := x
  cases n
  rw [tree, forest_nil, ← hchildren]

namespace Document

/-! ## Lining up -/

namespace Frame

/-- The frame whose children are known to stand at the given indentation. -/
def expecting (f : Frame) (indent : Nat) : Frame := { f with childIndent := some indent }

/-- The frame with the trees of the given lines below it. -/
def grow (f : Frame) (xs : List NodeLine) : Frame where
  indent := f.indent
  node := { f.node with children := f.node.children ++ forest xs }
  childIndent := f.childIndent.or (xs.head?.map (·.line.indent))

variable {f : Frame} {l : Line}

theorem grow_nil : f.grow [] = f := by
  obtain ⟨indent, node, childIndent⟩ := f
  cases node
  simp [grow, forest_nil]

/-- Below a node that has no children, lines grow to their trees. -/
theorem node_grow {indent : Nat} {x : NodeLine} (xs : List NodeLine) (h : x.node.children = []) :
    (({ indent, node := x.node } : Frame).grow xs).node = x.tree xs := by
  rw [grow, NodeLine.tree, h, List.nil_append]

/-- Lines grow below a frame sibling by sibling. -/
theorem grow_cons {x : NodeLine} {rest : List NodeLine}
    (h : x.line.indent = f.childIndent.getD x.line.indent) :
    f.grow (x :: rest)
      = ((f.expecting x.line.indent).attach (x.tree (rest.takeWhile x.isBelow))).grow
          (rest.dropWhile x.isBelow) := by
  have hindent : f.childIndent.or (some x.line.indent) = some x.line.indent := by
    cases hf : f.childIndent with
    | none => rfl
    | some k =>
      rw [hf, Option.getD_some] at h
      rw [Option.some_or, h]
  simp [grow, expecting, attach, forest_cons, hindent]

/-- A line that lines up with the earlier children is accepted. -/
theorem checkSibling_of_eq (h : l.indent = f.childIndent.getD l.indent) :
    f.checkSibling l = .ok (f.expecting l.indent) := by
  unfold checkSibling expecting
  cases hf : f.childIndent with
  | none => rfl
  | some k =>
    rw [hf, Option.getD_some] at h
    have hself : { f with childIndent := some l.indent } = f := by rw [h, ← hf]
    dsimp only
    rw [if_pos h, hself]

/-- A line that stands before the earlier children is not aligned with them. -/
theorem checkSibling_of_lt {k : Nat} (hf : f.childIndent = some k) (h : l.indent < k) :
    f.checkSibling l = .error ⟨l, .unaligned l.indent k⟩ := by
  unfold checkSibling
  rw [hf]
  dsimp only
  rw [if_neg (Nat.ne_of_lt h), if_neg (fun hstate => Nat.lt_asymm h hstate.1)]

/-- A line that is deeper than the earlier children is refused as below a state line if the last
child is one. -/
theorem checkSibling_of_gt {k : Nat} (hf : f.childIndent = some k) (h : k < l.indent)
    (hlast : ∃ n ∈ f.node.children.getLast?, n.kind = Node.stateKind) :
    f.checkSibling l = .error ⟨l, .belowState⟩ := by
  obtain ⟨n, hn, hkind⟩ := hlast
  unfold checkSibling
  rw [hf]
  dsimp only
  rw [if_neg (Nat.ne_of_gt h), if_pos ⟨h, by simp [Option.mem_def.mp hn, hkind]⟩]

end Frame

namespace Frames

/-! ## Closing -/

/-- Closing down to one depth and then to a smaller one is closing to the smaller. -/
theorem closeUntil_closeFrom {j k : Nat} (h : j ≤ k) (below : List Frame) :
    ∀ top, (closeFrom k top below).closeUntil j = closeFrom j top below := by
  induction below with
  | nil =>
    intro top
    rfl
  | cons parent below ih =>
    intro top
    rw [closeFrom, closeFrom]
    by_cases hk : k ≤ top.indent
    · rw [if_pos hk, if_pos (h.trans hk), ih]
    · rw [if_neg hk]
      rfl

/-- To close some frames and then more is to close all of them. -/
theorem closeUntil_closeUntil (s : Frames) {j k : Nat} (h : j ≤ k) :
    (s.closeUntil k).closeUntil j = s.closeUntil j :=
  closeUntil_closeFrom h s.below s.top

/-- Stacks that are the same at one depth are the same at every lesser one. -/
theorem closeUntil_congr {s t : Frames} {j k : Nat} (h : j ≤ k)
    (hst : s.closeUntil k = t.closeUntil k) : s.closeUntil j = t.closeUntil j := by
  rw [← closeUntil_closeUntil s h, hst, closeUntil_closeUntil t h]

/-- A frame stays open for deeper lines, and the frame at the bottom for all lines. -/
theorem closeUntil_of_stays {f : Frame} {below : List Frame} {k : Nat}
    (h : below = [] ∨ f.indent < k) : (⟨f, below⟩ : Frames).closeUntil k = ⟨f, below⟩ := by
  cases below with
  | nil => rfl
  | cons parent below =>
    have hlt : f.indent < k := h.resolve_left (List.cons_ne_nil _ _)
    exact if_neg (Nat.not_le.mpr hlt)

/-- A frame is closed by a line that is not deeper. -/
theorem closeUntil_cons {f parent : Frame} {below : List Frame} {k : Nat} (h : k ≤ f.indent) :
    (⟨f, parent :: below⟩ : Frames).closeUntil k
      = (⟨parent.attach f.node, below⟩ : Frames).closeUntil k :=
  if_pos h

/-! ## Placing a line -/

section Place

variable {s : Frames} {f : Frame} {below : List Frame} {l : Line} {n : Node}
  (hs : s.closeUntil l.indent = ⟨f, below⟩)
include hs

/-- A state line is attached to its frame and opens none. -/
theorem place_of_state (h : l.indent = f.childIndent.getD l.indent) (hl : l.declaresState = true) :
    s.place l n = .ok ⟨(f.expecting l.indent).attach n, below⟩ := by
  unfold place
  simp only [hs, Frame.checkSibling_of_eq h, hl]
  rfl

/-- An element opens a frame. -/
theorem place_of_element (h : l.indent = f.childIndent.getD l.indent)
    (hl : l.declaresState = false) :
    s.place l n = .ok ⟨{ indent := l.indent, node := n }, f.expecting l.indent :: below⟩ := by
  unfold place
  simp only [hs, Frame.checkSibling_of_eq h, hl]
  rfl

/-- A line that is not indented as its siblings is not placed. -/
theorem place_of_error {m : Misplaced} (h : f.checkSibling l = .error m) :
    s.place l n = .error m := by
  unfold place
  simp only [hs, h]
  rfl

end Place

/-! ## Placing lines -/

/-- Place lines one after another. -/
def placeAll (s : Frames) (xs : List NodeLine) : Except Misplaced Frames :=
  xs.foldlM (fun s x => s.place x.line x.node) s

/-- Lines are placed one after the other. -/
theorem placeAll_cons_of_ok {s t : Frames} {x : NodeLine} (h : s.place x.line x.node = .ok t)
    (xs : List NodeLine) : s.placeAll (x :: xs) = t.placeAll xs := by
  rw [placeAll, List.foldlM_cons, h]
  rfl

/-- Nothing is placed behind a misplaced line. -/
theorem placeAll_cons_of_error {s : Frames} {x : NodeLine} {xs : List NodeLine} {m : Misplaced}
    (h : s.place x.line x.node = .error m) : s.placeAll (x :: xs) = .error m := by
  rw [placeAll, List.foldlM_cons, h]
  rfl

/-- Two runs of lines are placed one after the other. -/
theorem placeAll_append_of_ok {s t : Frames} {xs : List NodeLine} (h : s.placeAll xs = .ok t)
    (ys : List NodeLine) : s.placeAll (xs ++ ys) = t.placeAll ys := by
  unfold placeAll at h ⊢
  rw [List.foldlM_append, h]
  rfl

/-- An error in the first run is that of both. -/
theorem placeAll_append_of_error {s : Frames} {xs : List NodeLine} {m : Misplaced}
    (h : s.placeAll xs = .error m) (ys : List NodeLine) : s.placeAll (xs ++ ys) = .error m := by
  unfold placeAll at h ⊢
  rw [List.foldlM_append, h]
  rfl

/-- What is asked of a stack so that the lines can be placed on it as the next children of `f`,
and of lines below those. -/
structure Ready (s : Frames) (f : Frame) (below : List Frame) (xs : List NodeLine) (depth : Nat) :
    Prop where
  node : ∀ x ∈ xs, x.line.node? = some x.node
  /-- The first line closes the stack down to `f`. -/
  first : ∀ x ∈ xs.head?, s.closeUntil x.line.indent = ⟨f, below⟩
  closed : s.closeUntil depth = (⟨f, below⟩ : Frames).closeUntil depth
  /-- No line closes `f`. -/
  stays : below = [] ∨ ∀ x ∈ xs, f.indent < x.line.indent
  /-- The first line is not deeper than the children that `f` has. -/
  aligned : ∀ k ∈ f.childIndent, ∀ x ∈ xs.head?, x.line.indent ≤ k

/-- What comes of placing lines on such a stack. -/
structure Places (s : Frames) (f : Frame) (below : List Frame) (xs : List NodeLine) (depth : Nat) :
    Prop where
  misplaced : ∀ m, misplaced? f.childIndent xs = some m → s.placeAll xs = .error m
  /-- Down to `depth`, and to where the lines started, `f` has the trees of the lines below it. -/
  placed : misplaced? f.childIndent xs = none → ∃ t, s.placeAll xs = .ok t
    ∧ ∀ k ≤ depth, (∀ x ∈ xs.head?, k ≤ x.line.indent) →
      t.closeUntil k = (⟨f.grow xs, below⟩ : Frames).closeUntil k

section Cut

variable {s t : Frames} {f : Frame} {below : List Frame} {x : NodeLine} {rest : List NodeLine}
  {depth : Nat} (h : Ready s f below (x :: rest) depth)
include h

/-- The deeper lines after an element are expected below it. -/
theorem Ready.left (parent : Frame) :
    let frame : Frame := { indent := x.line.indent, node := x.node }
    Ready ⟨frame, parent :: below⟩ frame (parent :: below) (rest.takeWhile x.isBelow)
      x.line.indent := by
  intro frame
  have hdeeper : ∀ y ∈ rest.takeWhile x.isBelow, frame.indent < y.line.indent := by
    intro y hy
    simpa [NodeLine.isBelow] using List.mem_takeWhile_imp hy
  refine ⟨fun y hy => ?_, fun y hy => ?_, rfl, .inr hdeeper, by simp [frame]⟩
  · exact h.node y (List.mem_cons_of_mem _ ((List.takeWhile_sublist _).subset hy))
  · exact closeUntil_of_stays (.inr (hdeeper y (List.mem_of_mem_head? hy)))

/-- The lines after those are expected by the same frame as the first, which has one more child. -/
theorem Ready.right {g : Frame} (hindent : g.indent = f.indent)
    (hchild : g.childIndent = some x.line.indent)
    (ht : ∀ k ≤ x.line.indent, t.closeUntil k = (⟨g, below⟩ : Frames).closeUntil k) :
    Ready t g below (rest.dropWhile x.isBelow) x.line.indent := by
  have hmem : ∀ z ∈ rest.dropWhile x.isBelow, z ∈ x :: rest := fun z hz =>
    List.mem_cons_of_mem _ ((List.dropWhile_sublist _).subset hz)
  have hstays : below = [] ∨ ∀ z ∈ rest.dropWhile x.isBelow, g.indent < z.line.indent := by
    rw [hindent]
    exact h.stays.imp_right fun hall z hz => hall z (hmem z hz)
  have hle : ∀ z ∈ (rest.dropWhile x.isBelow).head?, z.line.indent ≤ x.line.indent := by
    intro z hz
    have hnot := List.head?_dropWhile_not x.isBelow rest
    rw [Option.mem_def.mp hz] at hnot
    simpa [NodeLine.isBelow] using hnot
  refine ⟨fun z hz => h.node z (hmem z hz), fun z hz => ?_, ht _ (Nat.le_refl _), hstays, ?_⟩
  · rw [ht _ (hle z hz)]
    exact closeUntil_of_stays (hstays.imp_right fun hall => hall z (List.mem_of_mem_head? hz))
  · intro k hk z hz
    rw [hchild] at hk
    rw [← Option.some.inj hk]
    exact hle z hz

end Cut

section Run

variable {s t : Frames} {f : Frame} {below : List Frame} {x : NodeLine} {rest : List NodeLine}
  {depth : Nat}

/-- If the first line and the deeper ones after it have been placed, the others are left. -/
theorem Places.of_right (haligned : x.line.indent = f.childIndent.getD x.line.indent)
    (hcut : misplaced? f.childIndent (x :: rest)
      = misplaced? (some x.line.indent) (rest.dropWhile x.isBelow))
    (hplaced : s.placeAll (x :: rest) = t.placeAll (rest.dropWhile x.isBelow))
    (hright : Places t ((f.expecting x.line.indent).attach (x.tree (rest.takeWhile x.isBelow)))
      below (rest.dropWhile x.isBelow) x.line.indent) :
    Places s f below (x :: rest) depth := by
  refine ⟨fun m hm => ?_, fun hnone => ?_⟩
  · rw [hplaced]
    exact hright.misplaced m (hcut ▸ hm)
  · rw [hcut] at hnone
    obtain ⟨u, hu, hclosed⟩ := hright.placed hnone
    refine ⟨u, hplaced.trans hu, fun k _ hk => ?_⟩
    have hkx : k ≤ x.line.indent := hk x rfl
    rw [Frame.grow_cons haligned]
    refine hclosed k hkx fun z hz => ?_
    rw [indent_eq_of_misplaced?_eq_none hnone z hz]
    exact hkx

/-- A misplaced line ends the placing with the error it has. -/
theorem Places.of_error {m : Misplaced} (hm : misplaced? f.childIndent (x :: rest) = some m)
    (hplace : s.placeAll (x :: rest) = .error m) : Places s f below (x :: rest) depth := by
  refine ⟨fun m' hm' => ?_, fun hnone => ?_⟩
  · rw [hm] at hm'
    rw [hplace, Option.some.inj hm']
  · rw [hm] at hnone
    cases hnone

/-- A line that stands before its siblings. -/
theorem Ready.places_of_ne (h : Ready s f below (x :: rest) depth)
    (hne : x.line.indent ≠ f.childIndent.getD x.line.indent) :
    Places s f below (x :: rest) depth := by
  cases hf : f.childIndent with
  | none =>
    rw [hf] at hne
    exact absurd rfl hne
  | some k =>
    have hlt : x.line.indent < k := by
      rw [hf] at hne
      exact Nat.lt_of_le_of_ne (h.aligned k hf x rfl) hne
    refine .of_error (misplaced?_cons_of_ne hne) (placeAll_cons_of_error ?_)
    rw [hf, Option.getD_some]
    exact place_of_error (h.first x rfl) (Frame.checkSibling_of_lt hf hlt)

/-- A state line, which stays closed: a deeper line after it is refused, and there is nothing
below it otherwise. -/
theorem Ready.places_of_state (h : Ready s f below (x :: rest) depth)
    (haligned : x.line.indent = f.childIndent.getD x.line.indent)
    (hstate : x.line.declaresState = true)
    (ih : ∀ {t g}, Ready t g below (rest.dropWhile x.isBelow) x.line.indent →
      Places t g below (rest.dropWhile x.isBelow) x.line.indent) :
    Places s f below (x :: rest) depth := by
  have hnode := h.node x (List.mem_cons_self ..)
  have hplace := place_of_state (n := x.node) (h.first x rfl) haligned hstate
  cases hbelow : rest.takeWhile x.isBelow with
  | nil =>
    have hrest : rest.dropWhile x.isBelow = rest := by
      have hsplit := List.takeWhile_append_dropWhile (p := x.isBelow) (l := rest)
      rwa [hbelow, List.nil_append] at hsplit
    have hmisplaced := misplaced?_cons_of_eq haligned fun _ => hbelow
    rw [hbelow, misplaced?, Option.none_or] at hmisplaced
    refine .of_right haligned hmisplaced
      ((placeAll_cons_of_ok hplace rest).trans (by rw [hrest])) ?_
    rw [hbelow, NodeLine.tree_nil hnode]
    exact ih (h.right rfl rfl fun _ _ => rfl)
  | cons y ys =>
    have hy : y ∈ rest.takeWhile x.isBelow := by simp [hbelow]
    have hdeeper : x.line.indent < y.line.indent := by
      simpa [NodeLine.isBelow] using List.mem_takeWhile_imp hy
    have hmem : y ∈ x :: rest := List.mem_cons_of_mem _ ((List.takeWhile_sublist _).subset hy)
    refine .of_error (misplaced?_cons_of_state haligned hstate (by rw [hbelow]; rfl)) ?_
    rw [placeAll_cons_of_ok hplace, ← List.takeWhile_append_dropWhile (p := x.isBelow) (l := rest),
      hbelow, List.cons_append]
    refine placeAll_cons_of_error (place_of_error
      (closeUntil_of_stays (h.stays.imp_right fun hall => hall y hmem))
      (Frame.checkSibling_of_gt rfl hdeeper ⟨x.node, ?_, Line.kind_of_declaresState hstate hnode⟩))
    simp [Frame.attach]

/-- An element, which is open for the deeper lines after it. -/
theorem Ready.places_of_element (h : Ready s f below (x :: rest) depth)
    (haligned : x.line.indent = f.childIndent.getD x.line.indent)
    (hstate : x.line.declaresState = false)
    (ihBelow : ∀ {s f below depth}, Ready s f below (rest.takeWhile x.isBelow) depth →
      Places s f below (rest.takeWhile x.isBelow) depth)
    (ihRest : ∀ {t g}, Ready t g below (rest.dropWhile x.isBelow) x.line.indent →
      Places t g below (rest.dropWhile x.isBelow) x.line.indent) :
    Places s f below (x :: rest) depth := by
  have hplace := placeAll_cons_of_ok
    (place_of_element (n := x.node) (h.first x rfl) haligned hstate) rest
  have hleft := ihBelow (h.left (f.expecting x.line.indent))
  have hmisplaced : misplaced? f.childIndent (x :: rest) = _ :=
    misplaced?_cons_of_eq haligned (by simp [hstate])
  have hsplit := List.takeWhile_append_dropWhile (p := x.isBelow) (l := rest)
  cases hbelow : misplaced? none (rest.takeWhile x.isBelow) with
  | some m =>
    rw [hbelow, Option.some_or] at hmisplaced
    refine .of_error hmisplaced ?_
    rw [hplace, ← hsplit]
    exact placeAll_append_of_error (hleft.misplaced m hbelow) _
  | none =>
    rw [hbelow, Option.none_or] at hmisplaced
    obtain ⟨t, ht, hclosed⟩ := hleft.placed hbelow
    have hrest : s.placeAll (x :: rest) = t.placeAll (rest.dropWhile x.isBelow) := by
      rw [hplace, ← placeAll_append_of_ok ht, hsplit]
    refine .of_right haligned hmisplaced hrest (ihRest (h.right rfl rfl fun k hk => ?_))
    have hfirst : ∀ y ∈ (rest.takeWhile x.isBelow).head?, k ≤ y.line.indent := by
      intro y hy
      have hlt := List.mem_takeWhile_imp (List.mem_of_mem_head? hy)
      exact hk.trans (Nat.le_of_lt (by simpa [NodeLine.isBelow] using hlt))
    -- A line that is not deeper than the element closes it, with all that is open in it.
    rw [hclosed k hk hfirst, closeUntil_cons hk,
      Frame.node_grow _ (Line.children_of_node? (h.node x (List.mem_cons_self ..)))]

end Run

/-- **Lines are placed as `misplaced?` and `forest` say.** -/
theorem Ready.places (xs : List NodeLine) : ∀ {s f below depth}, Ready s f below xs depth →
    Places s f below xs depth := by
  induction xs using forest.induct with
  | case1 =>
    intro s f below depth h
    refine ⟨fun m hm => ?_, fun _ => ⟨s, rfl, fun k hk _ => ?_⟩⟩
    · rw [misplaced?] at hm
      cases hm
    · rw [Frame.grow_nil]
      exact closeUntil_congr hk h.closed
  | case2 x rest ihBelow ihRest =>
    intro s f below depth h
    by_cases haligned : x.line.indent = f.childIndent.getD x.line.indent
    · cases hstate : x.line.declaresState with
      | true => exact h.places_of_state haligned hstate ihRest
      | false => exact h.places_of_element haligned hstate ihBelow ihRest
    · exact h.places_of_ne haligned

/-- Lines are placed like those among them that give nodes. -/
theorem foldlM_placeLine (lines : List Line) :
    ∀ s : Frames, lines.foldlM placeLine s = s.placeAll (NodeLine.ofLines lines) := by
  induction lines with
  | nil =>
    intro s
    rfl
  | cons l lines ih =>
    intro s
    rw [List.foldlM_cons, placeLine]
    cases hn : l.node? with
    | none =>
      have hlines : NodeLine.ofLines (l :: lines) = NodeLine.ofLines lines := by
        simp [NodeLine.ofLines, hn]
      rw [hlines]
      exact ih s
    | some n =>
      have hlines : NodeLine.ofLines (l :: lines) = ⟨l, n⟩ :: NodeLine.ofLines lines := by
        simp [NodeLine.ofLines, hn]
      rw [hlines, placeAll, List.foldlM_cons]
      dsimp only
      cases s.place l n with
      | error m => rfl
      | ok t => exact ih t

section Container

variable (indent : Nat) {xs : List NodeLine} (hnode : ∀ x ∈ xs, x.line.node? = some x.node)
include hnode

/-- An empty container is ready for any lines. -/
theorem ready_container : Ready (container indent) (container indent).top [] xs 0 :=
  ⟨hnode, fun _ _ => rfl, rfl, .inl rfl, by simp [container]⟩

/-- **The first line of a block that cannot be placed is the one that `misplaced?` finds.** -/
theorem placeAll_of_misplaced? {m : Misplaced} (h : misplaced? none xs = some m) :
    (container indent).placeAll xs = .error m :=
  (ready_container indent hnode).places.misplaced m h

/-- **A block in which all lines can be placed closes to the trees of `forest`.** -/
theorem close_placeAll (h : misplaced? none xs = none) :
    ∃ t, (container indent).placeAll xs = .ok t ∧ t.close = forest xs := by
  obtain ⟨t, ht, hclosed⟩ := (ready_container indent hnode).places.placed h
  refine ⟨t, ht, ?_⟩
  rw [close, hclosed 0 (Nat.le_refl _) fun _ _ => Nat.zero_le _]
  rfl

end Container

end Frames

end Document

end PageLang
