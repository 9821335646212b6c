import PageLang.Proofs.Action.Outcome
import PageLang.Template.Lowering

/-!
# Which entries a template needs

A segment needs the entry whose value it shows, and a conditional one those that its condition
names. The builder adds no need of its own to what the steps have, wherever blocks begin and end.
A tree that was found to be in order is built by steps that need declared entries only:

> `Lowering.needsOnly_template`: all that a template needs, at any depth, is declared.
-/

namespace PageLang

namespace Segment

mutual

/-- A segment and all within it, the outer before the inner. -/
def preorder : Segment → List Segment
  | s@(.conditional _ body) => s :: preorderAll body
  | s => [s]

/-- All segments of a template. -/
def preorderAll : List Segment → List Segment
  | [] => []
  | s :: ss => s.preorder ++ preorderAll ss

end

/-- The entries that a segment needs by itself. An address needs none: what it names without being
declared is ordinary text. -/
def needs : Segment → List String
  | .static _ => []
  | .text name => [name]
  | .url _ => []
  | .conditional condition _ => condition.names
  | .checked name => [name]
  | .selected name _ => [name]

/-- All that a segment needs, at any depth, is of one kind. -/
def NeedsOnly (kind : String → Prop) (s : Segment) : Prop :=
  ∀ x ∈ s.preorder, ∀ name ∈ x.needs, kind name

variable {kind : String → Prop}

/-- The segments within some are those within any of them. -/
theorem mem_preorderAll {x : Segment} {ss : List Segment} :
    x ∈ preorderAll ss ↔ ∃ s ∈ ss, x ∈ s.preorder := by
  induction ss with
  | nil => simp [preorderAll]
  | cons s ss ih =>
    rw [preorderAll, List.mem_append, ih]
    simp

/-- A conditional needs what its condition and its body need. -/
theorem needsOnly_conditional {condition : Expr} {body : List Segment}
    (hcondition : ∀ name ∈ condition.names, kind name) (hbody : ∀ s ∈ body, s.NeedsOnly kind) :
    (conditional condition body).NeedsOnly kind := by
  intro x hx
  rw [preorder] at hx
  rcases List.mem_cons.mp hx with rfl | hx
  · exact hcondition
  · obtain ⟨s, hs, hx⟩ := mem_preorderAll.mp hx
    exact hbody s hs x hx

/-- Any other segment needs only what it needs by itself. -/
theorem needsOnly_of_leaf {s : Segment} (hleaf : s.preorder = [s])
    (h : ∀ name ∈ s.needs, kind name) : s.NeedsOnly kind := by
  intro x hx
  rw [hleaf] at hx
  rw [List.mem_singleton.mp hx]
  exact h

end Segment

variable {kind : String → Prop}

/-! ## Building -/

/-- All that a step brings is of one kind. -/
def BuildStep.NeedsOnly (kind : String → Prop) : BuildStep → Prop
  | .static _ => True
  | .segment s => s.NeedsOnly kind
  | .beginIf condition => ∀ name ∈ condition.names, kind name
  | .endIf => True

namespace TemplateBuilder

/-- All that has been built so far needs entries of one kind. -/
structure NeedsOnly (kind : String → Prop) (b : TemplateBuilder) : Prop where
  base : ∀ s ∈ b.base, s.NeedsOnly kind
  condition : ∀ block ∈ b.blocks, ∀ name ∈ block.condition.names, kind name
  body : ∀ block ∈ b.blocks, ∀ s ∈ block.body, s.NeedsOnly kind

/-- A segment that is joined to others needs nothing more. -/
theorem needsOnly_append {segments : List Segment} {segment : Segment}
    (hsegments : ∀ s ∈ segments, s.NeedsOnly kind) (h : segment.NeedsOnly kind) :
    ∀ s ∈ append segments segment, s.NeedsOnly kind := by
  have hstatic (html : String) : (Segment.static html).NeedsOnly kind :=
    Segment.needsOnly_of_leaf rfl fun _ hname => absurd hname List.not_mem_nil
  unfold append
  split
  · split
    · exact hsegments
    · -- Plain markup is joined to the last segment or stands by itself.
      unfold joinStatic
      split
      · exact List.forall_mem_cons.mpr ⟨hstatic _, (List.forall_mem_cons.mp hsegments).2⟩
      · exact List.forall_mem_cons.mpr ⟨hstatic _, hsegments⟩
  · exact List.forall_mem_cons.mpr ⟨h, hsegments⟩

/-- A segment is pushed into the innermost block without needs of another kind. -/
theorem NeedsOnly.push {b : TemplateBuilder} (hb : b.NeedsOnly kind) {segment : Segment}
    (h : segment.NeedsOnly kind) : (b.push segment).NeedsOnly kind := by
  obtain ⟨blocks, base⟩ := b
  cases blocks with
  | nil => exact ⟨needsOnly_append hb.base h, hb.condition, hb.body⟩
  | cons block blocks =>
    obtain ⟨hcondition, hconditions⟩ := List.forall_mem_cons.mp hb.condition
    obtain ⟨hbody, hbodies⟩ := List.forall_mem_cons.mp hb.body
    exact ⟨hb.base, List.forall_mem_cons.mpr ⟨hcondition, hconditions⟩,
      List.forall_mem_cons.mpr ⟨needsOnly_append hbody h, hbodies⟩⟩

/-- An open block that is ended needs what its condition and its body need. -/
theorem NeedsOnly.endIf {b : TemplateBuilder} (hb : b.NeedsOnly kind) : b.endIf.NeedsOnly kind := by
  obtain ⟨blocks, base⟩ := b
  cases blocks with
  | nil => exact hb
  | cons block blocks =>
    obtain ⟨hcondition, hconditions⟩ := List.forall_mem_cons.mp hb.condition
    obtain ⟨hbody, hbodies⟩ := List.forall_mem_cons.mp hb.body
    have hrest : NeedsOnly kind ⟨blocks, base⟩ := ⟨hb.base, hconditions, hbodies⟩
    exact hrest.push
      (Segment.needsOnly_conditional hcondition fun s hs => hbody s (List.mem_reverse.mp hs))

/-- No step brings needs of another kind. -/
theorem NeedsOnly.step {b : TemplateBuilder} (hb : b.NeedsOnly kind) {x : BuildStep}
    (hx : x.NeedsOnly kind) : (b.step x).NeedsOnly kind := by
  cases x with
  | static html =>
    exact hb.push (Segment.needsOnly_of_leaf rfl fun _ hname => absurd hname List.not_mem_nil)
  | segment s => exact hb.push hx
  | beginIf condition =>
    exact ⟨hb.base, List.forall_mem_cons.mpr ⟨hx, hb.condition⟩,
      List.forall_mem_cons.mpr ⟨fun _ hs => absurd hs List.not_mem_nil, hb.body⟩⟩
  | endIf => exact hb.endIf

/-- Closing open blocks brings no needs of another kind. -/
theorem NeedsOnly.close {inner base : List Segment} {blocks : List OpenBlock}
    (hb : NeedsOnly kind ⟨blocks, base⟩) (hinner : ∀ s ∈ inner, s.NeedsOnly kind) :
    ∀ s ∈ TemplateBuilder.close inner blocks base, s.NeedsOnly kind := by
  induction blocks generalizing inner with
  | nil =>
    intro s hs
    rw [TemplateBuilder.close, List.mem_reverse, List.mem_append] at hs
    exact hs.elim (hinner s) (hb.base s)
  | cons block blocks ih =>
    obtain ⟨hcondition, hconditions⟩ := List.forall_mem_cons.mp hb.condition
    obtain ⟨hbody, hbodies⟩ := List.forall_mem_cons.mp hb.body
    rw [TemplateBuilder.close]
    -- The block that ends is all that the next one gets.
    refine ih ⟨hb.base, hconditions, hbodies⟩ fun s hs => ?_
    rw [List.mem_singleton.mp hs]
    refine Segment.needsOnly_conditional hcondition fun s hs => ?_
    rw [List.mem_reverse, List.mem_append] at hs
    exact hs.elim (hinner s) (hbody s)

end TemplateBuilder

/-- All that a list of steps brings is of one kind. -/
def StepsNeed (kind : String → Prop) (steps : List BuildStep) : Prop :=
  ∀ x ∈ steps, x.NeedsOnly kind

/-- **A template needs what the steps need that build it.** -/
theorem StepsNeed.ofSteps {steps : List BuildStep} (h : StepsNeed kind steps) :
    ∀ x ∈ Segment.preorderAll (Template.ofSteps steps).segments, ∀ name ∈ x.needs, kind name := by
  have hrun {b : TemplateBuilder} (hb : b.NeedsOnly kind) :
      (steps.foldl TemplateBuilder.step b).NeedsOnly kind := by
    induction steps generalizing b with
    | nil => exact hb
    | cons x xs ih =>
      obtain ⟨hx, hxs⟩ := List.forall_mem_cons.mp h
      exact ih hxs (hb.step hx)
  have hempty : TemplateBuilder.NeedsOnly kind {} := ⟨nofun, nofun, nofun⟩
  intro x hx
  obtain ⟨s, hs, hx⟩ := Segment.mem_preorderAll.mp hx
  exact (hrun hempty).close (fun _ hinner => absurd hinner List.not_mem_nil) s hs x hx

/-! ## Steps of elements -/

@[simp]
theorem stepsNeed_nil : StepsNeed kind [] := fun _ hx => absurd hx List.not_mem_nil

/-- Steps need what the first and the others need. -/
@[simp]
theorem stepsNeed_cons {x : BuildStep} {xs : List BuildStep} :
    StepsNeed kind (x :: xs) ↔ x.NeedsOnly kind ∧ StepsNeed kind xs :=
  List.forall_mem_cons

/-- Steps behind each other need what both parts need. -/
@[simp]
theorem stepsNeed_append {xs ys : List BuildStep} :
    StepsNeed kind (xs ++ ys) ↔ StepsNeed kind xs ∧ StepsNeed kind ys :=
  List.forall_mem_append

/-- Plain markup needs nothing. -/
@[simp]
theorem needsOnly_static (html : String) : (BuildStep.static html).NeedsOnly kind := trivial

namespace Lowering

variable {l : Lowering}

/-- An entry is declared. -/
def Declares (l : Lowering) (name : String) : Prop := l.state.contains name = true

/-- The steps need declared entries only. -/
abbrev Needs (l : Lowering) (steps : List BuildStep) : Prop := StepsNeed l.Declares steps

@[simp]
theorem needsOnly_lineStart (depth : Nat) : (l.lineStart depth).NeedsOnly kind := trivial

@[simp]
theorem needsOnly_lineEnd : l.lineEnd.NeedsOnly kind := trivial

/-- A hole for one entry needs that entry. -/
theorem needsOnly_hole {s : Segment} {name : String} (hs : s.preorder = [s])
    (hneeds : s.needs = [name]) (h : l.Declares name) :
    (BuildStep.segment s).NeedsOnly l.Declares := by
  refine Segment.needsOnly_of_leaf hs ?_
  rw [hneeds]
  exact List.forall_mem_singleton.mpr h

/-- A control is bound only to what is declared. -/
theorem declares_of_bound? {n : Node} {name : String} (h : l.bound? n = some name) :
    l.Declares name :=
  (Option.filter_eq_some_iff.mp h).2

theorem needs_line (depth : Nat) (html : String) : l.Needs (l.line depth html) := by
  simp [line]

/-- A marker is a hole only if it is declared. -/
theorem needs_interpolated (text : String) : l.Needs (l.interpolated text) := by
  intro x hx
  obtain ⟨p, -, rfl⟩ := List.mem_map.mp hx
  cases p with
  | char c => trivial
  | marker name =>
    rw [piece]
    split
    · next hdeclared => exact needsOnly_hole rfl rfl hdeclared
    · trivial

/-- A text in an attribute needs what the text needs. -/
theorem needs_textAttr (name value : String) : l.Needs (l.textAttr name value) := by
  simp [textAttr, needs_interpolated]

theorem needs_textAttr? (name : String) (value : Option String) :
    l.Needs (l.textAttr? name value) := by
  cases value with
  | none => exact stepsNeed_nil
  | some value => exact needs_textAttr name value

/-- An address needs no entry. -/
theorem needs_urlAttr (name value : String) : l.Needs (l.urlAttr name value) := by
  have hurl : (BuildStep.segment (.url value)).NeedsOnly l.Declares :=
    Segment.needsOnly_of_leaf rfl fun _ hname => absurd hname List.not_mem_nil
  unfold urlAttr
  split
  · simp [hurl]
  · simp

/-- The marks of a bound control are plain markup. -/
theorem needs_boundAttrs (bound : Option String) : l.Needs (boundAttrs bound) := by
  cases bound <;> simp [boundAttrs]

theorem needs_buttonAttrs (n : Node) : l.Needs (buttonAttrs n) := by
  unfold buttonAttrs
  cases n.action? <;> simp

theorem needs_linkAttrs (n : Node) : l.Needs (l.linkAttrs n) := by
  unfold linkAttrs
  cases n.property? "target" <;> simp [needs_urlAttr]

/-- A container needs what its attributes, its text and its children need. -/
theorem needs_container {attrs children : List BuildStep} (hattrs : l.Needs attrs)
    (hchildren : l.Needs children) (depth : Nat) (n : Node) (tag class_ : String) :
    l.Needs (l.container depth n tag class_ attrs children) := by
  unfold container
  by_cases hempty : n.children.isEmpty = true
  · simp [hempty, hattrs, needs_interpolated]
  · simp [hempty, hattrs, needs_interpolated, hchildren]

/-- An input line needs the entry that it is bound to. -/
theorem needs_input (depth : Nat) (n : Node) : l.Needs (l.input depth n) := by
  unfold input inputValue
  cases hbound : l.bound? n with
  | none => simp [needs_textAttr?]
  | some name =>
    have hhole : (BuildStep.segment (.text name)).NeedsOnly l.Declares :=
      needsOnly_hole rfl rfl (declares_of_bound? hbound)
    simp [needs_boundAttrs, needs_textAttr?, hhole]

/-- An input area needs the entry that it is bound to, or what its text needs. -/
theorem needs_textarea (depth : Nat) (n : Node) : l.Needs (l.textarea depth n) := by
  unfold textarea
  cases hbound : l.bound? n with
  | none => simp [needs_boundAttrs, needs_textAttr?, needs_interpolated]
  | some name =>
    have hhole : (BuildStep.segment (.text name)).NeedsOnly l.Declares :=
      needsOnly_hole rfl rfl (declares_of_bound? hbound)
    simp [needs_boundAttrs, needs_textAttr?, hhole]

/-- An option needs the entry that its selection is bound to. -/
theorem needs_option {n : Node} (depth : Nat) (value : String) :
    l.Needs (l.option depth (l.bound? n) value) := by
  unfold option
  cases hbound : l.bound? n with
  | none => simp
  | some name =>
    have hhole : (BuildStep.segment (.selected name value)).NeedsOnly l.Declares :=
      needsOnly_hole rfl rfl (declares_of_bound? hbound)
    simp [hhole]

theorem needs_select (depth : Nat) (n : Node) : l.Needs (l.select depth n) := by
  have hoptions (values : List String) :
      l.Needs (values.flatMap (l.option (depth + 1) (l.bound? n))) := by
    intro x hx
    obtain ⟨value, -, hx⟩ := List.mem_flatMap.mp hx
    exact needs_option _ value x hx
  simp [select, needs_boundAttrs, hoptions, needs_line]

/-- A checkbox needs the entry that it is bound to. -/
theorem needs_checkbox (depth : Nat) (n : Node) : l.Needs (l.checkbox depth n) := by
  unfold checkbox
  cases hbound : l.bound? n with
  | none => simp [needs_interpolated]
  | some name =>
    have hhole : (BuildStep.segment (.checked name)).NeedsOnly l.Declares :=
      needsOnly_hole rfl rfl (declares_of_bound? hbound)
    simp [needs_interpolated, needs_boundAttrs, hhole]

theorem needs_image (depth : Nat) (n : Node) : l.Needs (l.image depth n) := by
  unfold image
  split
  · exact needs_line depth _
  · simp [needs_urlAttr, needs_textAttr]

/-- A condition in which nothing was found needs declared entries only. -/
theorem needs_conditional {n : Node} (hcheck : l.state.checkCondition n = [])
    {children : List BuildStep} (hchildren : n.condition.isOk = true → l.Needs children)
    (depth : Nat) : l.Needs (l.conditional depth n children) := by
  unfold conditional
  unfold StateTable.checkCondition at hcheck
  split
  · next condition hcondition =>
    rw [hcondition] at hcheck hchildren
    have hbegin : (BuildStep.beginIf condition).NeedsOnly l.Declares :=
      StateTable.contains_of_undeclared_eq_nil hcheck
    have hend : BuildStep.endIf.NeedsOnly l.Declares := trivial
    simp [hbegin, hend, hchildren rfl]
  · exact needs_line depth _

mutual

/-- The steps of a node in which nothing was found need declared entries only; one case for every
element. -/
theorem needs_node (depth : Nat) (n : Node) (h : ∀ m ∈ n.shown, l.state.check m = []) :
    l.Needs (l.node depth n) := by
  obtain ⟨kind, properties, content, children, state, line⟩ := n
  rw [Node.shown] at h
  obtain ⟨hself, hbelow⟩ := List.forall_mem_cons.mp h
  -- Nothing is known of children that are not shown, but these are not lowered either.
  have hchildren
      (hshows : Node.showsChildren ⟨kind, properties, content, children, state, line⟩ = true)
      (depth : Nat) : l.Needs (l.nodes depth children) := by
    rw [if_pos hshows] at hbelow
    exact needs_nodes depth children hbelow
  unfold Node.showsChildren at hchildren
  unfold StateTable.check at hself
  rw [node]
  cases helement : Node.element ⟨kind, properties, content, children, state, line⟩ with
  | box =>
    rw [helement] at hchildren
    exact needs_container stepsNeed_nil (hchildren rfl _) depth _ _ _
  | text =>
    rw [helement] at hchildren
    exact needs_container stepsNeed_nil (hchildren rfl _) depth _ _ _
  | button =>
    rw [helement] at hchildren
    exact needs_container (needs_buttonAttrs _) (hchildren rfl _) depth _ _ _
  | input => exact needs_input depth _
  | textarea => exact needs_textarea depth _
  | select => exact needs_select depth _
  | checkbox => exact needs_checkbox depth _
  | image => exact needs_image depth _
  | link =>
    rw [helement] at hchildren
    exact needs_container (needs_linkAttrs _) (hchildren rfl _) depth _ _ _
  | divider => exact needs_line depth _
  | conditional =>
    rw [helement] at hchildren hself
    exact needs_conditional hself (fun hok => hchildren hok depth) depth
  | state => exact stepsNeed_nil
  | generic =>
    rw [helement] at hchildren
    exact needs_container (by simp [genericAttrs]) (hchildren rfl _) depth _ _ _

/-- The same for several nodes. -/
theorem needs_nodes (depth : Nat) (ns : List Node)
    (h : ∀ m ∈ Node.shownAll ns, l.state.check m = []) : l.Needs (l.nodes depth ns) := by
  match ns with
  | [] =>
    rw [nodes]
    exact stepsNeed_nil
  | n :: ns =>
    rw [Node.shownAll] at h
    obtain ⟨hn, hns⟩ := List.forall_mem_append.mp h
    rw [nodes]
    exact stepsNeed_append.mpr ⟨needs_node depth n hn, needs_nodes depth ns hns⟩

end

/-- All that the template of a tree needs is declared, if nothing was found in what is shown. -/
theorem needsOnly_template {ns : List Node} (h : ∀ m ∈ Node.shownAll ns, l.state.check m = []) :
    ∀ x ∈ Segment.preorderAll (l.template ns).segments,
      ∀ name ∈ x.needs, l.state.contains name = true :=
  (needs_nodes 0 ns h).ofSteps

end Lowering

end PageLang
