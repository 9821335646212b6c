import PageLang.Proofs.Template.Building
import PageLang.Proofs.Template.Walk

/-!
# Markup in another layout

A layout puts blanks before and after elements and nothing else. So the steps that build a tree in
another layout are `Respaced`: one by one they are the same but for blanks in plain markup. That
is enough for what they build. Plain markup can be left out before building or afterwards
(`Segment.holes_ofSteps`), so the holes of the templates are the same, and what steps show is put
together from their pieces, so it is the same but for blanks. What is noted in the walk over the
tree does not look at the layout at all.

> `Artifact.generate_layout`: two layouts give the same actions, diagnostics and holes, and the
> same markup but for blanks, and every node is left at the depth at which it was entered.
-/

namespace PageLang

open Text (isBlank)
open Markup (Layout)

/-! ## Texts without blanks -/

namespace Markup

/-- A text without its blanks. -/
def withoutBlanks (text : String) : String := String.ofList (text.toList.filter fun c => !isBlank c)

/-- Blanks are taken out part by part. -/
theorem withoutBlanks_append (t u : String) :
    withoutBlanks (t ++ u) = withoutBlanks t ++ withoutBlanks u := by
  rw [withoutBlanks, String.toList_append, List.filter_append, String.ofList_append]
  rfl

/-- Blanks are taken out of every text that is joined. -/
theorem withoutBlanks_join (ts : List String) :
    withoutBlanks (String.join ts) = String.join (ts.map withoutBlanks) := by
  induction ts with
  | nil => rfl
  | cons t ts ih => rw [String.join_cons, withoutBlanks_append, ih, List.map_cons, String.join_cons]

theorem withoutBlanks_withoutBlanks (text : String) :
    withoutBlanks (withoutBlanks text) = withoutBlanks text := by
  rw [withoutBlanks, withoutBlanks, String.toList_ofList, List.filter_filter]
  simp only [Bool.and_self]

/-- Of a blank text nothing is left. -/
theorem withoutBlanks_eq_empty {text : String} (h : text.toList.all isBlank = true) :
    withoutBlanks text = "" := by
  have hnone : text.toList.filter (fun c => !isBlank c) = [] := by
    rw [List.filter_eq_nil_iff]
    intro c hc
    rw [List.all_eq_true.mp h c hc]
    exact Bool.false_ne_true
  rw [withoutBlanks, hnone]

variable {l : Layout}

/-- The indentation of a blank layout leaves nothing. -/
theorem Layout.IsBlank.lineStart (h : l.IsBlank) (depth : Nat) :
    withoutBlanks (l.lineStart depth) = "" := by
  unfold Layout.lineStart
  split
  · rw [withoutBlanks_join, List.map_replicate, withoutBlanks_eq_empty (List.all_eq_true.mpr h)]
    induction depth with
    | zero => rfl
    | succ depth ih => rw [List.replicate_succ, String.join_cons, ih, String.empty_append]
  · rfl

/-- The end of a line leaves nothing in any layout. -/
theorem Layout.withoutBlanks_lineEnd : withoutBlanks l.lineEnd = "" := by
  unfold Layout.lineEnd
  split
  · exact withoutBlanks_eq_empty (by decide)
  · rfl

end Markup

open Markup (withoutBlanks withoutBlanks_join withoutBlanks_withoutBlanks)

/-! ## Steps without blanks -/

namespace BuildStep

/-- A step without the blanks in plain markup. -/
def unspaced : BuildStep → BuildStep
  | .static html => .static (withoutBlanks html)
  | x => x

/-- Steps that are the same but for blanks in plain markup. -/
def Respaced (xs ys : List BuildStep) : Prop := xs.map unspaced = ys.map unspaced

/-- Respaced steps can be put behind each other. -/
theorem Respaced.append {xs ys xs' ys' : List BuildStep} (h : Respaced xs ys)
    (h' : Respaced xs' ys') : Respaced (xs ++ xs') (ys ++ ys') := by
  rw [Respaced, List.map_append, List.map_append, h, h']

theorem respaced_rfl {xs : List BuildStep} : Respaced xs xs := rfl

/-- The same steps may follow on both sides. -/
theorem Respaced.append_same {xs ys : List BuildStep} (h : Respaced xs ys) (zs : List BuildStep) :
    Respaced (xs ++ zs) (ys ++ zs) :=
  h.append respaced_rfl

/-- The same step may come before on both sides. -/
theorem Respaced.cons {xs ys : List BuildStep} (x : BuildStep) (h : Respaced xs ys) :
    Respaced (x :: xs) (x :: ys) :=
  congrArg (List.cons x.unspaced) h

/-- Taking out blanks neither opens nor ends a block, so it leaves unmatched ends alone. -/
theorem outerEnds_unspaced (steps : List BuildStep) :
    outerEnds (steps.map unspaced) = outerEnds steps := by
  induction steps with
  | nil => rfl
  | cons x steps ih => cases x <;> simp [outerEnds, unspaced, ih]

/-- Taking out blanks leaves the blocks that are open. -/
theorem enclosing_unspaced (steps : List BuildStep) :
    enclosing (steps.map unspaced) = enclosing steps := by
  induction steps with
  | nil => rfl
  | cons x steps ih => cases x <;> simp [enclosing, unspaced, ih, outerEnds_unspaced]

/-- A step shows the same up to blanks once they are taken out of its markup. -/
theorem withoutBlanks_piece_unspaced (s : State) (x : BuildStep) :
    withoutBlanks (x.unspaced.piece s) = withoutBlanks (x.piece s) := by
  cases x with
  | static html => exact withoutBlanks_withoutBlanks html
  | _ => rfl

/-- Steps show the same up to blanks once these are taken out of their markup. -/
theorem withoutBlanks_shown (s : State) (steps : List BuildStep) :
    withoutBlanks (shown s (steps.map unspaced)) = withoutBlanks (shown s steps) := by
  rw [shown, shown, withoutBlanks_join, withoutBlanks_join, List.zipIdx_map, List.map_map,
    List.map_map, List.map_map]
  congr 1
  refine List.map_congr_left fun x _ => ?_
  simp only [Function.comp_apply, Prod.map, id, ← List.map_take, enclosing_unspaced]
  split
  · exact withoutBlanks_piece_unspaced s x.1
  · rfl

/-- Respaced steps show the same but for blanks. -/
theorem Respaced.shown_eq {xs ys : List BuildStep} (h : Respaced xs ys) (s : State) :
    withoutBlanks (shown s xs) = withoutBlanks (shown s ys) := by
  rw [← withoutBlanks_shown, h, withoutBlanks_shown]

end BuildStep

/-! ## Holes -/

namespace Segment

mutual

/-- What is left of a segment without plain markup. -/
def hole? : Segment → Option Segment
  | .static _ => none
  | .conditional condition body => some (.conditional condition (holes body))
  | x => some x

/-- The segments without the plain markup among them and within them: the holes that the state
fills, in their order, and the blocks that are around them. -/
def holes : List Segment → List Segment
  | [] => []
  | x :: ss => (hole? x).toList ++ holes ss

end

/-- The holes of segments are found segment by segment. -/
theorem holes_eq_filterMap (ss : List Segment) : holes ss = ss.filterMap hole? := by
  induction ss with
  | nil => rfl
  | cons x ss ih =>
    rw [holes, ih, List.filterMap_cons]
    cases hole? x <;> rfl

theorem holes_append (xs ys : List Segment) : holes (xs ++ ys) = holes xs ++ holes ys := by
  simp only [holes_eq_filterMap, List.filterMap_append]

/-- Holes are in the order of the segments. -/
theorem holes_reverse (ss : List Segment) : holes ss.reverse = (holes ss).reverse := by
  simp only [holes_eq_filterMap, List.filterMap_reverse]

end Segment

/-- What is left of a step without plain markup. -/
def BuildStep.hole? : BuildStep → Option BuildStep
  | .static _ => none
  | .segment x => x.hole?.map .segment
  | x => some x

namespace TemplateBuilder

/-- The builder without the plain markup it has. -/
def holes (b : TemplateBuilder) : TemplateBuilder where
  blocks := b.blocks.map fun block => { block with body := Segment.holes block.body }
  base := Segment.holes b.base

/-- Joining plain markup adds no hole; any other segment is one. -/
theorem holes_append_eq (ss : List Segment) (x : Segment) :
    Segment.holes (append ss x) = x.hole?.toList ++ Segment.holes ss := by
  unfold append
  split
  · split
    · rfl
    · unfold joinStatic
      split <;> rfl
  · rfl

/-- The holes of a builder grow by those of the segment that is pushed. -/
theorem holes_push (b : TemplateBuilder) (x : Segment) :
    (b.push x).holes = x.hole?.toList.foldl push b.holes := by
  obtain ⟨_ | ⟨block, blocks⟩, base⟩ := b
  all_goals
    unfold push holes
    simp only [List.map_cons, List.map_nil, holes_append_eq]
    cases x <;> rfl

/-- The holes of a builder grow by the hole of the step, if it is one. -/
theorem holes_step (b : TemplateBuilder) (x : BuildStep) :
    (b.step x).holes = x.hole?.toList.foldl step b.holes := by
  cases x with
  | static html => exact holes_push b (.static html)
  | segment x =>
    refine (holes_push b x).trans ?_
    rw [BuildStep.hole?]
    cases x.hole? <;> rfl
  | beginIf condition => rfl
  | endIf =>
    obtain ⟨_ | ⟨block, blocks⟩, base⟩ := b
    · rfl
    · have hblock : (Segment.conditional block.condition block.body.reverse).hole?
          = some (.conditional block.condition (Segment.holes block.body).reverse) := by
        rw [Segment.hole?, Segment.holes_reverse]
      refine (holes_push ⟨blocks, base⟩ _).trans ?_
      rw [hblock]
      rfl

/-- What a builder makes of steps, reduced to holes, is what it makes of the holes among them. -/
theorem holes_foldl (b : TemplateBuilder) (steps : List BuildStep) :
    (steps.foldl step b).holes = (steps.filterMap BuildStep.hole?).foldl step b.holes := by
  induction steps generalizing b with
  | nil => rfl
  | cons x steps ih =>
    rw [List.foldl_cons, ih, holes_step, List.filterMap_cons]
    cases x.hole? <;> rfl

/-- Open blocks are closed around their holes. -/
theorem holes_close (inner : List Segment) (blocks : List OpenBlock) (base : List Segment) :
    Segment.holes (close inner blocks base)
      = close (Segment.holes inner) (holes ⟨blocks, base⟩).blocks (Segment.holes base) := by
  induction blocks generalizing inner with
  | nil =>
    show Segment.holes (inner ++ base).reverse = (Segment.holes inner ++ Segment.holes base).reverse
    rw [Segment.holes_reverse, Segment.holes_append]
  | cons block blocks ih =>
    have hblock : Segment.holes [.conditional block.condition (inner ++ block.body).reverse]
        = [.conditional block.condition
            (Segment.holes inner ++ Segment.holes block.body).reverse] := by
      rw [Segment.holes, Segment.hole?, Segment.holes_reverse, Segment.holes_append]
      rfl
    rw [close, ih, hblock]
    rfl

end TemplateBuilder

/-- **Plain markup can be left out before building or afterwards.** -/
theorem Segment.holes_ofSteps (steps : List BuildStep) :
    holes (Template.ofSteps steps).segments
      = (Template.ofSteps (steps.filterMap BuildStep.hole?)).segments := by
  have hfoldl := TemplateBuilder.holes_foldl {} steps
  show holes (TemplateBuilder.close [] _ _) = TemplateBuilder.close [] _ _
  rw [TemplateBuilder.holes_close]
  show TemplateBuilder.close [] (steps.foldl TemplateBuilder.step {}).holes.blocks
    (steps.foldl TemplateBuilder.step {}).holes.base = _
  rw [hfoldl]
  rfl

/-- Respaced steps build the same holes. -/
theorem BuildStep.Respaced.holes_eq {xs ys : List BuildStep} (h : Respaced xs ys) :
    Segment.holes (Template.ofSteps xs).segments
      = Segment.holes (Template.ofSteps ys).segments := by
  have hunspaced (steps : List BuildStep) :
      (steps.map unspaced).filterMap hole? = steps.filterMap hole? := by
    rw [List.filterMap_map]
    exact List.filterMap_congr fun x _ => by cases x <;> rfl
  rw [Segment.holes_ofSteps, Segment.holes_ofSteps, ← hunspaced xs, h, hunspaced]

/-! ## Trees -/

namespace Lowering

open BuildStep (Respaced respaced_rfl)

variable {layout layout' : Layout} {t : StateTable} {xs ys : List BuildStep}

/-- Lines end in blanks in every layout. -/
theorem respaced_lineEnd : Respaced [lineEnd ⟨layout, t⟩] [lineEnd ⟨layout', t⟩] := by
  show [BuildStep.static (withoutBlanks layout.lineEnd)] = [.static (withoutBlanks layout'.lineEnd)]
  rw [Layout.withoutBlanks_lineEnd, Layout.withoutBlanks_lineEnd]

section Blank

variable (h : layout.IsBlank) (h' : layout'.IsBlank) (d d' : Nat)

include h h'

/-- Lines start with blanks in blank layouts, at any depth. -/
theorem respaced_lineStart (hrest : Respaced xs ys) :
    Respaced (lineStart ⟨layout, t⟩ d :: xs) (lineStart ⟨layout', t⟩ d' :: ys) := by
  show BuildStep.static (withoutBlanks (layout.lineStart d)) :: xs.map _
    = .static (withoutBlanks (layout'.lineStart d')) :: ys.map _
  rw [h.lineStart, h'.lineStart, hrest]

/-- A line of fixed markup is respaced at both ends. -/
theorem respaced_line (html : String) :
    Respaced (line ⟨layout, t⟩ d html) (line ⟨layout', t⟩ d' html) :=
  respaced_lineStart h h' d d' (respaced_lineEnd.cons _)

/-- A container is respaced where its children are, and around them. -/
theorem respaced_container {children children' : List BuildStep}
    (hchildren : Respaced children children') (n : Node) (tag class_ : String)
    (attrs : List BuildStep) : Respaced (container ⟨layout, t⟩ d n tag class_ attrs children)
      (container ⟨layout', t⟩ d' n tag class_ attrs children') := by
  have hbelow : Respaced
      (if n.children.isEmpty then [] else lineEnd ⟨layout, t⟩ :: children
        ++ [lineStart ⟨layout, t⟩ d])
      (if n.children.isEmpty then [] else lineEnd ⟨layout', t⟩ :: children'
          ++ [lineStart ⟨layout', t⟩ d']) := by
    split
    · exact respaced_rfl
    · exact (respaced_lineEnd.append hchildren).append (respaced_lineStart h h' d d' respaced_rfl)
  unfold container
  exact respaced_lineStart h h' d d' respaced_rfl
    |>.append_same _ |>.append_same _ |>.append_same _ |>.append hbelow |>.append
      (respaced_lineEnd.cons _)

theorem respaced_input (n : Node) : Respaced (input ⟨layout, t⟩ d n) (input ⟨layout', t⟩ d' n) := by
  unfold input
  exact respaced_lineStart h h' d d' respaced_rfl
    |>.append_same _ |>.append_same _ |>.append ((respaced_lineEnd.cons _).cons _)

theorem respaced_textarea (n : Node) :
    Respaced (textarea ⟨layout, t⟩ d n) (textarea ⟨layout', t⟩ d' n) := by
  unfold textarea
  exact respaced_lineStart h h' d d' respaced_rfl
    |>.append_same _ |>.append_same _ |>.append_same _ |>.append_same _ |>.append
      (respaced_lineEnd.cons _)

/-- Options are respaced one by one. -/
theorem respaced_options (bound : Option String) (values : List String) :
    Respaced (values.flatMap (option ⟨layout, t⟩ d bound))
      (values.flatMap (option ⟨layout', t⟩ d' bound)) := by
  induction values with
  | nil => exact respaced_rfl
  | cons value values ih =>
    refine Respaced.append ?_ ih
    unfold option
    exact respaced_lineStart h h' d d' respaced_rfl |>.append_same _ |>.append
      (respaced_lineEnd.cons _)

theorem respaced_select (n : Node) :
    Respaced (select ⟨layout, t⟩ d n) (select ⟨layout', t⟩ d' n) := by
  unfold select
  exact respaced_lineStart h h' d d' respaced_rfl
    |>.append_same _ |>.append ((respaced_lineEnd.cons _).cons _)
    |>.append (respaced_options h h' (d + 1) (d' + 1) _ _) |>.append (respaced_line h h' d d' _)

theorem respaced_checkbox (n : Node) :
    Respaced (checkbox ⟨layout, t⟩ d n) (checkbox ⟨layout', t⟩ d' n) := by
  unfold checkbox
  exact respaced_lineStart h h' d d' respaced_rfl
    |>.append_same _ |>.append_same _ |>.append_same _ |>.append (respaced_lineEnd.cons _)

theorem respaced_image (n : Node) : Respaced (image ⟨layout, t⟩ d n) (image ⟨layout', t⟩ d' n) := by
  unfold image
  cases n.property? "src" with
  | none => exact respaced_line h h' d d' _
  | some src =>
    exact respaced_lineStart h h' d d' respaced_rfl
      |>.append_same _ |>.append_same _ |>.append ((respaced_lineEnd.cons _).cons _)

/-- A conditional is respaced where its children are; one that does not parse leaves a line. -/
theorem respaced_conditional {children children' : List BuildStep}
    (hchildren : Respaced children children') (n : Node) :
    Respaced (conditional ⟨layout, t⟩ d n children) (conditional ⟨layout', t⟩ d' n children') := by
  unfold conditional
  cases n.condition with
  | ok condition => exact (hchildren.cons _).append_same _
  | error e => exact respaced_line h h' d d' _

end Blank

mutual

/-- Another layout and another depth respace the steps of a node; one case for every element. -/
theorem respaced_node (h : layout.IsBlank) (h' : layout'.IsBlank) (d d' : Nat) (n : Node) :
    Respaced (node ⟨layout, t⟩ d n) (node ⟨layout', t⟩ d' n) := by
  obtain ⟨kind, properties, content, children, state, line⟩ := n
  have hchildren (d d' : Nat) := respaced_nodes h h' d d' children
  rw [node, node]
  cases Node.element ⟨kind, properties, content, children, state, line⟩ with
  | box => exact respaced_container h h' d d' (hchildren _ _) _ _ _ _
  | text => exact respaced_container h h' d d' (hchildren _ _) _ _ _ _
  | button => exact respaced_container h h' d d' (hchildren _ _) _ _ _ _
  | input => exact respaced_input h h' d d' _
  | textarea => exact respaced_textarea h h' d d' _
  | select => exact respaced_select h h' d d' _
  | checkbox => exact respaced_checkbox h h' d d' _
  | image => exact respaced_image h h' d d' _
  | link => exact respaced_container h h' d d' (hchildren _ _) _ _ _ _
  | divider => exact respaced_line h h' d d' _
  | conditional => exact respaced_conditional h h' d d' (hchildren _ _) _
  | state => exact respaced_rfl
  | generic => exact respaced_container h h' d d' (hchildren _ _) _ _ _ _

/-- The same for several nodes. -/
theorem respaced_nodes (h : layout.IsBlank) (h' : layout'.IsBlank) (d d' : Nat) (ns : List Node) :
    Respaced (nodes ⟨layout, t⟩ d ns) (nodes ⟨layout', t⟩ d' ns) := by
  match ns with
  | [] => exact respaced_rfl
  | n :: ns =>
    rw [nodes, nodes]
    exact (respaced_node h h' d d' n).append (respaced_nodes h h' d d' ns)

end

end Lowering

namespace Artifact

/-- What is generated for a page is what one walk over its nodes gives. -/
theorem generate_eq_walk (o : GenerateOptions) (p : Page) :
    let w := Walk.nodes ⟨o.layout, p.state⟩ p.root.children {}
    (generate o p).template = w.builder.finish ∧ (generate o p).actions = w.actions
      ∧ (generate o p).diagnostics = p.diagnostics ++ w.diagnostics := by
  rw [Walk.nodes_eq]
  refine ⟨rfl, ?_, rfl⟩
  show ActionTable.ofNodes (Node.shownAll p.root.children) = _
  rw [ActionTable.ofNodes, OrderedMap.ofList, List.foldl_map]
  rfl

/-- **The layout of markup is nothing but blanks.** Take options and another layout, both of which
indent by blanks.

* Both give the same actions and report the same, and the same holes in the same order, blocks
  with their conditions and what is in them included.
* In every state both templates render to the same but for blanks.
* All of this comes from a walk over the nodes that carries its depth along, and a walk over any
  node leaves the depth as it was before. -/
theorem generate_layout (o : GenerateOptions) (layout : Layout) (p : Page) (h : o.layout.IsBlank)
    (h' : layout.IsBlank) :
    let a := generate o p
    let b := generate { o with layout } p
    (a.actions = b.actions ∧ a.diagnostics = b.diagnostics)
      ∧ Segment.holes a.template.segments = Segment.holes b.template.segments
      ∧ (∀ s, withoutBlanks (a.template.render s) = withoutBlanks (b.template.render s))
      ∧ (let w := Walk.nodes ⟨o.layout, p.state⟩ p.root.children {}
        a.template = w.builder.finish ∧ a.actions = w.actions
          ∧ a.diagnostics = p.diagnostics ++ w.diagnostics)
      ∧ ∀ (n : Node) (w : Walk), (w.node ⟨o.layout, p.state⟩ n).depth = w.depth := by
  have hrespaced := Lowering.respaced_nodes (t := p.state) h h' 0 0 p.root.children
  refine ⟨⟨rfl, rfl⟩, hrespaced.holes_eq, fun s => ?_, generate_eq_walk o p, fun n w => ?_⟩
  · show withoutBlanks ((Template.ofSteps _).render s)
        = withoutBlanks ((Template.ofSteps _).render s)
    rw [Template.render_ofSteps, Template.render_ofSteps]
    exact hrespaced.shown_eq s
  · rw [Walk.node_eq]
    rfl

/-- A page with elements in elements, a choice and a condition. -/
def menuPage : Page where
  root := { kind := "Page", line := 0, children := [
    { kind := "Box", line := 2, children := [
      { kind := "Select", properties := .ofList [("options", "tea|hot milk"), ("bind", "drink")],
        line := 3 },
      { kind := "If", properties := .ofList [("condition", "drink == 'tea'")], line := 4,
        children := [{ kind := "Text", content := "A pot of \x7bdrink\x7d", line := 5 }] }] }] }
  state := .ofList [("drink", .text "tea")]

/-- A page with a selection and a conditional, over several lines and on one. -/
theorem generate_layout_menuPage :
    let oneLine : Layout := ⟨false, "\t"⟩
    let s := State.initial menuPage.state
    let a := generate {} menuPage
    let b := generate { layout := oneLine } menuPage
    (({} : Layout).IsBlank ∧ oneLine.IsBlank) ∧ a.template.render s ≠ b.template.render s
      ∧ withoutBlanks (a.template.render s) = withoutBlanks (b.template.render s)
      ∧ Segment.holes a.template.segments = Segment.holes b.template.segments := by
  intro oneLine s a b
  have h : ({} : Layout).IsBlank := by decide
  have h' : oneLine.IsBlank := by decide
  obtain ⟨-, hholes, hmarkup, -⟩ := generate_layout {} oneLine menuPage h h'
  exact ⟨⟨h, h'⟩, by decide +kernel, hmarkup s, hholes⟩

end Artifact

end PageLang
