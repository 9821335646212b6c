import PageLang.Artifact
import PageLang.Proofs.Markup.Text
import PageLang.Proofs.Template.Frame

/-!
# Rendering a tree without a template

The direct renderer walks a tree with a state in hand and writes the markup at once: a text is
filled and escaped, an address is filled, neutralised and escaped, a bound control shows the value
of its entry, and a condition is evaluated where it stands. Making a template first and rendering
it afterwards gives the same markup:

> `render_template_eq_direct`: for every state with the declared entries, the template of a page
> renders to what the direct renderer writes.

The declared entries are what the two stages have to agree on: the template has a hole for a
declared marker only, while filling looks every marker up in the state.
-/

namespace PageLang

open Markup (Layout attr escape fill neutralize)

namespace Direct

/-- The entry that a control is bound to. -/
def bound? (s : State) (n : Node) : Option String := n.bindName?.filter s.contains

/-- The current value of an entry as it is shown. -/
def current (s : State) (name : String) : String := ((s.get? name).map Value.display).getD ""

/-- The text of a node. -/
def content (s : State) (n : Node) : String := escape (fill s n.content)

/-- An attribute that shows a property, if the node has it. -/
def textAttr? (s : State) (name : String) : Option String → String
  | none => ""
  | some value => attr name (fill s value)

/-- An attribute that is an address. -/
def urlAttr (s : State) (name value : String) : String := attr name (neutralize (fill s value))

/-- The value of an input line: that of its entry, or the property. -/
def inputValue (s : State) (n : Node) : String :=
  match bound? s n with
  | some name => Frame.boundAttrs (some name) ++ attr "value" (current s name)
  | none => textAttr? s "value" (n.property? "value")

/-- The text of an input area: the value of its entry, or its content. -/
def areaText (s : State) (n : Node) : String :=
  match bound? s n with
  | some name => escape (current s name)
  | none => content s n

/-- The mark of the option that the bound entry shows as. -/
def optionMark (s : State) (bound : Option String) (value : String) : String :=
  match bound with
  | some name => if current s name = value then " selected" else ""
  | none => ""

/-- The attributes of a box to tick, which is ticked if the bound entry counts as true. -/
def checkboxAttrs (s : State) (bound : Option String) : String :=
  match bound with
  | some name => Frame.boundAttrs (some name) ++ if s.isTruthy name then " checked" else ""
  | none => ""

/-- An image. -/
def image (layout : Layout) (s : State) (depth : Nat) (n : Node) : String :=
  match n.property? "src" with
  | none => Frame.line layout depth Frame.noImage
  | some src =>
    Frame.image layout depth n (urlAttr s "src" src)
      (attr "alt" (fill s ((n.property? "alt").getD n.content)))

/-- Children that show when the condition is evaluated to a value that counts as true. -/
def conditional (layout : Layout) (s : State) (depth : Nat) (n : Node) (children : String) :
    String :=
  match n.condition with
  | .ok condition =>
    match condition.evaluate s with
    | .ok v => if v.isTruthy then children else ""
    | .error _ => ""
  | .error _ => Frame.line layout depth Frame.noCondition

mutual

/-- The markup of a node at a depth. -/
def node (layout : Layout) (s : State) (depth : Nat) : Node → String
  | n@⟨_, _, _, children, _, _⟩ =>
    match n.element with
    | .box =>
      Frame.container layout depth n "div" "qcl-box" "" (content s n)
        (nodes layout s (depth + 1) children)
    | .text =>
      Frame.container layout depth n "p" "qcl-text" "" (content s n)
        (nodes layout s (depth + 1) children)
    | .button =>
      Frame.container layout depth n "button" "qcl-button" (Frame.buttonAttrs n) (content s n)
        (nodes layout s (depth + 1) children)
    | .input =>
      Frame.input layout depth n (inputValue s n)
        (textAttr? s "placeholder" (n.property? "placeholder"))
    | .textarea =>
      Frame.textarea layout depth n (Frame.boundAttrs (bound? s n))
        (textAttr? s "placeholder" (n.property? "placeholder")) (areaText s n)
    | .select =>
      Frame.select layout depth n (Frame.boundAttrs (bound? s n))
        (String.join ((selectOptions ((n.property? "options").getD "")).map fun value =>
          Frame.option layout (depth + 1) value (optionMark s (bound? s n) value)))
    | .checkbox => Frame.checkbox layout depth n (checkboxAttrs s (bound? s n)) (content s n)
    | .image => image layout s depth n
    | .link =>
      Frame.container layout depth n "a" "qcl-link"
        (Frame.linkAttrs n (urlAttr s "href" ((n.property? "href").getD "#"))) (content s n)
        (nodes layout s (depth + 1) children)
    | .divider => Frame.line layout depth Frame.divider
    | .conditional => conditional layout s depth n (nodes layout s depth children)
    | .state => ""
    | .generic =>
      Frame.container layout depth n "div" "qcl-node" (attr "data-qcl-kind" n.kind) (content s n)
        (nodes layout s (depth + 1) children)

/-- The markup of nodes at a depth. -/
def nodes (layout : Layout) (s : State) (depth : Nat) : List Node → String
  | [] => ""
  | n :: ns => node layout s depth n ++ nodes layout s depth ns

end

end Direct

/-! ## The parts agree -/

/-- A state has values for exactly the declared entries. -/
def SameEntries (s : State) (t : StateTable) : Prop := ∀ name, name ∈ s.keys ↔ name ∈ t.keys

/-- A state and a table with the same entries know the same names. -/
theorem SameEntries.contains_eq {s : State} {t : StateTable} (h : SameEntries s t) :
    t.contains = s.contains := by
  funext name
  rw [Bool.eq_iff_iff, OrderedMap.contains_iff, OrderedMap.contains_iff]
  exact (h name).symm

/-- A bound control has an entry whose value it shows. -/
theorem Direct.exists_value_of_bound {s : State} {n : Node} {name : String}
    (hname : Direct.bound? s n = some name) : ∃ v, s.get? name = some v :=
  Option.isSome_iff_exists.mp (Option.filter_eq_some_iff.mp hname).2

/-- The text of a bound entry is its current value, escaped. -/
theorem render_text_of_bound {s : State} {n : Node} {name : String}
    (hname : Direct.bound? s n = some name) :
    (Segment.text name).render s = escape (Direct.current s name) := by
  obtain ⟨v, hv⟩ := Direct.exists_value_of_bound hname
  rw [Segment.render, Direct.current, hv]
  rfl

namespace Lowering

/-- An option is marked if it is the current one. -/
theorem writes_optionMark {s : State} (n : Node) (value : String) :
    Writes s (optionMark (Direct.bound? s n) value)
      (Direct.optionMark s (Direct.bound? s n) value) := by
  cases hname : Direct.bound? s n with
  | none => exact writes_nil
  | some name =>
    obtain ⟨v, hv⟩ := Direct.exists_value_of_bound hname
    refine (writes_segment _).of_eq ?_
    rw [Segment.render, State.shows, Direct.optionMark, Direct.current, hv]
    simp only [Option.any_some, beq_iff_eq, Option.map_some, Option.getD_some]

/-- A checkbox is checked if its entry is true. -/
theorem writes_checkboxAttrs {s : State} (bound : Option String) :
    Writes s (checkboxAttrs bound) (Direct.checkboxAttrs s bound) := by
  cases bound with
  | none => exact writes_nil
  | some name =>
    refine (writes_boundAttrs _).append ((writes_segment _).of_eq ?_)
    rw [Segment.render]

section Parts

variable {l : Lowering} {s : State} (h : SameEntries s l.state)
include h

/-- What a node is bound to is read off the state as it is off the table. -/
theorem bound?_eq (n : Node) : l.bound? n = Direct.bound? s n := by
  unfold bound? Direct.bound?
  rw [h.contains_eq]

/-- What the table does not know is not in the state. -/
theorem get?_eq_none {name : String} (hname : ¬ l.state.contains name = true) :
    s.get? name = none := by
  rw [h.contains_eq] at hname
  exact Option.not_isSome_iff_eq_none.mp hname

/-- A piece of text is filled from the state and escaped. -/
theorem writes_piece (p : Markup.Piece) : Writes s [l.piece p] (escape (p.fill s)) := by
  cases p with
  | char c => exact writes_static _
  | marker name =>
    rw [piece]
    split
    · refine (writes_segment _).of_eq ?_
      rw [Segment.render, Markup.Piece.fill]
      cases s.get? name <;> rfl
    · -- The state has no value for a marker that is not declared, so both keep the marker.
      next hname =>
      rw [Markup.Piece.fill, get?_eq_none h hname]
      exact writes_static _

/-- A text writes the text filled and escaped. -/
theorem writes_interpolated (text : String) :
    Writes s (l.interpolated text) (escape (fill s text)) := by
  unfold interpolated fill
  rw [Markup.escape_join]
  induction Markup.pieces text.toList with
  | nil => exact writes_nil
  | cons p ps ih =>
    rw [List.map_cons, List.map_cons, List.map_cons, String.join_cons]
    exact (writes_piece h p).append ih

/-- The content of a node is written piece by piece. -/
theorem writes_content (n : Node) : Writes s (l.interpolated n.content) (Direct.content s n) :=
  writes_interpolated h n.content

/-- An attribute that is there is written with its value filled in. -/
theorem writes_textAttr? (name : String) (value : Option String) :
    Writes s (l.textAttr? name value) (Direct.textAttr? s name value) := by
  cases value with
  | none => exact writes_nil
  | some value => exact writes_textAttr name (writes_interpolated h value)

/-- An address is checked after it has been filled, whether it is a hole or not. -/
theorem writes_urlAttr (name value : String) :
    Writes s (l.urlAttr name value) (Direct.urlAttr s name value) := by
  unfold urlAttr Direct.urlAttr
  split
  · refine (((writes_static _).cons_segment _).cons_static _).of_eq ?_
    simp only [Segment.render, attr, String.append_assoc]
  · next hnone =>
    -- No marker names a declared entry, so filling changes nothing.
    have hfill : fill s value = value := by
      refine Markup.fill_eq_self fun marker hmarker => get?_eq_none h fun hdeclared => hnone ?_
      exact List.any_eq_true.mpr ⟨marker, hmarker, hdeclared⟩
    rw [hfill]
    exact writes_static _

/-- An input shows its current value. -/
theorem writes_inputValue (n : Node) : Writes s (l.inputValue n) (Direct.inputValue s n) := by
  unfold inputValue Direct.inputValue
  rw [bound?_eq h]
  cases hname : Direct.bound? s n with
  | none => exact writes_textAttr? h _ _
  | some name =>
    refine Writes.of_eq (.append (writes_boundAttrs _)
      (.cons_static _ (.cons_segment _ (writes_static _)))) ?_
    rw [render_text_of_bound hname]
    simp only [attr, String.append_assoc]
    rfl

/-- A text area shows its current text. -/
theorem writes_areaText (n : Node) : Writes s (l.areaText n) (Direct.areaText s n) := by
  unfold areaText Direct.areaText
  rw [bound?_eq h]
  cases hname : Direct.bound? s n with
  | none => exact writes_content h n
  | some name =>
    dsimp only
    rw [← render_text_of_bound hname]
    exact writes_segment _

/-- An image is written with its filled attributes. -/
theorem writes_image_direct (depth : Nat) (n : Node) :
    Writes s (l.image depth n) (Direct.image l.layout s depth n) := by
  unfold Direct.image
  cases hsrc : n.property? "src" with
  | none =>
    unfold image
    rw [hsrc]
    exact writes_line depth _
  | some src =>
    exact writes_image hsrc (writes_urlAttr h _ _)
      (writes_textAttr _ (writes_interpolated h _)) depth

omit h in
/-- A condition writes its children if it holds, and nothing else. -/
theorem writes_conditional {children : List BuildStep} {c : String}
    (hchildren : Writes s children c) (depth : Nat) (n : Node) :
    Writes s (l.conditional depth n children) (Direct.conditional l.layout s depth n c) := by
  unfold conditional Direct.conditional
  cases n.condition with
  | error _ => exact writes_line depth _
  | ok condition =>
    refine (hchildren.conditional condition).of_eq ?_
    dsimp only
    rw [Expr.holds]
    cases condition.evaluate s <;> rfl

end Parts

end Lowering

/-! ## Trees -/

mutual

/-- The steps of a node write its markup; one case for every element. -/
theorem Lowering.writes_node {l : Lowering} {s : State} (h : SameEntries s l.state) (depth : Nat)
    (n : Node) : Writes s (l.node depth n) (Direct.node l.layout s depth n) := by
  have htext := writes_content h n
  obtain ⟨kind, properties, content, children, state, line⟩ := n
  have hbelow := Lowering.writes_nodes h (depth + 1) children
  rw [Lowering.node, Direct.node]
  cases Node.element ⟨kind, properties, content, children, state, line⟩ with
  | box => exact writes_container writes_nil htext hbelow depth _ _
  | text => exact writes_container writes_nil htext hbelow depth _ _
  | button => exact writes_container (writes_buttonAttrs _) htext hbelow depth _ _
  | input => exact writes_input (writes_inputValue h _) (writes_textAttr? h _ _) depth
  | textarea =>
    rw [← bound?_eq h]
    exact writes_textarea (writes_textAttr? h _ _) (writes_areaText h _) depth
  | select =>
    rw [← bound?_eq h]
    refine writes_select (fun value => ?_) depth
    rw [bound?_eq h]
    exact writes_optionMark _ value
  | checkbox =>
    rw [← bound?_eq h]
    exact writes_checkbox (writes_checkboxAttrs _) htext depth
  | image => exact writes_image_direct h depth _
  | link => exact writes_container (writes_linkAttrs (writes_urlAttr h _ _)) htext hbelow depth _ _
  | divider => exact writes_line depth _
  | conditional => exact writes_conditional (Lowering.writes_nodes h depth children) depth _
  | state => exact writes_nil
  | generic => exact writes_container (writes_static _) htext hbelow depth _ _

/-- Nodes write their direct markup one after the other. -/
theorem Lowering.writes_nodes {l : Lowering} {s : State} (h : SameEntries s l.state) (depth : Nat)
    (ns : List Node) : Writes s (l.nodes depth ns) (Direct.nodes l.layout s depth ns) := by
  match ns with
  | [] =>
    rw [Lowering.nodes, Direct.nodes]
    exact writes_nil
  | n :: ns =>
    rw [Lowering.nodes, Direct.nodes]
    exact (Lowering.writes_node h depth n).append (Lowering.writes_nodes h depth ns)

end

end PageLang
