import PageLang.Action.Table
import PageLang.Markup.Element
import PageLang.Markup.Layout
import PageLang.Markup.Style
import PageLang.Template.Builder

/-!
# The template of a tree

Every element has its fixed markup. Where a text names a declared entry, where an address does,
and where a control is bound to one, the template has a hole.

`template` is `lower`, `node` is `render_node` with the function of every kind in it, and `nodes`
is `render_children`. `interpolated`, `textAttr`, `urlAttr` and `boundAttrs` are
`add_interpolated`, `add_interpolated_attr`, `add_url_attr` and `add_binding_attrs`, and `bound?`
is the answer of `binding`. There is no context that is changed on the way: a lowering gives the
list of steps for the builder, the depth is an argument, and the actions and diagnostics are
collected elsewhere.
-/

namespace PageLang

open Markup (Layout attr styleAttribute)

/-- What the markup of a node depends on besides the node: the layout and the declared entries. -/
structure Lowering where
  layout : Layout
  state : StateTable

namespace Lowering

/-- The start of a line. -/
def lineStart (l : Lowering) (depth : Nat) : BuildStep := .static (l.layout.lineStart depth)

/-- The end of a line. -/
def lineEnd (l : Lowering) : BuildStep := .static l.layout.lineEnd

/-- A line of fixed markup. -/
def line (l : Lowering) (depth : Nat) (html : String) : List BuildStep :=
  [l.lineStart depth, .static html, l.lineEnd]

/-- A part of a text: a marker of a declared entry is a hole. -/
def piece (l : Lowering) : Markup.Piece → BuildStep
  | .char c => .static (Markup.escape c.toString)
  | .marker name =>
    if l.state.contains name then .segment (.text name)
    else .static (Markup.escape (Markup.marker name))

/-- A text. -/
def interpolated (l : Lowering) (text : String) : List BuildStep :=
  (Markup.pieces text.toList).map l.piece

/-- An attribute whose value is a text with markers. -/
def textAttr (l : Lowering) (name value : String) : List BuildStep :=
  .static (" " ++ name ++ "=\"") :: l.interpolated value ++ [.static "\""]

/-- An attribute whose value is a text with markers, if there is a value. -/
def textAttr? (l : Lowering) (name : String) : Option String → List BuildStep
  | none => []
  | some value => l.textAttr name value

/-- An attribute whose value is an address. One with markers of declared entries is a hole, since
it must be checked when it is filled. -/
def urlAttr (l : Lowering) (name value : String) : List BuildStep :=
  if (Markup.markerNames value).any l.state.contains then
    [.static (" " ++ name ++ "=\""), .segment (.url value), .static "\""]
  else [.static (attr name (Markup.neutralize value))]

/-- The declared entry that a control is bound to. -/
def bound? (l : Lowering) (n : Node) : Option String := n.bindName?.filter l.state.contains

/-- The attributes by which a bound control is found. -/
def boundAttrs : Option String → List BuildStep
  | none => []
  | some name => [.static (attr "id" ("qcl-bind-" ++ name)), .static (attr "data-qcl-bind" name)]

/-- An element with its content and its children. -/
def container (l : Lowering) (depth : Nat) (n : Node) (tag class_ : String)
    (attrs children : List BuildStep) : List BuildStep :=
  [l.lineStart depth, .static ("<" ++ tag ++ " class=\"" ++ class_ ++ "\"")] ++ attrs
    ++ [.static (styleAttribute n), .static ">"]
    ++ l.interpolated n.content
    ++ (if n.children.isEmpty then [] else l.lineEnd :: children ++ [l.lineStart depth])
    ++ [.static ("</" ++ tag ++ ">"), l.lineEnd]

/-- The attributes of a button. -/
def buttonAttrs (n : Node) : List BuildStep :=
  .static (attr "type" "button") ::
    match n.action? with
    | none => []
    | some source => [.static (attr "data-qcl-action" source)]

/-- The attributes of a link. -/
def linkAttrs (l : Lowering) (n : Node) : List BuildStep :=
  l.urlAttr "href" ((n.property? "href").getD "#") ++
    match n.property? "target" with
    | none => []
    | some target => [.static (attr "target" target), .static (attr "rel" "noopener noreferrer")]

/-- The attribute of a generic box. -/
def genericAttrs (n : Node) : List BuildStep := [.static (attr "data-qcl-kind" n.kind)]

/-- The value of an input line. -/
def inputValue (l : Lowering) (n : Node) : List BuildStep :=
  match l.bound? n with
  | some name =>
    boundAttrs (some name) ++ [.static " value=\"", .segment (.text name), .static "\""]
  | none => l.textAttr? "value" (n.property? "value")

/-- An input line. -/
def input (l : Lowering) (depth : Nat) (n : Node) : List BuildStep :=
  [l.lineStart depth, .static "<input class=\"qcl-input\"",
      .static (attr "type" ((n.property? "type").getD "text"))]
    ++ l.inputValue n
    ++ l.textAttr? "placeholder" (n.property? "placeholder")
    ++ [.static (styleAttribute n), .static ">", l.lineEnd]

/-- An input area. -/
def textarea (l : Lowering) (depth : Nat) (n : Node) : List BuildStep :=
  [l.lineStart depth, .static "<textarea class=\"qcl-textarea\""]
    ++ boundAttrs (l.bound? n)
    ++ l.textAttr? "placeholder" (n.property? "placeholder")
    ++ [.static (styleAttribute n), .static ">"]
    ++ (match l.bound? n with
      | some name => [.segment (.text name)]
      | none => l.interpolated n.content)
    ++ [.static "</textarea>", l.lineEnd]

/-- One option of a choice. -/
def option (l : Lowering) (depth : Nat) (bound : Option String) (value : String) : List BuildStep :=
  [l.lineStart depth, .static "<option", .static (attr "value" value)]
    ++ (match bound with
      | some name => [.segment (.selected name value)]
      | none => [])
    ++ [.static (">" ++ Markup.escape value ++ "</option>"), l.lineEnd]

/-- A choice. -/
def select (l : Lowering) (depth : Nat) (n : Node) : List BuildStep :=
  [l.lineStart depth, .static "<select class=\"qcl-select\""]
    ++ boundAttrs (l.bound? n)
    ++ [.static (styleAttribute n), .static ">", l.lineEnd]
    ++ (selectOptions ((n.property? "options").getD "")).flatMap (l.option (depth + 1) (l.bound? n))
    ++ l.line depth "</select>"

/-- A box to tick. -/
def checkbox (l : Lowering) (depth : Nat) (n : Node) : List BuildStep :=
  [l.lineStart depth, .static "<label class=\"qcl-checkbox\"", .static (styleAttribute n),
      .static "><input type=\"checkbox\""]
    ++ (match l.bound? n with
      | some name => boundAttrs (some name) ++ [.segment (.checked name)]
      | none => [])
    ++ [.static "> "] ++ l.interpolated n.content ++ [.static "</label>", l.lineEnd]

/-- An image. -/
def image (l : Lowering) (depth : Nat) (n : Node) : List BuildStep :=
  match n.property? "src" with
  | none => l.line depth "<!-- image without src -->"
  | some src =>
    [l.lineStart depth, .static "<img class=\"qcl-image\""]
      ++ l.urlAttr "src" src
      ++ l.textAttr "alt" ((n.property? "alt").getD n.content)
      ++ [.static (styleAttribute n), .static ">", l.lineEnd]

/-- Children that show while a condition holds. -/
def conditional (l : Lowering) (depth : Nat) (n : Node) (children : List BuildStep) :
    List BuildStep :=
  match n.condition with
  | .ok condition => .beginIf condition :: children ++ [.endIf]
  | .error _ => l.line depth "<!-- invalid condition -->"

mutual

/-- The steps that build a node at a depth. -/
def node (l : Lowering) (depth : Nat) : Node → List BuildStep
  | n@⟨_, _, _, children, _, _⟩ =>
    match n.element with
    | .box => l.container depth n "div" "qcl-box" [] (nodes l (depth + 1) children)
    | .text => l.container depth n "p" "qcl-text" [] (nodes l (depth + 1) children)
    | .button =>
      l.container depth n "button" "qcl-button" (buttonAttrs n) (nodes l (depth + 1) children)
    | .input => l.input depth n
    | .textarea => l.textarea depth n
    | .select => l.select depth n
    | .checkbox => l.checkbox depth n
    | .image => l.image depth n
    | .link => l.container depth n "a" "qcl-link" (l.linkAttrs n) (nodes l (depth + 1) children)
    | .divider => l.line depth "<hr class=\"qcl-divider\">"
    | .conditional => l.conditional depth n (nodes l depth children)
    | .state => []
    | .generic =>
      l.container depth n "div" "qcl-node" (genericAttrs n) (nodes l (depth + 1) children)

/-- The steps that build nodes at a depth. -/
def nodes (l : Lowering) (depth : Nat) : List Node → List BuildStep
  | [] => []
  | n :: ns => node l depth n ++ nodes l depth ns

end

/-- The template of nodes. -/
def template (l : Lowering) (ns : List Node) : Template := .ofSteps (l.nodes 0 ns)

end Lowering

end PageLang
