import PageLang.Expr.Parser
import PageLang.Node
import PageLang.Text.Search

/-!
# Elements

The kind of a node decides how it is shown. Here is what the kinds are, what the properties of a
node say about the control it shows, and which nodes of a tree are shown at all: those below an
element that has no place for children are not.

`Element.ofKind` is `of` of `Kind`, `selectOptions` is `select_options` and `bindName?` is what
`binding` looks up. `showsChildren` says which of the functions that render one kind go on with
`render_children`.
-/

namespace PageLang

/-- The kinds of nodes with markup of their own; all others are generic boxes. -/
inductive Element where
  | box
  | text
  | button
  | input
  | textarea
  | select
  | checkbox
  | image
  | link
  | divider
  /-- Children that show only while a condition holds. -/
  | conditional
  /-- A declaration, which shows nothing. -/
  | state
  | generic
  deriving DecidableEq, Repr

namespace Element

/-- The element of a kind. -/
def ofKind : String → Element
  | "Box" => .box
  | "Text" => .text
  | "Button" => .button
  | "Input" => .input
  | "Textarea" => .textarea
  | "Select" => .select
  | "Checkbox" => .checkbox
  | "Image" => .image
  | "Link" => .link
  | "Divider" => .divider
  | "If" => .conditional
  | "State" => .state
  | _ => .generic

/-- The name of an element: its kind, where it has one of its own. -/
def name : Element → String
  | .box => "Box"
  | .text => "Text"
  | .button => "Button"
  | .input => "Input"
  | .textarea => "Textarea"
  | .select => "Select"
  | .checkbox => "Checkbox"
  | .image => "Image"
  | .link => "Link"
  | .divider => "Divider"
  | .conditional => "If"
  | .state => "State"
  | .generic => "Generic"

/-- Whether an element is a control that an entry can be bound to. -/
def isControl : Element → Bool
  | .input => true
  | .textarea => true
  | .select => true
  | .checkbox => true
  | _ => false

end Element

/-- The options of a choice: texts divided by bars or, where there is no bar, by commas. -/
def selectOptions (text : String) : List String :=
  let cs := text.toList
  let divider := if cs.contains '|' then '|' else ','
  ((Text.splitBy (· = divider) cs).map Text.trim).filterMap fun option =>
    if option.isEmpty then none else some (String.ofList option)

namespace Node

/-- The element that shows a node. -/
def element (n : Node) : Element := Element.ofKind n.kind

/-- A property of a node. -/
def property? (n : Node) (name : String) : Option String := n.properties.get? name

/-- The action of a button. -/
def action? (n : Node) : Option String :=
  match n.property? "action" with
  | none => none
  | some text => if Text.trimmed text = "" then none else some (Text.trimmed text)

/-- The text of a condition. -/
def conditionText (n : Node) : String := Text.trimmed ((n.property? "condition").getD "")

/-- The condition of a conditional node. -/
def condition (n : Node) : Except ParseError Expr := Expr.parse n.conditionText

/-- The name of the entry that a control is to be bound to. -/
def bindName? (n : Node) : Option String := (n.property? "bind").map Text.trimmed

/-- Whether the children of a node are shown, if only at times. -/
def showsChildren (n : Node) : Bool :=
  match n.element with
  | .box => true
  | .text => true
  | .button => true
  | .link => true
  | .generic => true
  | .conditional => n.condition.isOk
  | _ => false

mutual

/-- The nodes of a tree that are shown, if only at times, the upper before the lower. -/
def shown : Node → List Node
  | n@⟨_, _, _, children, _, _⟩ => n :: if n.showsChildren then shownAll children else []

/-- The nodes of a list of trees that are shown. -/
def shownAll : List Node → List Node
  | [] => []
  | n :: ns => n.shown ++ shownAll ns

end

end Node

end PageLang
