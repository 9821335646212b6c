import PageLang.Expr.Data
import PageLang.Expr.Parser
import PageLang.Markup.Element
import PageLang.Node.Data
import PageLang.StateTable

/-!
# The actions and conditions of a page

Every action on a page is parsed ahead, and so is every condition. What does not parse or names an
entry that nobody declares is reported, with no effect on anything else.

`ActionTable.ofNodes` holds what `render_button` inserts, `Program.names` are the names that the
visitor `StateReferences` notes, `undeclared` is `check_references` and `checkBinding` is the
report of `binding`. There all of this happens on the way while the tree is lowered; here the
shown nodes are listed first and gone through once more for it.
-/

namespace PageLang

/-- An action parsed ahead: a program, or why it is none. -/
inductive CompiledAction where
  | program (p : Program)
  | error (message : String)
  deriving Repr, Inhabited

/-- The action of a text. -/
def CompiledAction.ofSource (source : String) : CompiledAction :=
  match Program.parse source with
  | .ok p => .program p
  | .error e => .error e.message

/-- An action as data. -/
def CompiledAction.toJson : CompiledAction → Json
  | .program p => .obj [("program", p.toJson)]
  | .error message => .obj [("error", .str message)]

/-- Actions by their texts. -/
abbrev ActionTable := OrderedMap CompiledAction

/-- A table of actions as data. -/
def ActionTable.toJson (t : ActionTable) : Json := OrderedMap.toJson CompiledAction.toJson t

/-- The action of a shown button. -/
def Node.buttonAction? (n : Node) : Option String :=
  match n.element with
  | .button => n.action?
  | _ => none

/-- The actions of shown nodes. -/
def ActionTable.ofNodes (shown : List Node) : ActionTable :=
  .ofList ((shown.filterMap Node.buttonAction?).map fun source => (source, .ofSource source))

/-! ## Names in use -/

/-- The name that an expression is. -/
def Expr.name? : Expr → Option String
  | .variable name => some name
  | _ => none

/-- The entries that an expression reads, each once. -/
def Expr.names (e : Expr) : List String := (e.subterms.filterMap Expr.name?).eraseDups

/-- The entry that a statement writes by its form. -/
def Statement.target? : Statement → Option String
  | .assign target _ => some target
  | .compound target _ _ => some target
  | .increment target => some target
  | .decrement target => some target
  | .call _ _ => none

/-- The entries that an action writes or reads, each once: first those that statements write by
their form, then those in expressions. -/
def Program.names (p : Program) : List String :=
  (p.statements.filterMap Statement.target? ++ p.subterms.filterMap Expr.name?).eraseDups

/-! ## Findings -/

/-- The names among those in use that nobody declares. -/
def StateTable.undeclared (t : StateTable) (source : String) (names : List String) : List Finding :=
  (names.filter fun name => !t.contains name).map (.undeclaredState source)

/-- What is found in an action. -/
def StateTable.checkAction (t : StateTable) (source : String) : List Finding :=
  match Program.parse source with
  | .ok p => t.undeclared source p.names
  | .error e => [.invalidAction source e]

/-- What is found in a condition. -/
def StateTable.checkCondition (t : StateTable) (n : Node) : List Finding :=
  match n.condition with
  | .ok e => t.undeclared n.conditionText e.names
  | .error e => [.invalidCondition n.conditionText e]

/-- What is found in the binding of a control. -/
def StateTable.checkBinding (t : StateTable) (n : Node) : List Finding :=
  match n.bindName? with
  | none => []
  | some name => if t.contains name then [] else [.undeclaredBinding name]

/-- What is found in a node itself. -/
def StateTable.check (t : StateTable) (n : Node) : List Finding :=
  match n.element with
  | .button =>
    match n.action? with
    | none => []
    | some source => t.checkAction source
  | .conditional => t.checkCondition n
  | element => if element.isControl then t.checkBinding n else []

/-- What is reported of shown nodes. -/
def StateTable.diagnostics (t : StateTable) (shown : List Node) : List Diagnostic :=
  shown.flatMap fun n => (t.check n).map (·.onLine n.line)

end PageLang
