import PageLang.Json.Reader
import PageLang.Node

/-!
# Trees as data

The JSON form of nodes, components, documents and diagnostics. Members that would hold nothing are
left out, and reading them back puts the nothing in again.
-/

namespace PageLang

open Json (Draft Fault)
open Json.Draft (once required)

/-! ## Writing -/

/-- A value as data. -/
def Literal.toJson : Literal → Json
  | .number x => .float x
  | .text s => .str s

/-- A state entry as data. -/
def StateEntry.toJson (e : StateEntry) : Json :=
  .obj [("name", .str e.name), ("value", e.value.toJson)]

/-- A map of texts as data. -/
def OrderedMap.toJson {α : Type} (f : α → Json) (m : OrderedMap α) : Json :=
  .obj (m.entries.map fun e => (e.1, f e.2))

mutual

/-- A node as data. -/
def Node.toJson : Node → Json
  | ⟨kind, properties, content, children, state, line⟩ =>
    .object [
      ("kind", some (.str kind)),
      ("properties", Json.unlessEmpty properties.entries (properties.toJson .str)),
      ("content", if content = "" then none else some (.str content)),
      ("children", Json.unlessEmpty children (.arr (Node.listToJson children))),
      ("state", state.map StateEntry.toJson),
      ("line", some (.int line))]

/-- Nodes as data. -/
def Node.listToJson : List Node → List Json
  | [] => []
  | n :: ns => n.toJson :: Node.listToJson ns

end

/-- A diagnostic as data. -/
def Diagnostic.toJson (d : Diagnostic) : Json :=
  .obj [("kind", .str d.kind.name), ("line", .int d.line), ("message", .str d.message)]

/-- A component as data. -/
def Component.toJson (c : Component) : Json :=
  .obj [
    ("name", .str c.name),
    ("parameters", .arr (c.parameters.map .str)),
    ("body", .arr (Node.listToJson c.body)),
    ("line", .int c.line)]

/-- Diagnostics as a member that is left out when there are none. -/
def Diagnostic.member (ds : List Diagnostic) : String × Option Json :=
  ("diagnostics", Json.unlessEmpty ds (.arr (ds.map Diagnostic.toJson)))

/-- A document as data. -/
def Document.toJson (d : Document) : Json :=
  .object [
    ("page", some d.page.toJson),
    ("components", some (.arr (d.components.map Component.toJson))),
    Diagnostic.member d.diagnostics]

/-! ## Reading -/

/-- Reads a value. -/
def Literal.read : Json.Reader Literal := fun depth d => do
  match ← d.toJson depth with
  | .int n => .ok (.number (Float.ofInt n))
  | .float x => .ok (.number x)
  | .str s => .ok (.text s)
  | _ => .error .mismatch

/-- The fields of a state entry that have been read. -/
structure StateEntry.Fields where
  name : Option String := none
  value : Option Literal := none

/-- Reads one field of a state entry. -/
def StateEntry.readField (depth : Nat) (s : StateEntry.Fields) (name : String) (d : Draft) :
    Except Fault StateEntry.Fields :=
  match name with
  | "name" => do return { s with name := ← once s.name (Draft.string depth d) }
  | "value" => do return { s with value := ← once s.value (Literal.read depth d) }
  | _ => do
    d.skip
    return s

/-- Reads a state entry. -/
def StateEntry.read : Json.Reader StateEntry := fun depth d => do
  let s ← Draft.record ["name", "value"] StateEntry.readField {} depth d
  return ⟨← required s.name, ← required s.value⟩

/-- Reads a state entry or `null`. -/
def StateEntry.readOption : Json.Reader (Option StateEntry)
  | _, .null => .ok none
  | depth, d => some <$> StateEntry.read depth d

/-- The fields of a node that have been read. -/
structure Node.Fields where
  kind : Option String := none
  properties : Option (OrderedMap String) := none
  content : Option String := none
  children : Option (List Node) := none
  state : Option (Option StateEntry) := none
  line : Option Nat := none

/-- The fields of a node in their order. -/
def Node.fieldNames : List String := ["kind", "properties", "content", "children", "state", "line"]

/-- The node with the fields that have been read. -/
def Node.Fields.node (s : Node.Fields) : Except Fault Node := do
  return {
    kind := ← required s.kind
    properties := s.properties.getD ∅
    content := s.content.getD ""
    children := s.children.getD []
    state := s.state.getD none
    line := ← required s.line }

/-- Reads a field of a node other than its children. -/
def Node.readPlainField (depth : Nat) (s : Node.Fields) (name : String) (d : Draft) :
    Except Fault Node.Fields :=
  match name with
  | "kind" => do return { s with kind := ← once s.kind (Draft.string depth d) }
  | "properties" => do
    return { s with properties := ← once s.properties (Draft.map Draft.string depth d) }
  | "content" => do return { s with content := ← once s.content (Draft.string depth d) }
  | "state" => do return { s with state := ← once s.state (StateEntry.readOption depth d) }
  | "line" => do return { s with line := ← once s.line (Draft.natural depth d) }
  | _ => do
    d.skip
    return s

mutual

/-- Reads a node. -/
def Node.read (depth : Nat) : Draft → Except Fault Node
  | .obj members cut => do
    let s ← Node.readMembers (← Json.deeper depth) {} members
    Json.checkCut cut
    s.node
  | .arr items cut => do
    let s ← Node.readItems (← Json.deeper depth) {} Node.fieldNames items
    Json.checkCut cut
    s.node
  | d => .error d.refusal

/-- Reads the children of a node. -/
def Node.readChildren (depth : Nat) : Draft → Except Fault (List Node)
  | .arr items cut => do
    let ns ← Node.readList (← Json.deeper depth) items
    Json.checkCut cut
    .ok ns
  | d => .error d.refusal

/-- Reads nodes. -/
def Node.readList (depth : Nat) : List Draft → Except Fault (List Node)
  | [] => .ok []
  | d :: ds => do
    let n ← Node.read depth d
    let ns ← Node.readList depth ds
    .ok (n :: ns)

/-- Reads the fields of a node from the members of an object. -/
def Node.readMembers (depth : Nat) (s : Node.Fields) :
    List (Except Fault String × Draft) → Except Fault Node.Fields
  | [] => .ok s
  | (key, d) :: members => do
    let name ← key
    if name = "children" then
      let ns ← once s.children (Node.readChildren depth d)
      Node.readMembers depth { s with children := ns } members
    else
      Node.readMembers depth (← Node.readPlainField depth s name d) members

/-- Reads the fields of a node from the items of an array. -/
def Node.readItems (depth : Nat) (s : Node.Fields) :
    List String → List Draft → Except Fault Node.Fields
  | name :: names, d :: items => do
    if name = "children" then
      let ns ← once s.children (Node.readChildren depth d)
      Node.readItems depth { s with children := ns } names items
    else
      Node.readItems depth (← Node.readPlainField depth s name d) names items
  | [], _ :: _ => .error .malformed
  | _, [] => .ok s

end

/-- The fields of a diagnostic that have been read. -/
structure Diagnostic.Fields where
  kind : Option DiagnosticKind := none
  line : Option Nat := none
  message : Option String := none

/-- Reads one field of a diagnostic. -/
def Diagnostic.readField (depth : Nat) (s : Diagnostic.Fields) (name : String) (d : Draft) :
    Except Fault Diagnostic.Fields :=
  match name with
  | "kind" => do
    return { s with kind := ← once s.kind (Draft.alternative DiagnosticKind.ofName? depth d) }
  | "line" => do return { s with line := ← once s.line (Draft.natural depth d) }
  | "message" => do return { s with message := ← once s.message (Draft.string depth d) }
  | _ => do
    d.skip
    return s

/-- Reads a diagnostic. -/
def Diagnostic.read : Json.Reader Diagnostic := fun depth d => do
  let s ← Draft.record ["kind", "line", "message"] Diagnostic.readField {} depth d
  return ⟨← required s.kind, ← required s.line, ← required s.message⟩

/-- The fields of a component that have been read. -/
structure Component.Fields where
  name : Option String := none
  parameters : Option (List String) := none
  body : Option (List Node) := none
  line : Option Nat := none

/-- Reads one field of a component. -/
def Component.readField (depth : Nat) (s : Component.Fields) (name : String) (d : Draft) :
    Except Fault Component.Fields :=
  match name with
  | "name" => do return { s with name := ← once s.name (Draft.string depth d) }
  | "parameters" => do
    return { s with parameters := ← once s.parameters (Draft.list Draft.string depth d) }
  | "body" => do return { s with body := ← once s.body (Draft.list Node.read depth d) }
  | "line" => do return { s with line := ← once s.line (Draft.natural depth d) }
  | _ => do
    d.skip
    return s

/-- Reads a component. -/
def Component.read : Json.Reader Component := fun depth d => do
  let s ← Draft.record ["name", "parameters", "body", "line"] Component.readField {} depth d
  return ⟨← required s.name, ← required s.parameters, ← required s.body, ← required s.line⟩

/-- The fields of a document that have been read. -/
structure Document.Fields where
  page : Option Node := none
  components : Option (List Component) := none
  diagnostics : Option (List Diagnostic) := none

/-- Reads one field of a document. -/
def Document.readField (depth : Nat) (s : Document.Fields) (name : String) (d : Draft) :
    Except Fault Document.Fields :=
  match name with
  | "page" => do return { s with page := ← once s.page (Node.read depth d) }
  | "components" => do
    return { s with components := ← once s.components (Draft.list Component.read depth d) }
  | "diagnostics" => do
    return { s with diagnostics := ← once s.diagnostics (Draft.list Diagnostic.read depth d) }
  | _ => do
    d.skip
    return s

/-- Reads a document. -/
def Document.read : Json.Reader Document := fun depth d => do
  let s ← Draft.record ["page", "components", "diagnostics"] Document.readField {} depth d
  return ⟨← required s.page, ← required s.components, s.diagnostics.getD []⟩

end PageLang
