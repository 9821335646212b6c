import PageLang.Component.Expansion
import PageLang.Document.Parser
import PageLang.Node.Data
import PageLang.StateTable

/-!
# Compiled pages

A document becomes a page: its components are registered, every usage is expanded, and the state
is collected from the expanded tree. Only a document that does not parse has no page; everything
else that is wrong is reported with the page.

`Page` is `Ast`, `ofDocument` is `finish` of the `CompileContext` and `compile` is `compile`. The
registry and the diagnostics that the context holds are an argument and a part of the result.
-/

namespace PageLang

open Json (Draft Fault)
open Json.Draft (once required)

/-- An expanded tree, the initial state and all that was reported on the way. -/
structure Page where
  root : Node
  state : StateTable
  diagnostics : List Diagnostic := []
  deriving Repr, Inhabited

namespace Page

/-- The title of a page. -/
def title? (p : Page) : Option String := p.root.title?

/-- The page of a document, with the components of a registry at hand. -/
def ofDocument (r : Registry) (d : Document) : Page :=
  let (registry, registered) := r.extend d.components
  let (root, expander) := Expander.expandPage { registry } d.page
  let (state, redeclared) := StateTable.ofTree root
  ⟨root, state, d.diagnostics ++ registered ++ expander.diagnostics ++ redeclared⟩

/-- The page of a source text. -/
def compile (source : String) : Except ParseError Page := ofDocument ∅ <$> Document.parse source

/-- The components of source texts, registered without any check. -/
def library (sources : List String) : Except ParseError Registry :=
  sources.foldlM (fun r source => do
    let d ← Document.parse source
    .ok (d.components.foldl Registry.register r)) ∅

/-- The page of a source text that may use the components of others. -/
def compileWith (libraries : List String) (source : String) : Except ParseError Page := do
  let r ← library libraries
  ofDocument r <$> Document.parse source

/-- A page as data. -/
def toJson (p : Page) : Json :=
  .object [
    ("page", some p.root.toJson),
    ("state", some (p.state.toJson Literal.toJson)),
    Diagnostic.member p.diagnostics]

/-- The fields of a page that have been read. -/
structure Fields where
  root : Option Node := none
  state : Option StateTable := none
  diagnostics : Option (List Diagnostic) := none

/-- Reads one field of a page. -/
def readField (depth : Nat) (s : Fields) (name : String) (d : Draft) : Except Fault Fields :=
  match name with
  | "page" => do return { s with root := ← once s.root (Node.read depth d) }
  | "state" => do return { s with state := ← once s.state (Draft.map Literal.read depth d) }
  | "diagnostics" => do
    return { s with diagnostics := ← once s.diagnostics (Draft.list Diagnostic.read depth d) }
  | _ => do
    d.skip
    return s

/-- Reads a page. -/
def read : Json.Reader Page := fun depth d => do
  let s ← Draft.record ["page", "state", "diagnostics"] readField {} depth d
  return ⟨← required s.root, ← required s.state, s.diagnostics.getD []⟩

end Page

end PageLang
