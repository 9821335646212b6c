import PageLang.Node

/-!
# The state of a page at its start

A state table gives every declared name its initial value, in the order of first declaration. When
a name is declared again, the later value counts and the redeclaration is reported.

`StateTable.Builder` with `visitState` mirrors the visitor `StateTableBuilder`, `visitNode` is
`walk_node` for it and `ofTree` is `build_state_table`. The visitor that is changed in place is
here a value that every visit returns anew.
-/

namespace PageLang

/-- Initial values by name. -/
abbrev StateTable := OrderedMap Literal

namespace StateTable

/-- A table under construction, and what was reported on the way. -/
structure Builder where
  table : StateTable := ∅
  diagnostics : List Diagnostic := []

namespace Builder

/-- An entry is met: its value is stored, and a value that it replaces is reported. -/
def visitState (b : Builder) (entry : StateEntry) (line : Nat) : Builder :=
  let table := b.table.insert entry.name entry.value
  match b.table.get? entry.name with
  | none => { b with table }
  | some previous =>
    let finding := Finding.redeclaredState entry.name entry.value.display previous.display
    { table, diagnostics := b.diagnostics ++ [finding.onLine line] }

mutual

/-- A node is met: first the entry that it declares, then its children. -/
def visitNode (b : Builder) : Node → Builder
  | ⟨_, _, _, children, none, _⟩ => visitNodes b children
  | ⟨_, _, _, children, some entry, line⟩ => visitNodes (b.visitState entry line) children

/-- Nodes are met one after the other. -/
def visitNodes (b : Builder) : List Node → Builder
  | [] => b
  | n :: ns => visitNodes (visitNode b n) ns

end

end Builder

/-- The table of a tree, and what is reported of it. -/
def ofTree (root : Node) : StateTable × List Diagnostic :=
  let b := Builder.visitNode {} root
  (b.table, b.diagnostics)

end StateTable

end PageLang
