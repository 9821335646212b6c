import PageLang.Component.Expansion

/-!
# What an expansion gives

The expander carries its stack and its reports along. What it adds to them can be said without
them: an `Expansion` has the nodes, the findings in their order, and the slots of the innermost
scope that were filled. It is put together from the expansions of the parts, and nothing is read
from it that an earlier part has left behind.
-/

namespace PageLang

/-- What an expansion gives: nodes, findings in order, and the slots of the innermost scope that
were filled. -/
structure Expansion where
  nodes : List Node := []
  diagnostics : List Diagnostic := []
  filled : List String := []

/-- One expansion after the other. -/
def Expansion.append (a b : Expansion) : Expansion :=
  ⟨a.nodes ++ b.nodes, a.diagnostics ++ b.diagnostics, a.filled ++ b.filled⟩

instance : Append Expansion := ⟨Expansion.append⟩

namespace Expansion

/-- Expansions put together by slot, in the order of the first use of each slot. -/
def collect (parts : List (String × Expansion)) : OrderedMap Expansion :=
  parts.foldl (fun groups part => groups.insert part.1 ((groups.get? part.1).getD {} ++ part.2)) ∅

/-- A usage of a component, with its children expanded by slot: the body is bound, entered and
expanded by `enter`. Groups for which the body had no marker are reported. -/
def ofUsage (enter : List Scope → List Node → Expansion) (scopes : List Scope) (c : Component)
    (usage : Node) (groups : OrderedMap Expansion) : Expansion :=
  let outer := groups.entries.map Prod.snd
  let binding : Binding := ⟨c.parameters, usage.properties⟩
  let scope : Scope :=
    { component := c.name, line := usage.line, groups := groups.mapValues Expansion.nodes }
  let body := enter (scope :: scopes) (binding.applyBody c.body)
  { nodes := body.nodes
    diagnostics :=
      outer.flatMap Expansion.diagnostics
        ++ binding.missing.map (fun p => (Finding.missingParameter p c.name).onLine usage.line)
        ++ body.diagnostics
        ++ (groups.keys.filter (· ∉ body.filled)).map
          (fun slot => (Finding.unknownSlot c.name slot).onLine usage.line)
    filled := outer.flatMap Expansion.filled }

/-- A slot marker; `default` is the expansion of its own children. -/
def ofMarker (scopes : List Scope) (marker : Node) (default : Unit → Expansion) : Expansion :=
  let name := marker.slotName
  match scopes with
  | [] => { diagnostics := [(Finding.straySlot name).onLine marker.line] }
  | scope :: _ =>
    match scope.groups.get? name with
    | some group => { nodes := group, filled := [name] }
    | none => default ()

/-- A plain node, with its children expanded. -/
def ofPlain (n : Node) (children : Expansion) : Expansion :=
  { children with nodes := [{ n with children := children.nodes }] }

/-- A usage of a component that is being expanded, with its children expanded. -/
def ofRecursive (scopes : List Scope) (n : Node) (children : Expansion) : Expansion :=
  let finding := (Finding.recursiveUsage n.kind (stackNames scopes)).onLine n.line
  { ofPlain n children with diagnostics := finding :: children.diagnostics }

mutual

/-- The expansion of a node, `prepare` having been applied to it; `enter` expands the bodies of
components under a scope more. -/
def ofNode (r : Registry) (enter : List Scope → List Node → Expansion) (scopes : List Scope)
    (prepare : Node → Node) : Node → Expansion
  | n@⟨_, _, _, children, _, _⟩ =>
    let m := prepare n
    if m.kind = Node.slotKind then ofMarker scopes m fun _ => ofNodes r enter scopes children
    else
      match r.get? m.kind with
      | none => ofPlain m (ofNodes r enter scopes children)
      | some c =>
        if isActive scopes c.name then ofRecursive scopes m (ofNodes r enter scopes children)
        else ofUsage enter scopes c m (collect (ofChildren r enter scopes children))

/-- The expansion of nodes one after the other. -/
def ofNodes (r : Registry) (enter : List Scope → List Node → Expansion) (scopes : List Scope) :
    List Node → Expansion
  | [] => {}
  | n :: ns => ofNode r enter scopes id n ++ ofNodes r enter scopes ns

/-- The expansions of the children of a usage, each with the slot it asks for. -/
def ofChildren (r : Registry) (enter : List Scope → List Node → Expansion) (scopes : List Scope) :
    List Node → List (String × Expansion)
  | [] => []
  | n :: ns =>
    (slotOf n, ofNode r enter scopes withoutSlot n) :: ofChildren r enter scopes ns

end

/-- The expansion of nodes when bodies may be entered a number of times inside one another. -/
def within (r : Registry) : Nat → List Scope → List Node → Expansion
  | 0, _, _ => {}
  | n + 1, scopes, nodes => ofNodes r (within r n) scopes nodes

/-- The expansion of a body. No component is entered inside itself, so that bodies lie inside one
another at most as often as there are components. -/
def ofBody (r : Registry) : List Scope → List Node → Expansion :=
  within r (r.definitions.length + 1)

end Expansion

end PageLang
