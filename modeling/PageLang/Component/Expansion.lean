import PageLang.Component.Binding
import PageLang.Component.Registry

/-!
# Expansion of components

Every usage of a component is replaced by its body. First the children of the usage are grouped by
the slot they ask for and expanded where the usage stands; then the parameters are bound in the
body; then the body is expanded in turn, its slot markers being replaced by the groups, or by
their own children where there is no group for them.

The components whose bodies are being expanded form a stack of scopes. A usage of one of them
would go on forever, so it is reported and kept as a plain node. A scope is pushed when a body is
entered and popped when it is left, and its slots are marked while markers of the body are
replaced.

`Expander` mirrors the expander of that name: `expandNode` is `expand_node`, `expandNodes` is
`expand_children`, `usage` is `expand_usage`, `fillSlot` is `fill_slot`, and `report`, `push`,
`pop` and `mark` are what these do to the expander. Every step takes the expander and returns it
changed. Two things are arranged otherwise. The groups of a usage hold steps that are still to be
run, where `expand_usage` groups the children and expands each group afterwards; and bodies are
entered through an argument `enter` that may be used a bounded number of times inside itself,
where `expand_children` calls itself. The bound is never met.
-/

namespace PageLang

/-- A usage that is being expanded. -/
structure Scope where
  component : String
  /-- The line of the usage. -/
  line : Nat
  /-- The expanded children of the usage by slot. -/
  groups : OrderedMap (List Node)
  /-- The slots that have been filled so far. -/
  used : List String := []

namespace Expansion

/-- The property by which a child of a usage asks for a slot. -/
def slotProperty : String := "slot"

/-- The slot that a child of a usage asks for. -/
def slotOf (child : Node) : String :=
  let name := (child.properties.get? slotProperty).getD ""
  if name = "" then Node.defaultSlot else name

/-- The child without the property that asked for a slot. -/
def withoutSlot (child : Node) : Node :=
  { child with properties := child.properties.erase slotProperty }

/-- Whether a component is being expanded. -/
def isActive (scopes : List Scope) (component : String) : Bool :=
  scopes.any (·.component = component)

/-- The names on the stack from the outermost to the innermost. The innermost scope is the first. -/
def stackNames (scopes : List Scope) : List String := (scopes.map Scope.component).reverse

end Expansion

/-- A registry, the usages that are being expanded, innermost first, and what has been reported so
far. -/
structure Expander where
  registry : Registry
  scopes : List Scope := []
  diagnostics : List Diagnostic := []

namespace Expander

open Expansion (slotOf withoutSlot isActive stackNames)

/-- A part of an expansion: it gives nodes and leaves the expander changed. -/
abbrev Step := Expander → List Node × Expander

/-- The expander after one report more. -/
def report (e : Expander) (finding : Finding) (line : Nat) : Expander :=
  { e with diagnostics := e.diagnostics ++ [finding.onLine line] }

/-- The expander under one scope more. -/
def push (e : Expander) (scope : Scope) : Expander := { e with scopes := scope :: e.scopes }

/-- The innermost scope, and the expander without it. -/
def pop (e : Expander) : Option Scope × Expander :=
  match e.scopes with
  | [] => (none, e)
  | scope :: scopes => (some scope, { e with scopes })

/-- Slots with one more, unless it is among them. -/
def addSlot (used : List String) (slot : String) : List String :=
  if slot ∈ used then used else used ++ [slot]

/-- The expander after a slot of the innermost scope has been filled. -/
def mark (e : Expander) (slot : String) : Expander :=
  match e.scopes with
  | [] => e
  | scope :: scopes => { e with scopes := { scope with used := addSlot scope.used slot } :: scopes }

/-- Steps one after the other. -/
def inOrder : List Step → Step
  | [], e => ([], e)
  | step :: steps, e =>
    let (nodes, e) := step e
    let (rest, e) := inOrder steps e
    (nodes ++ rest, e)

/-- Steps put together by slot, in the order of the first use of each slot. -/
def group (parts : List (String × Step)) : OrderedMap (List Step) :=
  parts.foldl (fun groups part => groups.insert part.1 ((groups.get? part.1).getD [] ++ [part.2])) ∅

/-- The groups after the steps of further ones have been run. -/
def runGroups (done : OrderedMap (List Node)) :
    List (String × List Step) → Expander → OrderedMap (List Node) × Expander
  | [], e => (done, e)
  | (slot, steps) :: groups, e =>
    let (nodes, e) := inOrder steps e
    runGroups (done.insert slot nodes) groups e

/-- The expander after a body: the innermost scope is gone, and those of its groups are reported
that filled no slot. -/
def leave (e : Expander) : Expander :=
  match e.pop with
  | (none, e) => e
  | (some scope, e) =>
    (scope.groups.keys.filter (· ∉ scope.used)).foldl
      (fun e slot => e.report (.unknownSlot scope.component slot) scope.line) e

/-- A usage of a component, `children` being the steps of its children with the slots they ask
for. -/
def usage (enter : List Node → Step) (c : Component) (n : Node) (children : List (String × Step)) :
    Step :=
  fun e =>
    -- What fills slots belongs to where the usage stands, so it is expanded before the scope is
    -- entered.
    let (groups, e) := runGroups ∅ (group children).entries e
    let binding : Binding := ⟨c.parameters, n.properties⟩
    let e := binding.missing.foldl (fun e p => e.report (.missingParameter p c.name) n.line) e
    let scope : Scope := { component := c.name, line := n.line, groups }
    let (nodes, e) := enter (binding.applyBody c.body) (e.push scope)
    (nodes, e.leave)

/-- A slot marker; `children` is the step of its own children. -/
def fillSlot (marker : Node) (children : Step) : Step := fun e =>
  match e.scopes with
  | [] => ([], e.report (.straySlot marker.slotName) marker.line)
  | scope :: _ =>
    match scope.groups.get? marker.slotName with
    | some content => (content, e.mark marker.slotName)
    | none => children e

/-- A node that stays, its children being replaced by what their step gives. -/
def keep (n : Node) (children : Step) : Step := fun e =>
  let (nodes, e) := children e
  ([{ n with children := nodes }], e)

mutual

/-- The step of a node, `prepare` having been applied to it; `enter` expands the bodies of
components. -/
def expandNode (enter : List Node → Step) (prepare : Node → Node) : Node → Step
  | n@⟨_, _, _, children, _, _⟩ => fun e =>
    let m := prepare n
    if m.kind = Node.slotKind then fillSlot m (expandAll enter children) e
    else
      match e.registry.get? m.kind with
      | none => keep m (expandAll enter children) e
      | some c =>
        if isActive e.scopes c.name then
          keep m (expandAll enter children)
            (e.report (.recursiveUsage m.kind (stackNames e.scopes)) m.line)
        else usage enter c m (childSteps enter children) e

/-- The steps of nodes one after the other. -/
def expandAll (enter : List Node → Step) : List Node → Step
  | [] => fun e => ([], e)
  | n :: ns => fun e =>
    let (nodes, e) := expandNode enter id n e
    let (rest, e) := expandAll enter ns e
    (nodes ++ rest, e)

/-- The steps of the children of a usage, each with the slot it asks for. -/
def childSteps (enter : List Node → Step) : List Node → List (String × Step)
  | [] => []
  | n :: ns => (slotOf n, expandNode enter withoutSlot n) :: childSteps enter ns

end

/-- The step of nodes when bodies may be entered a number of times inside one another. -/
def within : Nat → List Node → Step
  | 0, _ => fun e => ([], e)
  | n + 1, nodes => expandAll (within n) nodes

/-- The step of a body. No component is entered inside itself, so that bodies lie inside one
another at most as often as there are components. -/
def ofBody (r : Registry) : List Node → Step := within (r.definitions.length + 1)

/-- The nodes that take the place of a usage of a component. -/
def expandUsage (e : Expander) (c : Component) (n : Node) : List Node × Expander :=
  usage (ofBody e.registry) c n (childSteps (ofBody e.registry) n.children) e

/-- The nodes that take the place of nodes. -/
def expandNodes (e : Expander) (nodes : List Node) : List Node × Expander :=
  expandAll (ofBody e.registry) nodes e

/-- The page with every usage below its root expanded. -/
def expandPage (e : Expander) (page : Node) : Node × Expander :=
  let (children, e) := e.expandNodes page.children
  ({ page with children := children }, e)

end Expander

end PageLang
