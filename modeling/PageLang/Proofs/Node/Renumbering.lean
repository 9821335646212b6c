import PageLang.Proofs.State.Declared

/-!
# Trees under other line numbers

Every node remembers the number of its line. `Node.renumber` changes these numbers and nothing
else of a tree, and `Node.withoutLines` forgets them. The initial state does not depend on them:

> `StateTable.ofTree_renumber`: a tree under other numbers declares the same state.
-/

namespace PageLang

/-- The tree with another number for every line. -/
def Node.renumber (f : Nat → Nat) : Node → Node := Node.mapAll fun n => { n with line := f n.line }

/-- The trees with another number for every line. -/
def Node.renumberAll (f : Nat → Nat) : List Node → List Node :=
  Node.mapAllList fun n => { n with line := f n.line }

/-- The component with another number for every line. -/
def Component.renumber (f : Nat → Nat) (c : Component) : Component :=
  { c with body := Node.renumberAll f c.body, line := f c.line }

/-- The diagnostic with another number for its line. -/
def Diagnostic.renumber (f : Nat → Nat) (d : Diagnostic) : Diagnostic := { d with line := f d.line }

/-- The document with another number for every line. -/
def Document.renumber (f : Nat → Nat) (d : Document) : Document :=
  ⟨d.page.renumber f, d.components.map (Component.renumber f),
    d.diagnostics.map (Diagnostic.renumber f)⟩

namespace Node

variable (f g : Nat → Nat)

/-- A renumbered node differs in its line and the lines below it. -/
theorem renumber_eq (n : Node) :
    n.renumber f = { n with children := renumberAll f n.children, line := f n.line } := by
  obtain ⟨kind, properties, content, children, state, line⟩ := n
  rw [renumber, mapAll, renumberAll]

theorem renumberAll_nil : renumberAll f [] = [] := by
  rw [renumberAll, mapAllList]

theorem renumberAll_cons (n : Node) (ns : List Node) :
    renumberAll f (n :: ns) = n.renumber f :: renumberAll f ns := by
  rw [renumberAll, mapAllList, renumber]

theorem isEmpty_renumberAll (ns : List Node) : (renumberAll f ns).isEmpty = ns.isEmpty := by
  cases ns with
  | nil => rw [renumberAll_nil]
  | cons n ns =>
    rw [renumberAll_cons]
    rfl

/-- Two runs of nodes are renumbered one by one. -/
theorem renumberAll_append (ns ms : List Node) :
    renumberAll f (ns ++ ms) = renumberAll f ns ++ renumberAll f ms := by
  induction ns with
  | nil => rw [List.nil_append, renumberAll_nil, List.nil_append]
  | cons n ns ih => rw [List.cons_append, renumberAll_cons, renumberAll_cons, ih, List.cons_append]

mutual

/-- Renumbering twice is renumbering by the composition. -/
theorem renumber_renumber (n : Node) : (n.renumber f).renumber g = n.renumber (g ∘ f) := by
  obtain ⟨kind, properties, content, children, state, line⟩ := n
  rw [renumber_eq, renumber_eq, renumber_eq, renumberAll_renumberAll children]
  rfl

/-- The same for several nodes. -/
theorem renumberAll_renumberAll (ns : List Node) :
    renumberAll g (renumberAll f ns) = renumberAll (g ∘ f) ns := by
  match ns with
  | [] => rw [renumberAll_nil, renumberAll_nil, renumberAll_nil]
  | n :: ns =>
    rw [renumberAll_cons, renumberAll_cons, renumberAll_cons, renumber_renumber n,
      renumberAll_renumberAll ns]

end

mutual

/-- Renumbering by the identity changes nothing. -/
theorem renumber_id (n : Node) : n.renumber id = n := by
  obtain ⟨kind, properties, content, children, state, line⟩ := n
  rw [renumber_eq, renumberAll_id children]
  rfl

theorem renumberAll_id (ns : List Node) : renumberAll id ns = ns := by
  match ns with
  | [] => rw [renumberAll_nil]
  | n :: ns => rw [renumberAll_cons, renumber_id n, renumberAll_id ns]

end

mutual

/-- Renumbering keeps the shape of a tree. -/
theorem preorder_renumber (n : Node) : (n.renumber f).preorder = n.preorder.map (renumber f) := by
  obtain ⟨kind, properties, content, children, state, line⟩ := n
  rw [preorder_eq, preorder_eq, List.map_cons, ← preorderAll_renumberAll children, renumber_eq]

/-- The same for several trees. -/
theorem preorderAll_renumberAll (ns : List Node) :
    preorderAll (renumberAll f ns) = (preorderAll ns).map (renumber f) := by
  match ns with
  | [] => rw [renumberAll_nil, preorderAll, List.map_nil]
  | n :: ns =>
    rw [renumberAll_cons, preorderAll, preorderAll, List.map_append, preorder_renumber n,
      preorderAll_renumberAll ns]

end

theorem state_renumber (n : Node) : (n.renumber f).state = n.state := by
  rw [renumber_eq]

/-- The tree without the numbers of its lines. -/
def withoutLines : Node → Node := renumber fun _ => 0

end Node

/-- A component is renumbered by a composition as its nodes are. -/
theorem Component.renumber_renumber (f g : Nat → Nat) (c : Component) :
    (c.renumber f).renumber g = c.renumber (g ∘ f) := by
  unfold Component.renumber
  rw [Node.renumberAll_renumberAll]
  rfl

/-- Renumbering a document by the identity changes nothing. -/
theorem Document.renumber_id (d : Document) : d.renumber id = d := by
  have hcomponent : Component.renumber id = id := by
    funext c
    rw [Component.renumber, Node.renumberAll_id]
    rfl
  have hdiagnostic : Diagnostic.renumber id = id := rfl
  rw [Document.renumber, Node.renumber_id, hcomponent, hdiagnostic, List.map_id, List.map_id]

/-! ## State -/

namespace StateTable

/-- **A tree under other numbers declares the same state.** -/
theorem ofTree_renumber (f : Nat → Nat) (root : Node) :
    (ofTree (root.renumber f)).1 = (ofTree root).1 := by
  rw [ofTree_fst, ofTree_fst, Node.preorder_renumber, declared, declared, List.filterMap_map,
    List.map_filterMap, List.map_filterMap]
  refine congrArg OrderedMap.ofList (congrArg (List.filterMap · root.preorder) (funext fun n => ?_))
  rw [Function.comp_apply, Node.state_renumber]
  cases n.state <;> rfl

end StateTable

end PageLang
