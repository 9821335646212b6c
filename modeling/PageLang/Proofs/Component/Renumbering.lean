import PageLang.Proofs.Component.Activation
import PageLang.Proofs.Node.Renumbering

/-!
# Expansion under other line numbers

An expansion copies the numbers of lines into what it gives and into what it reports, and never
looks at them. Nor does it look at a registry other than by asking for the component that a node
is a usage of:

> `ofBody_renumber`: the expansion under other numbers is the expansion with its lines renumbered.

> `ofBody_congr`: registries that define the same components, markers apart, give the same
> expansions.

A stack, a registry and an expansion are renumbered part by part, and one lemma for each step of
the walk says that the step goes along with it.
-/

namespace PageLang

variable (f : Nat → Nat)

/-- The registry with other numbers for all lines. -/
def Registry.renumber (r : Registry) : Registry where
  definitions := r.definitions.map (Component.renumber f)
  names_nodup := by
    have hnames : Component.name ∘ Component.renumber f = Component.name := rfl
    rw [List.map_map, hnames]
    exact r.names_nodup

/-- A component is found with its lines renumbered. -/
theorem Registry.get?_renumber (r : Registry) (name : String) :
    (r.renumber f).get? name = (r.get? name).map (Component.renumber f) := by
  rw [Registry.get?, Registry.renumber, List.find?_map]
  rfl

/-- The scope with other numbers for all lines. -/
def Scope.renumber (scope : Scope) : Scope :=
  { scope with line := f scope.line, groups := scope.groups.mapValues (Node.renumberAll f) }

namespace Binding

mutual

/-- Binding a tree does not look at the numbers of its lines. -/
theorem mapAll_applyNode_renumber (b : Binding) (n : Node) :
    (n.renumber f).mapAll b.applyNode = (n.mapAll b.applyNode).renumber f := by
  obtain ⟨kind, properties, content, children, state, line⟩ := n
  have hchildren := applyBody_renumberAll b children
  unfold applyBody at hchildren
  rw [Node.renumber_eq, Node.mapAll, Node.mapAll, hchildren, Node.renumber_eq]
  rfl

/-- Binding a body does not look at the numbers of its lines. -/
theorem applyBody_renumberAll (b : Binding) (body : List Node) :
    b.applyBody (Node.renumberAll f body) = Node.renumberAll f (b.applyBody body) := by
  match body with
  | [] => rw [Node.renumberAll_nil, applyBody, Node.mapAllList, Node.renumberAll_nil]
  | n :: ns =>
    have hns := applyBody_renumberAll b ns
    unfold applyBody at hns ⊢
    rw [Node.renumberAll_cons, Node.mapAllList, Node.mapAllList, Node.renumberAll_cons, hns,
      mapAll_applyNode_renumber b n]

end

end Binding

namespace Expansion

/-- The expansion with other numbers for all lines. -/
def renumber (x : Expansion) : Expansion :=
  ⟨Node.renumberAll f x.nodes, x.diagnostics.map (Diagnostic.renumber f), x.filled⟩

theorem renumber_empty : renumber f {} = {} := by
  rw [renumber, Node.renumberAll_nil]
  rfl

/-- Two expansions are renumbered one by one. -/
theorem renumber_append (x y : Expansion) : (x ++ y).renumber f = x.renumber f ++ y.renumber f := by
  show renumber f (x.append y) = (x.renumber f).append (y.renumber f)
  unfold renumber append
  rw [Node.renumberAll_append, List.map_append]

/-- Which components are active does not depend on line numbers. -/
theorem isActive_renumber (scopes : List Scope) (name : String) :
    isActive (scopes.map (Scope.renumber f)) name = isActive scopes name := by
  rw [isActive, List.any_map]
  rfl

/-- The names on the stack do not depend on line numbers. -/
theorem stackNames_renumber (scopes : List Scope) :
    stackNames (scopes.map (Scope.renumber f)) = stackNames scopes := by
  rw [stackNames, List.map_map]
  rfl

/-- Grouping parts does not look at the numbers of their lines. -/
theorem collect_renumber (parts : List (String × Expansion)) :
    collect (parts.map fun part => (part.1, part.2.renumber f)) = (collect parts).mapValues
      (renumber f) := by
  suffices hfold : ∀ groups : OrderedMap Expansion,
      (parts.map fun part => (part.1, part.2.renumber f)).foldl
          (fun groups part => groups.insert part.1 ((groups.get? part.1).getD {} ++ part.2))
          (groups.mapValues (renumber f))
        = (parts.foldl
          (fun groups part => groups.insert part.1 ((groups.get? part.1).getD {} ++ part.2))
            groups).mapValues (renumber f) from hfold ∅
  induction parts with
  | nil => exact fun groups => rfl
  | cons part parts ih =>
    intro groups
    have hgroup : ((groups.mapValues (renumber f)).get? part.1).getD {} ++ part.2.renumber f
        = ((groups.get? part.1).getD {} ++ part.2).renumber f := by
      rw [OrderedMap.get?_mapValues, renumber_append]
      cases groups.get? part.1 with
      | none => rw [Option.map_none, Option.getD_none, renumber_empty]
      | some group => rfl
    rw [List.map_cons, List.foldl_cons, List.foldl_cons, hgroup, ← OrderedMap.mapValues_insert, ih]

/-! ## One step -/

theorem ofPlain_renumber (n : Node) (children : Expansion) :
    ofPlain (n.renumber f) (children.renumber f) = (ofPlain n children).renumber f := by
  unfold ofPlain renumber
  rw [Node.renumberAll_cons, Node.renumberAll_nil, Node.renumber_eq, Node.renumber_eq]

/-- A recursive usage is reported on its new line. -/
theorem ofRecursive_renumber (scopes : List Scope) (n : Node) (children : Expansion) :
    ofRecursive (scopes.map (Scope.renumber f)) (n.renumber f) (children.renumber f)
      = (ofRecursive scopes n children).renumber f := by
  unfold ofRecursive
  rw [ofPlain_renumber, stackNames_renumber, Node.renumber_eq]
  rfl

/-- A marker gives the renumbered group, or its renumbered children. -/
theorem ofMarker_renumber (scopes : List Scope) (marker : Node) (default : Unit → Expansion) :
    ofMarker (scopes.map (Scope.renumber f)) (marker.renumber f) (fun _ => (default ()).renumber f)
      = (ofMarker scopes marker default).renumber f := by
  have hname : (marker.renumber f).slotName = marker.slotName := by
    rw [Node.renumber_eq]
    rfl
  have hline : (marker.renumber f).line = f marker.line := by rw [Node.renumber_eq]
  unfold ofMarker
  rw [hname, hline]
  cases scopes with
  | nil =>
    unfold renumber
    rw [Node.renumberAll_nil]
    rfl
  | cons scope scopes =>
    simp only [List.map_cons, Scope.renumber, OrderedMap.get?_mapValues]
    cases scope.groups.get? marker.slotName <;> rfl

/-- A usage is expanded to the renumbered body and reports on the new lines. -/
theorem ofUsage_renumber {enter enter' : List Scope → List Node → Expansion}
    (henter : ∀ scopes nodes, enter' (scopes.map (Scope.renumber f)) (Node.renumberAll f nodes)
      = (enter scopes nodes).renumber f)
    (scopes : List Scope) (c : Component) (usage : Node) (groups : OrderedMap Expansion) :
    ofUsage enter' (scopes.map (Scope.renumber f)) (c.renumber f) (usage.renumber f)
        (groups.mapValues (renumber f))
      = (ofUsage enter scopes c usage groups).renumber f := by
  have hproperties : (usage.renumber f).properties = usage.properties := by rw [Node.renumber_eq]
  have hline : (usage.renumber f).line = f usage.line := by rw [Node.renumber_eq]
  have houter : (groups.mapValues (renumber f)).entries.map Prod.snd
      = (groups.entries.map Prod.snd).map (renumber f) := by
    rw [OrderedMap.mapValues, List.map_map, List.map_map]
    rfl
  have hgroups : (groups.mapValues (renumber f)).mapValues nodes
      = (groups.mapValues nodes).mapValues (Node.renumberAll f) := by
    rw [OrderedMap.mapValues_mapValues, OrderedMap.mapValues_mapValues]
    rfl
  -- The body is entered under the renumbered scope, since binding leaves lines alone.
  have hbody := henter
    ({ component := c.name, line := usage.line, groups := groups.mapValues nodes } :: scopes)
    (Binding.applyBody ⟨c.parameters, usage.properties⟩ c.body)
  rw [List.map_cons, ← Binding.applyBody_renumberAll, Scope.renumber] at hbody
  unfold ofUsage Component.renumber
  dsimp only
  rw [hproperties, hline, houter, hgroups, hbody, OrderedMap.keys_mapValues]
  simp only [renumber, List.map_append, List.map_map, List.flatMap_map, List.map_flatMap]
  rfl

/-! ## The walk -/

/-- The role of a node does not depend on line numbers. -/
theorem role_renumber (r : Registry) (scopes : List Scope) (n : Node) :
    role (r.renumber f) (scopes.map (Scope.renumber f)) (n.renumber f)
      = match role r scopes n with
        | .marker => .marker
        | .plain => .plain
        | .recursive => .recursive
        | .usage c => .usage (c.renumber f) := by
  have hkind : (n.renumber f).kind = n.kind := by rw [Node.renumber_eq]
  unfold role
  rw [hkind, Registry.get?_renumber]
  split
  · rfl
  · cases r.get? n.kind with
    | none => rfl
    | some c =>
      show (if isActive _ c.name then _ else _) = _
      rw [isActive_renumber]
      dsimp only
      split <;> rfl

theorem withoutSlot_renumber (n : Node) :
    withoutSlot (n.renumber f) = (withoutSlot n).renumber f := by
  rw [Node.renumber_eq, Node.renumber_eq]
  rfl

/-- The slot that a child asks for does not depend on line numbers. -/
theorem slotOf_renumber (n : Node) : slotOf (n.renumber f) = slotOf n := by
  rw [Node.renumber_eq]
  rfl

section Walk

variable {f} {r : Registry} {enter enter' : List Scope → List Node → Expansion}

mutual

/-- A renumbered node expands to the renumbered expansion, if bodies do. -/
theorem ofNode_renumber
    (henter : ∀ scopes nodes, enter' (scopes.map (Scope.renumber f)) (Node.renumberAll f nodes)
      = (enter scopes nodes).renumber f)
    (scopes : List Scope) (prepare : Node → Node)
    (hprepare : ∀ n, prepare (n.renumber f) = (prepare n).renumber f) (n : Node) :
    ofNode (r.renumber f) enter' (scopes.map (Scope.renumber f)) prepare (n.renumber f)
      = (ofNode r enter scopes prepare n).renumber f := by
  obtain ⟨kind, properties, content, children, state, line⟩ := n
  have hnodes := ofNodes_renumber henter scopes children
  have hparts := ofChildren_renumber henter scopes children
  have hchildren : (Node.renumber f ⟨kind, properties, content, children, state, line⟩).children
      = Node.renumberAll f children := by rw [Node.renumber_eq]
  rw [ofNode_eq, ofNode_eq, hprepare, role_renumber, hchildren, hnodes, hparts, collect_renumber]
  cases role r scopes (prepare ⟨kind, properties, content, children, state, line⟩) with
  | marker => exact ofMarker_renumber f scopes _ fun _ => ofNodes r enter scopes children
  | plain => exact ofPlain_renumber f ..
  | recursive => exact ofRecursive_renumber f ..
  | usage c => exact ofUsage_renumber f henter ..

/-- So do several nodes. -/
theorem ofNodes_renumber
    (henter : ∀ scopes nodes, enter' (scopes.map (Scope.renumber f)) (Node.renumberAll f nodes)
      = (enter scopes nodes).renumber f)
    (scopes : List Scope) (ns : List Node) :
    ofNodes (r.renumber f) enter' (scopes.map (Scope.renumber f)) (Node.renumberAll f ns)
      = (ofNodes r enter scopes ns).renumber f := by
  match ns with
  | [] => rw [Node.renumberAll_nil, ofNodes, ofNodes, renumber_empty]
  | n :: ns =>
    rw [Node.renumberAll_cons, ofNodes, ofNodes, renumber_append,
      ofNode_renumber henter scopes id (fun _ => rfl) n, ofNodes_renumber henter scopes ns]

/-- So do the children of a usage, filed under the same slots. -/
theorem ofChildren_renumber
    (henter : ∀ scopes nodes, enter' (scopes.map (Scope.renumber f)) (Node.renumberAll f nodes)
      = (enter scopes nodes).renumber f)
    (scopes : List Scope) (ns : List Node) :
    ofChildren (r.renumber f) enter' (scopes.map (Scope.renumber f)) (Node.renumberAll f ns)
      = (ofChildren r enter scopes ns).map fun part => (part.1, part.2.renumber f) := by
  match ns with
  | [] => rw [Node.renumberAll_nil, ofChildren, ofChildren, List.map_nil]
  | n :: ns =>
    rw [Node.renumberAll_cons, ofChildren, ofChildren, List.map_cons, slotOf_renumber,
      ofNode_renumber henter scopes withoutSlot (withoutSlot_renumber f) n,
      ofChildren_renumber henter scopes ns]

end

end Walk

/-- **Expansion goes along with other numbers for all lines.** -/
theorem ofBody_renumber (r : Registry) (scopes : List Scope) (nodes : List Node) :
    ofBody (r.renumber f) (scopes.map (Scope.renumber f)) (Node.renumberAll f nodes)
      = (ofBody r scopes nodes).renumber f := by
  have hwithin : ∀ bound scopes nodes,
      within (r.renumber f) bound (scopes.map (Scope.renumber f)) (Node.renumberAll f nodes)
        = (within r bound scopes nodes).renumber f := by
    intro bound
    induction bound with
    | zero => exact fun scopes nodes => (renumber_empty f).symm
    | succ bound ih => exact fun scopes nodes => ofNodes_renumber ih scopes nodes
  have hlength : (r.renumber f).definitions.length = r.definitions.length := List.length_map _
  rw [ofBody, ofBody, hlength]
  exact hwithin _ scopes nodes

/-! ## Registries with the same components -/

section Congr

variable {r s : Registry}

/-- Registries that differ at the kind of markers only give the same roles. -/
theorem role_registry (h : ∀ name, name ≠ Node.slotKind → r.get? name = s.get? name)
    (scopes : List Scope) (n : Node) : role r scopes n = role s scopes n := by
  unfold role
  split
  · rfl
  · next hkind => rw [h n.kind hkind]

mutual

/-- The same roles give the same expansion of a node. -/
theorem ofNode_registry (h : ∀ scopes n, role r scopes n = role s scopes n)
    (enter : List Scope → List Node → Expansion) (scopes : List Scope) (prepare : Node → Node)
    (n : Node) : ofNode r enter scopes prepare n = ofNode s enter scopes prepare n := by
  obtain ⟨kind, properties, content, children, state, line⟩ := n
  rw [ofNode_eq, ofNode_eq, h]
  dsimp only
  rw [ofNodes_registry h enter scopes children, ofChildren_registry h enter scopes children]

/-- The same for several nodes. -/
theorem ofNodes_registry (h : ∀ scopes n, role r scopes n = role s scopes n)
    (enter : List Scope → List Node → Expansion) (scopes : List Scope) (ns : List Node) :
    ofNodes r enter scopes ns = ofNodes s enter scopes ns := by
  match ns with
  | [] => rw [ofNodes, ofNodes]
  | n :: ns =>
    rw [ofNodes, ofNodes, ofNode_registry h enter scopes id n, ofNodes_registry h enter scopes ns]

/-- The same for the children of a usage. -/
theorem ofChildren_registry (h : ∀ scopes n, role r scopes n = role s scopes n)
    (enter : List Scope → List Node → Expansion) (scopes : List Scope) (ns : List Node) :
    ofChildren r enter scopes ns = ofChildren s enter scopes ns := by
  match ns with
  | [] => rw [ofChildren, ofChildren]
  | n :: ns =>
    rw [ofChildren, ofChildren, ofNode_registry h enter scopes withoutSlot n,
      ofChildren_registry h enter scopes ns]

end

/-- **Expansion asks a registry for nothing but the components of kinds other than the
marker's.** -/
theorem ofBody_congr (h : ∀ name, name ≠ Node.slotKind → r.get? name = s.get? name) :
    ofBody r = ofBody s := by
  -- The bounds may differ, but an expansion is determined by how it enters bodies.
  refine eq_ofBody fun scopes nodes => ?_
  rw [ofBody_eq, ofNodes_registry (role_registry h)]

end Congr

end Expansion

end PageLang
