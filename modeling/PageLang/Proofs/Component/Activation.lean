import PageLang.Proofs.Component.Simulation

/-!
# Which bodies an expansion enters

Expanding nodes under a stack walks the nodes, and for every usage of a component that is not yet
on the stack it enters the body of the component under one scope more. An `Activation` is a stack
with the nodes that are expanded under it; `enteredByNodes` lists the activations that the walk
over some nodes starts. The walk depends on nothing else of what entering a body gives:

> `ofNodes_congr`: two ways to enter bodies that agree on the entered ones give the same expansion.

Every entry takes one more component out of the idle ones, so that entering ends, and the bound on
how often bodies lie inside one another never cuts an expansion short:

> `ofBody_eq`: the expansion of a body is the walk over it that enters bodies without any bound.
-/

namespace PageLang.Expansion

/-! ## What a node is -/

/-- What a node is to an expansion under a stack. -/
inductive Role where
  | marker
  | plain
  /-- A usage of a component that is being expanded. -/
  | recursive
  /-- A usage of a component whose body is entered. -/
  | usage (c : Component)

/-- What a node is under a stack. -/
def role (r : Registry) (scopes : List Scope) (n : Node) : Role :=
  if n.kind = Node.slotKind then .marker
  else
    match r.get? n.kind with
    | none => .plain
    | some c => if isActive scopes c.name then .recursive else .usage c

section Role

variable {r : Registry} {scopes : List Scope} {n : Node}

/-- A plain node is no marker and names no component. -/
theorem get?_of_plain (h : role r scopes n = .plain) :
    n.kind ≠ Node.slotKind ∧ r.get? n.kind = none := by
  unfold role at h
  split at h
  · cases h
  · next hslot =>
    split at h
    · next hnone => exact ⟨hslot, hnone⟩
    · split at h <;> cases h

/-- A component is found under its own name. -/
theorem name_of_get? {c : Component} {name : String} (h : r.get? name = some c) :
    c.name = name := by
  simpa using List.find?_some h

theorem mem_of_get? {c : Component} {name : String} (h : r.get? name = some c) :
    c ∈ r.definitions :=
  List.mem_of_find?_eq_some h

/-- A recursive usage names a component whose body is being expanded. -/
theorem active_of_recursive (h : role r scopes n = .recursive) :
    n.kind ≠ Node.slotKind ∧ (r.get? n.kind).isSome ∧ isActive scopes n.kind = true := by
  unfold role at h
  split at h
  · cases h
  · next hslot =>
    split at h
    · cases h
    · next c hc =>
      split at h
      · next hactive =>
        rw [name_of_get? hc] at hactive
        exact ⟨hslot, by rw [hc]; rfl, hactive⟩
      · cases h

/-- Any other usage names a component whose body is not. -/
theorem get?_of_usage {c : Component} (h : role r scopes n = .usage c) :
    n.kind ≠ Node.slotKind ∧ r.get? n.kind = some c ∧ isActive scopes c.name = false := by
  unfold role at h
  split at h
  · cases h
  · next hslot =>
    split at h
    · cases h
    · next c' hc =>
      split at h
      · cases h
      · next hidle =>
        cases h
        exact ⟨hslot, hc, by simpa using hidle⟩

/-- A node that is no marker and names no component is plain on every stack. -/
theorem role_of_plain (hslot : n.kind ≠ Node.slotKind) (hnone : r.get? n.kind = none) :
    role r scopes n = .plain := by
  rw [role, if_neg hslot, hnone]

end Role

variable {r : Registry} {enter enter' : List Scope → List Node → Expansion} {scopes : List Scope}

/-- A node is expanded by its role. -/
theorem ofNode_eq (r : Registry) (enter : List Scope → List Node → Expansion) (scopes : List Scope)
    (prepare : Node → Node) (n : Node) :
    ofNode r enter scopes prepare n =
      match role r scopes (prepare n) with
      | .marker => ofMarker scopes (prepare n) fun _ => ofNodes r enter scopes n.children
      | .plain => ofPlain (prepare n) (ofNodes r enter scopes n.children)
      | .recursive => ofRecursive scopes (prepare n) (ofNodes r enter scopes n.children)
      | .usage c =>
        ofUsage enter scopes c (prepare n) (collect (ofChildren r enter scopes n.children)) := by
  obtain ⟨kind, properties, content, children, state, line⟩ := n
  rw [ofNode, role]
  by_cases hslot : (prepare ⟨kind, properties, content, children, state, line⟩).kind = Node.slotKind
  · simp only [if_pos hslot]
  · simp only [if_neg hslot]
    cases r.get? (prepare ⟨kind, properties, content, children, state, line⟩).kind with
    | none => rfl
    | some c => by_cases hactive : isActive scopes c.name = true <;> simp only [hactive] <;> rfl

theorem nodes_append (x y : Expansion) : (x ++ y).nodes = x.nodes ++ y.nodes := rfl

theorem diagnostics_append (x y : Expansion) :
    (x ++ y).diagnostics = x.diagnostics ++ y.diagnostics := rfl

/-! ## Groups -/

section Groups

variable {α : Type} {f : Expansion → List α} (hempty : f {} = [])
  (happend : ∀ x y, f (x ++ y) = f x ++ f y)
include hempty happend

/-- What is gathered from all groups grows by what is gathered from the new part. -/
theorem mem_flatMap_insertEntry {y : α} (slot : String) (x : Expansion)
    (entries : List (String × Expansion)) :
    y ∈ (OrderedMap.insertEntry slot ((entries.lookup slot).getD {} ++ x) entries).flatMap
      (fun e => f e.2)
      ↔ y ∈ entries.flatMap (fun e => f e.2) ∨ y ∈ f x := by
  induction entries with
  | nil => simp [OrderedMap.insertEntry, happend, hempty]
  | cons e rest ih =>
    obtain ⟨k, v⟩ := e
    by_cases hk : k = slot
    · -- The slot has a group already, and the part goes to its end.
      subst hk
      simp only [OrderedMap.insertEntry, List.lookup_cons_self, Option.getD_some, if_pos,
        List.flatMap_cons, happend, List.mem_append]
      exact or_right_comm
    · have hlookup : ((k, v) :: rest).lookup slot = rest.lookup slot := by
        rw [List.lookup_cons, beq_false_of_ne fun h => hk h.symm]
      simp only [OrderedMap.insertEntry, if_neg hk, hlookup, List.flatMap_cons, List.mem_append, ih]
      exact or_assoc.symm

/-- The groups hold what the parts hold. -/
theorem mem_flatMap_collect {y : α} (parts : List (String × Expansion)) :
    y ∈ (collect parts).entries.flatMap (fun e => f e.2) ↔ y ∈ parts.flatMap (fun e => f e.2) := by
  suffices hfold : ∀ groups : OrderedMap Expansion,
      y ∈ (parts.foldl (fun groups part =>
          groups.insert part.1 ((groups.get? part.1).getD {} ++ part.2)) groups).entries.flatMap
            (fun e => f e.2)
        ↔ y ∈ groups.entries.flatMap (fun e => f e.2) ∨ y ∈ parts.flatMap (fun e => f e.2) by
    rw [collect, hfold]
    exact or_iff_right List.not_mem_nil
  induction parts with
  | nil => simp
  | cons part parts ih =>
    intro groups
    rw [List.foldl_cons, ih, List.flatMap_cons, List.mem_append, ← or_assoc]
    exact or_congr_left (mem_flatMap_insertEntry hempty happend part.1 part.2 groups.entries)

end Groups

/-! ## Entered bodies -/

/-- Nodes that are expanded under a stack. -/
structure Activation where
  scopes : List Scope
  nodes : List Node

/-- The body of a component, bound to a usage and under a scope for it. -/
def Activation.ofUsage (scopes : List Scope) (c : Component) (usage : Node)
    (groups : OrderedMap Expansion) : Activation :=
  ⟨{ component := c.name, line := usage.line, groups := groups.mapValues Expansion.nodes }
    :: scopes,
    Binding.applyBody ⟨c.parameters, usage.properties⟩ c.body⟩

/-- Whether a marker is replaced by its own children. -/
def takesDefault (marker : Node) : List Scope → Bool
  | [] => false
  | scope :: _ => (scope.groups.get? marker.slotName).isNone

mutual

/-- The bodies that the expansion of a node enters, in their order. -/
def enteredByNode (r : Registry) (enter : List Scope → List Node → Expansion) (scopes : List Scope)
    (prepare : Node → Node) : Node → List Activation
  | n@⟨_, _, _, children, _, _⟩ =>
    match role r scopes (prepare n) with
    | .marker =>
      if takesDefault (prepare n) scopes then enteredByNodes r enter scopes children else []
    | .plain => enteredByNodes r enter scopes children
    | .recursive => enteredByNodes r enter scopes children
    | .usage c =>
      enteredByChildren r enter scopes children
        ++ [.ofUsage scopes c (prepare n) (collect (ofChildren r enter scopes children))]

/-- The bodies that the expansion of nodes enters. -/
def enteredByNodes (r : Registry) (enter : List Scope → List Node → Expansion)
    (scopes : List Scope) : List Node → List Activation
  | [] => []
  | n :: ns => enteredByNode r enter scopes id n ++ enteredByNodes r enter scopes ns

/-- The bodies that the expansion of the children of a usage enters. -/
def enteredByChildren (r : Registry) (enter : List Scope → List Node → Expansion)
    (scopes : List Scope) : List Node → List Activation
  | [] => []
  | n :: ns => enteredByNode r enter scopes withoutSlot n ++ enteredByChildren r enter scopes ns

end

/-- Two ways to enter bodies give the same for an activation. -/
def AgreeOn (enter enter' : List Scope → List Node → Expansion) (as : List Activation) : Prop :=
  ∀ a ∈ as, enter a.scopes a.nodes = enter' a.scopes a.nodes

/-- Agreement on all bodies is agreement on the first ones. -/
theorem AgreeOn.left {as bs : List Activation} (h : AgreeOn enter enter' (as ++ bs)) :
    AgreeOn enter enter' as :=
  fun a ha => h a (List.mem_append_left _ ha)

/-- It is also agreement on the others. -/
theorem AgreeOn.right {as bs : List Activation} (h : AgreeOn enter enter' (as ++ bs)) :
    AgreeOn enter enter' bs :=
  fun a ha => h a (List.mem_append_right _ ha)

/-- The children of a marker matter only if there is no group for it. -/
theorem ofMarker_congr {marker : Node} {default default' : Unit → Expansion}
    (h : takesDefault marker scopes = true → default () = default' ()) :
    ofMarker scopes marker default = ofMarker scopes marker default' := by
  unfold ofMarker
  cases scopes with
  | nil => rfl
  | cons scope scopes =>
    dsimp only
    cases hgroup : scope.groups.get? marker.slotName with
    | none => exact h (by rw [takesDefault, hgroup]; rfl)
    | some group => rfl

/-- A usage depends on how its body is entered and on nothing else of `enter`. -/
theorem ofUsage_congr {c : Component} {usage : Node} {groups : OrderedMap Expansion}
    (h : AgreeOn enter enter' [.ofUsage scopes c usage groups]) :
    ofUsage enter scopes c usage groups = ofUsage enter' scopes c usage groups := by
  have hbody := h _ (List.mem_singleton_self _)
  unfold Activation.ofUsage at hbody
  unfold ofUsage
  dsimp only at hbody ⊢
  rw [hbody]

mutual

/-- A node depends on `enter` only at the bodies that are entered under it. -/
theorem ofNode_congr {prepare : Node → Node} (n : Node)
    (h : AgreeOn enter enter' (enteredByNode r enter scopes prepare n)) :
    ofNode r enter scopes prepare n = ofNode r enter' scopes prepare n := by
  obtain ⟨kind, properties, content, children, state, line⟩ := n
  rw [ofNode_eq, ofNode_eq]
  rw [enteredByNode] at h
  cases hrole : role r scopes (prepare ⟨kind, properties, content, children, state, line⟩) with
  | marker =>
    simp only [hrole] at h ⊢
    refine ofMarker_congr fun hdefault => ofNodes_congr children ?_
    rwa [if_pos hdefault] at h
  | plain =>
    simp only [hrole] at h ⊢
    rw [ofNodes_congr children h]
  | recursive =>
    simp only [hrole] at h ⊢
    rw [ofNodes_congr children h]
  | usage c =>
    -- The groups are the same by induction, and so the body is entered under the same stack.
    simp only [hrole] at h ⊢
    rw [← ofChildren_congr children h.left]
    exact ofUsage_congr h.right

/-- The expansion of nodes depends only on what entering the entered bodies gives. -/
theorem ofNodes_congr (ns : List Node)
    (h : AgreeOn enter enter' (enteredByNodes r enter scopes ns)) :
    ofNodes r enter scopes ns = ofNodes r enter' scopes ns := by
  match ns with
  | [] => rw [ofNodes, ofNodes]
  | n :: ns =>
    rw [enteredByNodes] at h
    rw [ofNodes, ofNodes, ofNode_congr n h.left, ofNodes_congr ns h.right]

/-- So do the children of a usage. -/
theorem ofChildren_congr (ns : List Node)
    (h : AgreeOn enter enter' (enteredByChildren r enter scopes ns)) :
    ofChildren r enter scopes ns = ofChildren r enter' scopes ns := by
  match ns with
  | [] => rw [ofChildren, ofChildren]
  | n :: ns =>
    rw [enteredByChildren] at h
    rw [ofChildren, ofChildren, ofNode_congr n h.left, ofChildren_congr ns h.right]

end

/-! ## Entering ends -/

/-- The activation is the body of a component that is not on the stack, for a usage of the kind of
one of the nodes. -/
def EntersFrom (r : Registry) (scopes : List Scope) (ns : List Node) (a : Activation) : Prop :=
  ∃ c usage groups, role r scopes usage = .usage c ∧ a = .ofUsage scopes c usage groups
    ∧ ∃ n ∈ ns, n.kind = usage.kind

/-- What is entered from some nodes is entered from more. -/
theorem EntersFrom.mono {ns ms : List Node} {a : Activation} (h : EntersFrom r scopes ns a)
    (hsub : ns ⊆ ms) : EntersFrom r scopes ms a := by
  obtain ⟨c, usage, groups, hrole, ha, n, hn, hkind⟩ := h
  exact ⟨c, usage, groups, hrole, ha, n, hsub hn, hkind⟩

theorem kind_withoutSlot (n : Node) : (withoutSlot n).kind = n.kind := rfl

mutual

/-- Every body that is entered under a node is that of a usage in the node. -/
theorem entersFrom_of_mem_node {prepare : Node → Node} (hkind : ∀ n, (prepare n).kind = n.kind)
    (n : Node) {a : Activation} (h : a ∈ enteredByNode r enter scopes prepare n) :
    EntersFrom r scopes n.preorder a := by
  obtain ⟨kind, properties, content, children, state, line⟩ := n
  have hbelow : Node.preorderAll children ⊆
      Node.preorder ⟨kind, properties, content, children, state, line⟩ := by
    rw [Node.preorder]
    exact List.subset_cons_self _ _
  rw [enteredByNode] at h
  cases hrole : role r scopes (prepare ⟨kind, properties, content, children, state, line⟩) with
  | marker =>
    simp only [hrole] at h
    split at h
    · exact (entersFrom_of_mem_nodes children h).mono hbelow
    · cases h
  | plain =>
    simp only [hrole] at h
    exact (entersFrom_of_mem_nodes children h).mono hbelow
  | recursive =>
    simp only [hrole] at h
    exact (entersFrom_of_mem_nodes children h).mono hbelow
  | usage c =>
    simp only [hrole] at h
    rcases List.mem_append.mp h with h | h
    · exact (entersFrom_of_mem_children children h).mono hbelow
    · rw [List.mem_singleton.mp h]
      refine ⟨c, _, _, hrole, rfl, _, ?_, (hkind _).symm⟩
      rw [Node.preorder]
      exact List.mem_cons_self ..

/-- What the expansion of nodes enters is a body used among them. -/
theorem entersFrom_of_mem_nodes (ns : List Node) {a : Activation}
    (h : a ∈ enteredByNodes r enter scopes ns) : EntersFrom r scopes (Node.preorderAll ns) a := by
  match ns with
  | [] =>
    rw [enteredByNodes] at h
    cases h
  | n :: ns =>
    rw [enteredByNodes] at h
    rw [Node.preorderAll]
    rcases List.mem_append.mp h with h | h
    · exact (entersFrom_of_mem_node (fun _ => rfl) n h).mono (List.subset_append_left _ _)
    · exact (entersFrom_of_mem_nodes ns h).mono (List.subset_append_right _ _)

/-- The same for the children of a usage. -/
theorem entersFrom_of_mem_children (ns : List Node) {a : Activation}
    (h : a ∈ enteredByChildren r enter scopes ns) :
    EntersFrom r scopes (Node.preorderAll ns) a := by
  match ns with
  | [] =>
    rw [enteredByChildren] at h
    cases h
  | n :: ns =>
    rw [enteredByChildren] at h
    rw [Node.preorderAll]
    rcases List.mem_append.mp h with h | h
    · exact (entersFrom_of_mem_node kind_withoutSlot n h).mono (List.subset_append_left _ _)
    · exact (entersFrom_of_mem_children ns h).mono (List.subset_append_right _ _)

end

/-- The components that are not on a stack. -/
def idle (r : Registry) (scopes : List Scope) : List Component :=
  r.definitions.filter fun c => !isActive scopes c.name

/-- At most all components are idle. -/
theorem length_idle_le (r : Registry) (scopes : List Scope) :
    (idle r scopes).length ≤ r.definitions.length :=
  List.length_filter_le ..

theorem isActive_cons (scope : Scope) (scopes : List Scope) (name : String) :
    isActive (scope :: scopes) name = (decide (scope.component = name) || isActive scopes name) :=
  rfl

/-- A component that is entered is idle no longer, and no other becomes idle. -/
theorem EntersFrom.length_idle_lt {ns : List Node} {a : Activation} (h : EntersFrom r scopes ns a) :
    (idle r a.scopes).length < (idle r scopes).length := by
  obtain ⟨c, usage, groups, hrole, rfl, -⟩ := h
  obtain ⟨-, hget, hidle⟩ := get?_of_usage hrole
  have hmem : c ∈ idle r scopes := by
    rw [idle, List.mem_filter]
    exact ⟨mem_of_get? hget, by rw [hidle]; rfl⟩
  have hfilter : idle r (Activation.ofUsage scopes c usage groups).scopes
      = (idle r scopes).filter fun d => !decide (c.name = d.name) := by
    rw [idle, idle, List.filter_filter]
    refine List.filter_congr fun d _ => ?_
    rw [Activation.ofUsage, isActive_cons, Bool.not_or]
  rw [hfilter, List.length_filter_lt_length_iff_exists]
  exact ⟨c, hmem, by simp⟩

/-- Two bounds that leave room for every idle component give the same expansion. -/
theorem within_eq {n m : Nat} {scopes : List Scope} (hn : (idle r scopes).length < n)
    (hm : (idle r scopes).length < m) (nodes : List Node) :
    within r n scopes nodes = within r m scopes nodes := by
  induction n generalizing m scopes nodes with
  | zero => omega
  | succ n ih =>
    cases m with
    | zero => omega
    | succ m =>
      -- Every body entered from here has one idle component less, which pays for the bound.
      rw [within, within]
      refine ofNodes_congr nodes fun a ha => ?_
      have hless := (entersFrom_of_mem_nodes nodes ha).length_idle_lt
      exact ih (by omega) (by omega) a.nodes

/-- **The bound on nested bodies cuts nothing short**: expanding a body enters further bodies in
the same way. -/
theorem ofBody_eq (r : Registry) (scopes : List Scope) (nodes : List Node) :
    ofBody r scopes nodes = ofNodes r (ofBody r) scopes nodes := by
  rw [ofBody, within]
  refine ofNodes_congr nodes fun a ha => ?_
  have hless := (entersFrom_of_mem_nodes nodes ha).length_idle_lt
  have hle := length_idle_le r scopes
  exact within_eq (by omega) (by omega) a.nodes

/-- An activation that is started while another one is expanded. -/
def Enters (r : Registry) (caller callee : Activation) : Prop :=
  callee ∈ enteredByNodes r (ofBody r) caller.scopes caller.nodes

/-- A body is entered from a usage in the body around it. -/
theorem Enters.entersFrom {caller callee : Activation} (h : Enters r caller callee) :
    EntersFrom r caller.scopes (Node.preorderAll caller.nodes) callee :=
  entersFrom_of_mem_nodes _ h

/-- No activation leads to bodies inside bodies without end. -/
theorem wellFounded_enters (r : Registry) :
    WellFounded fun callee caller : Activation => Enters r caller callee :=
  Subrelation.wf (fun h => h.entersFrom.length_idle_lt)
    (InvImage.wf (fun a : Activation => (idle r a.scopes).length) Nat.lt_wfRel.wf)

/-- The expansion is the only one that enters bodies in the same way as it expands them. -/
theorem eq_ofBody {f : List Scope → List Node → Expansion}
    (hf : ∀ scopes nodes, f scopes nodes = ofNodes r f scopes nodes) : f = ofBody r := by
  have heq (a : Activation) : ofBody r a.scopes a.nodes = f a.scopes a.nodes := by
    induction a using (wellFounded_enters r).induction with
    | _ a ih =>
      rw [ofBody_eq, hf]
      exact ofNodes_congr a.nodes fun callee hcallee => ih callee hcallee
  funext scopes nodes
  exact (heq ⟨scopes, nodes⟩).symm

end PageLang.Expansion

namespace PageLang

/-- Expanding a page is expanding what is below its root under the empty stack. -/
theorem Expander.expandPage_eq (r : Registry) (page : Node) :
    expandPage { registry := r } page =
      ({ page with children := (Expansion.ofBody r [] page.children).nodes },
        { registry := r, diagnostics := (Expansion.ofBody r [] page.children).diagnostics }) := by
  rw [Expansion.ofBody_eq, expandPage, expandNodes_eq]
  rfl

end PageLang
