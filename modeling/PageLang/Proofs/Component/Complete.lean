import PageLang.Proofs.Component.Activation

/-!
# Expansion is complete

The nodes of an expansion come from four places: from the page, from bound bodies, from the slot
content of usages, which is expanded once and then only copied, and from the children of markers.
Each of them is `Settled`: no marker is left there, and every usage that is left has been reported
as recursive. For the slot content this is known from the outer expansion, whose reports come
before, so that the lemmas here are stated relative to what has been reported already.

> `Expander.expandPage_complete`: what is below the root of an expanded page is settled, and a
> page is left alone without a report exactly if there is no marker and no usage below its root.
-/

namespace PageLang.Expansion

variable {r : Registry} {ds es : List Diagnostic} {ns ms : List Node} {scopes : List Scope}
  {enter : List Scope → List Node → Expansion}

/-- No marker is left among the nodes, and every usage that is left is among the reported ones. -/
def Settled (r : Registry) (ds : List Diagnostic) (ns : List Node) : Prop :=
  ∀ n ∈ Node.preorderAll ns, n.kind ≠ Node.slotKind
    ∧ ((r.get? n.kind).isSome → ∃ stack, (Finding.recursiveUsage n.kind stack).onLine n.line ∈ ds)

theorem settled_nil : Settled r ds [] := by
  intro n hn
  rw [Node.preorderAll] at hn
  cases hn

/-- More reports settle no less. -/
theorem Settled.mono (h : Settled r ds ns) (hsub : ds ⊆ es) : Settled r es ns := by
  intro n hn
  obtain ⟨hslot, hreported⟩ := h n hn
  refine ⟨hslot, fun hsome => ?_⟩
  obtain ⟨stack, hmem⟩ := hreported hsome
  exact ⟨stack, hsub hmem⟩

/-- Two settled runs of nodes are settled together. -/
theorem Settled.append (hns : Settled r ds ns) (hms : Settled r ds ms) :
    Settled r ds (ns ++ ms) := by
  intro n hn
  rw [Node.preorderAll_append] at hn
  rcases List.mem_append.mp hn with hn | hn
  · exact hns n hn
  · exact hms n hn

/-- A node is settled if it is no marker, is reported if it names a component, and its children
are settled. -/
theorem settled_singleton {n : Node} (hslot : n.kind ≠ Node.slotKind)
    (hreported : (r.get? n.kind).isSome →
      ∃ stack, (Finding.recursiveUsage n.kind stack).onLine n.line ∈ ds)
    (hchildren : Settled r ds n.children) : Settled r ds [n] := by
  intro m hm
  rw [Node.preorderAll, Node.preorderAll, List.append_nil, Node.preorder_eq] at hm
  rcases List.mem_cons.mp hm with rfl | hm
  · exact ⟨hslot, hreported⟩
  · exact hchildren m hm

/-- The slot content that the innermost scope has for markers is settled. -/
def Provided (r : Registry) (ds : List Diagnostic) : List Scope → Prop
  | [] => True
  | scope :: _ => ∀ group ∈ scope.groups.entries, Settled r ds group.2

/-- Entering a body gives settled nodes, whatever slot content is settled before. -/
def Settles (r : Registry) (enter : List Scope → List Node → Expansion) : Prop :=
  ∀ ds scopes nodes, Provided r ds scopes →
    Settled r (ds ++ (enter scopes nodes).diagnostics) (enter scopes nodes).nodes

/-- Groups are settled if the parts are that they were put together from. -/
theorem settled_of_mem_collect {parts : List (String × Expansion)}
    (h : ∀ part ∈ parts, Settled r (ds ++ part.2.diagnostics) part.2.nodes) :
    ∀ group ∈ (collect parts).entries, Settled r
      (ds ++ (collect parts).entries.flatMap fun e => e.2.diagnostics) group.2.nodes := by
  intro group hgroup n hn
  have hnodes : n ∈ (collect parts).entries.flatMap fun e => Node.preorderAll e.2.nodes :=
    List.mem_flatMap.mpr ⟨group, hgroup, hn⟩
  rw [mem_flatMap_collect (f := fun x => Node.preorderAll x.nodes) (by rw [Node.preorderAll])
    fun x y => by rw [nodes_append, Node.preorderAll_append]] at hnodes
  obtain ⟨part, hpart, hn⟩ := List.mem_flatMap.mp hnodes
  -- What the part reports is reported with its group.
  have hreports : part.2.diagnostics ⊆ (collect parts).entries.flatMap fun e =>
      e.2.diagnostics := by
    intro d hd
    rw [mem_flatMap_collect rfl diagnostics_append]
    exact List.mem_flatMap.mpr ⟨part, hpart, hd⟩
  exact (h part hpart).mono (List.append_subset.mpr ⟨List.subset_append_left _ _,
    fun d hd => List.mem_append_right _ (hreports hd)⟩) n hn

/-- A usage gives what its body gives, which is entered with the groups provided. -/
theorem settled_ofUsage {c : Component} {usage : Node} {groups : OrderedMap Expansion}
    (henter : Settles r enter)
    (h : ∀ group ∈ groups.entries,
      Settled r (ds ++ groups.entries.flatMap fun e => e.2.diagnostics) group.2.nodes) :
    Settled r (ds ++ (ofUsage enter scopes c usage groups).diagnostics)
      (ofUsage enter scopes c usage groups).nodes := by
  -- The groups report before the body is entered, so that their content counts as settled there.
  have hprovided : Provided r (ds ++ groups.entries.flatMap fun e => e.2.diagnostics)
      (Activation.ofUsage scopes c usage groups).scopes := by
    intro group hgroup
    obtain ⟨e, he, rfl⟩ := List.mem_map.mp hgroup
    exact h e he
  refine (henter _ _ (Activation.ofUsage scopes c usage groups).nodes hprovided).mono ?_
  intro d hd
  unfold ofUsage
  simp only [List.mem_append, List.flatMap_map] at hd ⊢
  rcases hd with (hd | hd) | hd
  · exact .inl hd
  · exact .inr (.inl (.inl (.inl hd)))
  · exact .inr (.inl (.inr hd))

/-- A marker gives slot content, or what its own children give. -/
theorem settled_ofMarker {marker : Node} {default : Unit → Expansion}
    (hprovided : Provided r ds scopes)
    (h : Settled r (ds ++ (default ()).diagnostics) (default ()).nodes) :
    Settled r (ds ++ (ofMarker scopes marker default).diagnostics)
      (ofMarker scopes marker default).nodes := by
  unfold ofMarker
  cases scopes with
  | nil => exact settled_nil
  | cons scope scopes =>
    dsimp only
    cases hgroup : scope.groups.get? marker.slotName with
    | none => exact h
    | some group =>
      have hsettled := hprovided _ (OrderedMap.mem_entries_of_get? hgroup)
      exact hsettled.mono (List.subset_append_left _ _)

mutual

/-- The expansion of a node is settled, if bodies are. -/
theorem settled_ofNode (henter : Settles r enter) (hprovided : Provided r ds scopes)
    (prepare : Node → Node) (n : Node) :
    Settled r (ds ++ (ofNode r enter scopes prepare n).diagnostics)
      (ofNode r enter scopes prepare n).nodes := by
  obtain ⟨kind, properties, content, children, state, line⟩ := n
  have hchildren := settled_ofNodes henter hprovided children
  rw [ofNode_eq]
  cases hrole : role r scopes (prepare ⟨kind, properties, content, children, state, line⟩) with
  | marker => exact settled_ofMarker hprovided hchildren
  | plain =>
    obtain ⟨hslot, hnone⟩ := get?_of_plain hrole
    refine settled_singleton hslot (fun hsome => ?_) hchildren
    rw [hnone] at hsome
    cases hsome
  | recursive =>
    have hreports : ds ++ (ofNodes r enter scopes children).diagnostics ⊆ ds ++ (ofRecursive scopes
        (prepare ⟨kind, properties, content, children, state, line⟩)
        (ofNodes r enter scopes children)).diagnostics :=
      List.append_subset.mpr ⟨List.subset_append_left _ _,
        fun d hd => List.mem_append_right _ (List.mem_cons_of_mem _ hd)⟩
    refine settled_singleton (active_of_recursive hrole).1 (fun _ => ?_) (hchildren.mono hreports)
    exact ⟨stackNames scopes, List.mem_append_right _ (List.mem_cons_self ..)⟩
  | usage c =>
    exact settled_ofUsage henter
      (settled_of_mem_collect (settled_ofChildren henter hprovided children))

/-- Expanding nodes gives settled nodes. -/
theorem settled_ofNodes (henter : Settles r enter) (hprovided : Provided r ds scopes)
    (ns : List Node) :
    Settled r (ds ++ (ofNodes r enter scopes ns).diagnostics)
      (ofNodes r enter scopes ns).nodes := by
  match ns with
  | [] =>
    rw [ofNodes]
    exact settled_nil
  | n :: ns =>
    rw [ofNodes, nodes_append, diagnostics_append]
    refine .append ((settled_ofNode henter hprovided id n).mono ?_)
      ((settled_ofNodes henter hprovided ns).mono ?_)
    · rw [← List.append_assoc]
      exact List.subset_append_left _ _
    · exact List.append_subset.mpr ⟨List.subset_append_left _ _,
        fun d hd => List.mem_append_right _ (List.mem_append_right _ hd)⟩

/-- So are those of the children of a usage. -/
theorem settled_ofChildren (henter : Settles r enter) (hprovided : Provided r ds scopes)
    (ns : List Node) :
    ∀ part ∈ ofChildren r enter scopes ns, Settled r (ds ++ part.2.diagnostics) part.2.nodes := by
  match ns with
  | [] =>
    intro part hpart
    rw [ofChildren] at hpart
    cases hpart
  | n :: ns =>
    intro part hpart
    rw [ofChildren] at hpart
    rcases List.mem_cons.mp hpart with rfl | hpart
    · exact settled_ofNode henter hprovided withoutSlot n
    · exact settled_ofChildren henter hprovided ns part hpart

end

/-- Bodies inside bodies give settled nodes, by induction on how often they may lie inside one
another. -/
theorem settles_within (r : Registry) (n : Nat) : Settles r (within r n) := by
  induction n with
  | zero => exact fun ds scopes nodes _ => settled_nil
  | succ n ih => exact fun ds scopes nodes hprovided => settled_ofNodes ih hprovided nodes

/-- The expansion of a page is settled. -/
theorem settled_ofBody (r : Registry) (ns : List Node) :
    Settled r (ofBody r [] ns).diagnostics (ofBody r [] ns).nodes :=
  settles_within r (r.definitions.length + 1) [] [] ns trivial

/-! ## Nothing to expand -/

/-- There is neither a marker nor a usage among the nodes. -/
def Plain (r : Registry) (ns : List Node) : Prop :=
  ∀ n ∈ Node.preorderAll ns, n.kind ≠ Node.slotKind ∧ r.get? n.kind = none

/-- Nodes are plain if the first, its children and the others are. -/
theorem plain_cons {n : Node} :
    Plain r (n :: ns) ↔ (n.kind ≠ Node.slotKind ∧ r.get? n.kind = none) ∧ Plain r n.children
      ∧ Plain r ns := by
  unfold Plain
  rw [Node.preorderAll, Node.preorder_eq, List.cons_append, List.forall_mem_cons,
    List.forall_mem_append]

/-- Settled nodes are plain if nothing has been reported as recursive. -/
theorem Settled.plain (h : Settled r ds ns)
    (hds : ∀ c stack line, (Finding.recursiveUsage c stack).onLine line ∉ ds) : Plain r ns := by
  intro n hn
  obtain ⟨hslot, hreported⟩ := h n hn
  refine ⟨hslot, Option.not_isSome_iff_eq_none.mp fun hsome => ?_⟩
  obtain ⟨stack, hmem⟩ := hreported hsome
  exact hds _ _ _ hmem

mutual

/-- A plain node is its own expansion. -/
theorem ofNode_eq_self (n : Node) (hn : n.kind ≠ Node.slotKind ∧ r.get? n.kind = none)
    (hchildren : Plain r n.children) : ofNode r enter scopes id n = { nodes := [n] } := by
  obtain ⟨kind, properties, content, children, state, line⟩ := n
  rw [ofNode_eq]
  simp only [id, role_of_plain hn.1 hn.2, ofNodes_eq_self children hchildren]
  rfl

/-- Expanding plain nodes gives them back and reports nothing. -/
theorem ofNodes_eq_self (ns : List Node) (h : Plain r ns) :
    ofNodes r enter scopes ns = { nodes := ns } := by
  match ns with
  | [] => rw [ofNodes]
  | n :: ns =>
    obtain ⟨hn, hchildren, hns⟩ := plain_cons.mp h
    rw [ofNodes, ofNode_eq_self n hn hchildren, ofNodes_eq_self ns hns]
    rfl

end

end PageLang.Expansion

namespace PageLang

open Expansion (Plain Settled)

/-- A plain page is expanded to itself, with nothing reported. -/
theorem Expander.expandPage_eq_self {r : Registry} {page : Node} (h : Plain r page.children) :
    expandPage { registry := r } page = (page, { registry := r }) := by
  obtain ⟨kind, properties, content, children, state, line⟩ := page
  rw [expandPage_eq, Expansion.ofBody_eq, Expansion.ofNodes_eq_self children h]

/-- **Expansion is complete.** Below the root of an expanded page no marker is left, and every
usage that is left has been reported as recursive, by its kind and on its line. So a page for
which no recursive usage was reported is expanded for good: expanding the result leaves it alone
and reports nothing. And these are the only pages left alone: the ones with neither a marker nor a
usage below the root. -/
theorem Expander.expandPage_complete (r : Registry) (page : Node) :
    (∀ n ∈ Node.preorderAll (expandPage { registry := r } page).1.children,
      n.kind ≠ Node.slotKind
      ∧ ((r.get? n.kind).isSome → ∃ stack, (Finding.recursiveUsage n.kind stack).onLine n.line
          ∈ (expandPage { registry := r } page).2.diagnostics))
    ∧ ((∀ c stack line, (Finding.recursiveUsage c stack).onLine line
          ∉ (expandPage { registry := r } page).2.diagnostics) →
        expandPage { registry := r } (expandPage { registry := r } page).1
          = ((expandPage { registry := r } page).1, { registry := r }))
    ∧ (expandPage { registry := r } page = (page, { registry := r })
        ↔ ∀ n ∈ Node.preorderAll page.children, n.kind ≠ Node.slotKind ∧ r.get? n.kind = none) := by
  have hsettled : Settled r (expandPage { registry := r } page).2.diagnostics
      (expandPage { registry := r } page).1.children := by
    rw [expandPage_eq]
    exact Expansion.settled_ofBody r page.children
  refine ⟨hsettled, fun hnone => expandPage_eq_self (hsettled.plain hnone), fun h => ?_,
    expandPage_eq_self⟩
  rw [h] at hsettled
  exact hsettled.plain fun _ _ _ => List.not_mem_nil

end PageLang
