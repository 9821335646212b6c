import Mathlib.Data.List.Induction
import Mathlib.Logic.Relation
import PageLang.Proofs.Component.Activation

/-!
# Expansion loses no content

What a usage is given travels: its children are expanded where the usage stands, put together by
slot, and the groups go to the markers of the body, maybe as slot content of further usages.
Content is lost on the way only where a group meets no marker, and that is reported.

> `Expander.expandPage_keeps_content`: when nothing is reported, every plain node of a page is in
> the expanded page, and every group of slot content stands there in one piece.

`Shows ns ms` says that the nodes `ms` stand in one piece somewhere in `ns`. It is transitive, and
so a group is followed through any number of components by one lemma for a single one (`Fills`).
-/

namespace PageLang

/-! ## Nodes in one piece -/

mutual

/-- What is below a node of a tree is in the tree. -/
theorem Node.preorder_children_subset {m : Node} (n : Node) (h : m ∈ n.preorder) :
    Node.preorderAll m.children ⊆ n.preorder := by
  obtain ⟨kind, properties, content, children, state, line⟩ := n
  rw [Node.preorder] at h ⊢
  rcases List.mem_cons.mp h with rfl | h
  · exact List.subset_cons_self _ _
  · exact fun k hk => List.mem_cons_of_mem _ (Node.preorderAll_children_subset children h hk)

/-- What is below a node of a forest is in the forest. -/
theorem Node.preorderAll_children_subset {m : Node} (ns : List Node) (h : m ∈ Node.preorderAll ns) :
    Node.preorderAll m.children ⊆ Node.preorderAll ns := by
  match ns with
  | [] =>
    rw [Node.preorderAll] at h
    cases h
  | n :: ns =>
    rw [Node.preorderAll] at h ⊢
    rcases List.mem_append.mp h with h | h
    · exact fun k hk => List.mem_append_left _ (Node.preorder_children_subset n h hk)
    · exact fun k hk => List.mem_append_right _ (Node.preorderAll_children_subset ns h hk)

end

/-- The trees of a part of some nodes are among the trees of all of them. -/
theorem Node.preorderAll_subset_of_isInfix {ns ms : List Node} (h : ms <:+: ns) :
    Node.preorderAll ms ⊆ Node.preorderAll ns := by
  obtain ⟨before, after, rfl⟩ := h
  rw [Node.preorderAll_append, Node.preorderAll_append]
  exact fun k hk => List.mem_append_left _ (List.mem_append_right _ hk)

namespace Expansion

variable {r : Registry} {enter : List Scope → List Node → Expansion} {scopes : List Scope}
  {ns ms ks : List Node}

/-- Nodes stand in one piece, in their order and with nothing in between, among others or among
the children of one below them. -/
def Shows (ns ms : List Node) : Prop := ms <:+: ns ∨ ∃ n ∈ Node.preorderAll ns, ms <:+: n.children

theorem shows_of_isInfix (h : ms <:+: ns) : Shows ns ms := .inl h

theorem Shows.refl (ns : List Node) : Shows ns ns := shows_of_isInfix (List.infix_refl ns)

/-- What is shown occurs. -/
theorem Shows.subset (h : Shows ns ms) : Node.preorderAll ms ⊆ Node.preorderAll ns := by
  rcases h with h | ⟨n, hn, h⟩
  · exact Node.preorderAll_subset_of_isInfix h
  · exact fun k hk => Node.preorderAll_children_subset ns hn
      (Node.preorderAll_subset_of_isInfix h hk)

/-- What is shown by something shown is shown. -/
theorem Shows.trans (h : Shows ns ms) (h' : Shows ms ks) : Shows ns ks := by
  rcases h' with h' | ⟨m, hm, h'⟩
  · exact h.imp h'.trans fun ⟨n, hn, h⟩ => ⟨n, hn, h'.trans h⟩
  · exact .inr ⟨m, h.subset hm, h'⟩

/-- A node shows what its children show. -/
theorem shows_singleton {n : Node} (h : Shows n.children ms) : Shows [n] ms := by
  have hbelow : Node.preorderAll n.children ⊆ Node.preorderAll [n] :=
    Node.preorderAll_children_subset [n] (Node.mem_preorderAll_of_mem (List.mem_singleton_self n))
  rcases h with h | ⟨m, hm, h⟩
  · exact .inr ⟨n, Node.mem_preorderAll_of_mem (List.mem_singleton_self n), h⟩
  · exact .inr ⟨m, hbelow hm, h⟩

/-- Two expansions together show the first. -/
theorem shows_append_left (x y : Expansion) : Shows (x ++ y).nodes x.nodes :=
  shows_of_isInfix (List.prefix_append _ _).isInfix

/-- They also show the second. -/
theorem shows_append_right (x y : Expansion) : Shows (x ++ y).nodes y.nodes :=
  shows_of_isInfix (List.suffix_append _ _).isInfix

/-! ## Groups of slot content -/

theorem filled_append (x y : Expansion) : (x ++ y).filled = x.filled ++ y.filled := rfl

/-- The nodes that parts give for a slot, in the order of the parts. -/
def groupNodes (parts : List (String × Expansion)) (slot : String) : List Node :=
  (parts.filter (·.1 = slot)).flatMap fun part => part.2.nodes

/-- One part more is put behind the group of its slot. -/
theorem collect_concat (parts : List (String × Expansion)) (part : String × Expansion) :
    collect (parts ++ [part])
      = (collect parts).insert part.1 (((collect parts).get? part.1).getD {} ++ part.2) := by
  rw [collect, List.foldl_append]
  rfl

/-- The group of a slot holds what the parts for it give, one after the other. -/
theorem nodes_collect (parts : List (String × Expansion)) (slot : String) :
    (((collect parts).get? slot).getD {}).nodes = groupNodes parts slot := by
  -- The last part goes to the end of its group, so the induction is from the end.
  induction parts using List.reverseRecOn with
  | nil => rfl
  | append_singleton parts part ih =>
    have hgroup : groupNodes (parts ++ [part]) slot
        = groupNodes parts slot ++ if part.1 = slot then part.2.nodes else [] := by
      rw [groupNodes, List.filter_append, List.flatMap_append, groupNodes]
      by_cases h : part.1 = slot <;> simp [h]
    rw [collect_concat, OrderedMap.get?_insert, hgroup]
    by_cases h : slot = part.1
    · rw [if_pos h, if_pos h.symm, Option.getD_some, nodes_append, ← h, ih]
    · rw [if_neg h, if_neg fun e => h e.symm, ih, List.append_nil]

/-- The groups stand in the order of the first part of each. -/
theorem keys_collect (parts : List (String × Expansion)) :
    (collect parts).keys = (parts.map Prod.fst).eraseDups := by
  induction parts using List.reverseRecOn with
  | nil => rfl
  | append_singleton parts part ih =>
    rw [collect_concat, OrderedMap.keys_insert, List.map_append, List.eraseDups_append, ih]
    by_cases h : part.1 ∈ parts.map Prod.fst
    · rw [if_pos (List.mem_eraseDups.mpr h)]
      simp [List.removeAll, h]
    · rw [if_neg fun hmem => h (List.mem_eraseDups.mp hmem)]
      simp [List.removeAll, h, List.eraseDups_cons]

/-- There is a group for just the slots that some part asks for. -/
theorem mem_keys_collect {parts : List (String × Expansion)} {slot : String} :
    slot ∈ (collect parts).keys ↔ slot ∈ parts.map Prod.fst := by
  rw [keys_collect, List.mem_eraseDups]

/-- The scope of a usage has the groups that the parts make. -/
theorem get?_groups {parts : List (String × Expansion)} (slot : String) :
    ((collect parts).mapValues Expansion.nodes).get? slot
      = if slot ∈ parts.map Prod.fst then some (groupNodes parts slot) else none := by
  rw [OrderedMap.get?_mapValues, ← nodes_collect]
  cases hget : (collect parts).get? slot with
  | none =>
    rw [if_neg]
    · rfl
    · rw [← mem_keys_collect, ← OrderedMap.contains_iff, OrderedMap.contains, hget]
      exact Bool.false_ne_true
  | some x =>
    rw [if_pos]
    · rfl
    · rw [← mem_keys_collect, ← OrderedMap.contains_iff, OrderedMap.contains, hget]
      rfl

/-- A part stands in one piece in the group of its slot. -/
theorem infix_groupNodes {parts : List (String × Expansion)} {part : String × Expansion}
    (h : part ∈ parts) : part.2.nodes <:+: groupNodes parts part.1 := by
  have hmem : part ∈ parts.filter (·.1 = part.1) := List.mem_filter.mpr ⟨h, decide_eq_true rfl⟩
  obtain ⟨before, after, hparts⟩ := List.append_of_mem hmem
  rw [groupNodes, hparts, List.flatMap_append, List.flatMap_cons, ← List.append_assoc]
  exact ⟨_, _, rfl⟩

/-! ## Filled slots -/

/-- Every slot that an expansion fills is filled with a group of the scope, and the expansion
shows it. -/
def Places (scope : Scope) (x : Expansion) : Prop :=
  ∀ slot ∈ x.filled, ∃ group, scope.groups.get? slot = some group ∧ Shows x.nodes group

/-- Entering a body without a report shows the groups that it fills. -/
def Fills (enter : List Scope → List Node → Expansion) : Prop :=
  ∀ scope scopes nodes, (enter (scope :: scopes) nodes).diagnostics = [] →
    Places scope (enter (scope :: scopes) nodes)

/-- Two expansions together place what either places. -/
theorem Places.append {scope : Scope} {x y : Expansion} (hx : Places scope x)
    (hy : Places scope y) : Places scope (x ++ y) := by
  intro slot hslot
  rw [filled_append] at hslot
  rcases List.mem_append.mp hslot with hslot | hslot
  · obtain ⟨group, hget, hshows⟩ := hx slot hslot
    exact ⟨group, hget, (shows_append_left x y).trans hshows⟩
  · obtain ⟨group, hget, hshows⟩ := hy slot hslot
    exact ⟨group, hget, (shows_append_right x y).trans hshows⟩

/-- A marker without a group gives its own children. -/
theorem ofMarker_default {marker : Node} {default : Unit → Expansion}
    (h : takesDefault marker scopes = true) : ofMarker scopes marker default = default () := by
  cases scopes with
  | nil => cases h
  | cons scope scopes =>
    rw [takesDefault, Option.isNone_iff_eq_none] at h
    rw [ofMarker, h]

/-- A usage reports nothing only if its groups and its body do not, and every group was filled
in. -/
theorem silent_of_usage {c : Component} {usage : Node} {groups : OrderedMap Expansion}
    (h : (ofUsage enter scopes c usage groups).diagnostics = []) :
    (groups.entries.flatMap fun e => e.2.diagnostics) = []
    ∧ (enter (Activation.ofUsage scopes c usage groups).scopes
        (Activation.ofUsage scopes c usage groups).nodes).diagnostics = []
    ∧ ∀ slot ∈ groups.keys, slot ∈ (enter (Activation.ofUsage scopes c usage groups).scopes
        (Activation.ofUsage scopes c usage groups).nodes).filled := by
  unfold ofUsage at h
  simp only [List.append_eq_nil_iff, List.flatMap_map, List.map_eq_nil_iff, List.filter_eq_nil_iff,
    decide_eq_true_eq, not_not] at h
  obtain ⟨⟨⟨hgroups, -⟩, hbody⟩, hfilled⟩ := h
  exact ⟨hgroups, hbody, hfilled⟩

section Usage

variable {c : Component} {usage : Node} {parts : List (String × Expansion)} (henter : Fills enter)
  (h : (ofUsage enter scopes c usage (collect parts)).diagnostics = [])
include h

/-- If nothing is reported of a usage, nothing is reported of its children. -/
theorem silent_part {part : String × Expansion} (hpart : part ∈ parts) :
    part.2.diagnostics = [] := by
  refine List.eq_nil_iff_forall_not_mem.mpr fun d hd => ?_
  have hmem : d ∈ (collect parts).entries.flatMap fun e => e.2.diagnostics := by
    rw [mem_flatMap_collect rfl diagnostics_append]
    exact List.mem_flatMap.mpr ⟨part, hpart, hd⟩
  rw [(silent_of_usage h).1] at hmem
  cases hmem

include henter

/-- A usage without a report shows each of its groups. -/
theorem shows_group {slot : String} (hslot : slot ∈ parts.map Prod.fst) :
    Shows (ofUsage enter scopes c usage (collect parts)).nodes (groupNodes parts slot) := by
  obtain ⟨-, hbody, hfilled⟩ := silent_of_usage h
  obtain ⟨group, hget, hshows⟩ :=
    henter _ _ _ hbody slot (hfilled slot (mem_keys_collect.mpr hslot))
  have hgroup : ((collect parts).mapValues Expansion.nodes).get? slot = some group := hget
  rw [get?_groups, if_pos hslot] at hgroup
  rw [Option.some.inj hgroup]
  exact hshows

/-- So it shows what each of its children gives. -/
theorem shows_part {part : String × Expansion} (hpart : part ∈ parts) :
    Shows (ofUsage enter scopes c usage (collect parts)).nodes part.2.nodes :=
  (shows_group henter h (List.mem_map_of_mem hpart)).trans
    (shows_of_isInfix (infix_groupNodes hpart))

/-- What the children fill is placed by the usage. -/
theorem Places.ofUsage {scope : Scope} (hparts : ∀ part ∈ parts, Places scope part.2) :
    Places scope (Expansion.ofUsage enter scopes c usage (collect parts)) := by
  intro slot hslot
  have hmem : slot ∈ (collect parts).entries.flatMap fun e => e.2.filled := by
    rw [← List.flatMap_map Prod.snd Expansion.filled]
    exact hslot
  rw [mem_flatMap_collect rfl filled_append] at hmem
  obtain ⟨part, hpart, hfilled⟩ := List.mem_flatMap.mp hmem
  obtain ⟨group, hget, hshows⟩ := hparts part hpart slot hfilled
  exact ⟨group, hget, (shows_part henter h hpart).trans hshows⟩

end Usage

mutual

/-- Expanding a node without a report shows every group that it fills. -/
theorem places_ofNode (henter : Fills enter) {scope : Scope} {prepare : Node → Node} (n : Node)
    (h : (ofNode r enter (scope :: scopes) prepare n).diagnostics = []) :
    Places scope (ofNode r enter (scope :: scopes) prepare n) := by
  obtain ⟨kind, properties, content, children, state, line⟩ := n
  rw [ofNode_eq] at h ⊢
  cases hrole :
    role r (scope :: scopes) (prepare ⟨kind, properties, content, children, state, line⟩) with
  | marker =>
    simp only [hrole, ofMarker] at h ⊢
    cases hgroup :
      scope.groups.get? (prepare ⟨kind, properties, content, children, state, line⟩).slotName with
    | none =>
      simp only [hgroup] at h ⊢
      exact places_ofNodes henter children h
    | some group =>
      simp only
      intro slot hslot
      rw [List.mem_singleton.mp hslot]
      exact ⟨group, hgroup, .refl _⟩
  | plain =>
    simp only [hrole] at h ⊢
    intro slot hslot
    obtain ⟨group, hget, hshows⟩ := places_ofNodes henter children h slot hslot
    exact ⟨group, hget, shows_singleton hshows⟩
  | recursive =>
    simp only [hrole] at h
    cases h
  | usage c =>
    simp only [hrole] at h ⊢
    exact .ofUsage henter h fun part hpart => places_ofChildren henter children part hpart
      (silent_part h hpart)

/-- Expanding nodes without a report shows the groups that are filled in. -/
theorem places_ofNodes (henter : Fills enter) {scope : Scope} (ns : List Node)
    (h : (ofNodes r enter (scope :: scopes) ns).diagnostics = []) :
    Places scope (ofNodes r enter (scope :: scopes) ns) := by
  match ns with
  | [] =>
    rw [ofNodes]
    exact fun slot hslot => absurd hslot List.not_mem_nil
  | n :: ns =>
    rw [ofNodes] at h ⊢
    obtain ⟨hn, hns⟩ := List.append_eq_nil_iff.mp h
    exact (places_ofNode henter n hn).append (places_ofNodes henter ns hns)

/-- So does expanding each child of a usage. -/
theorem places_ofChildren (henter : Fills enter) {scope : Scope} (ns : List Node)
    (part : String × Expansion) (hpart : part ∈ ofChildren r enter (scope :: scopes) ns)
    (h : part.2.diagnostics = []) : Places scope part.2 := by
  match ns with
  | [] =>
    rw [ofChildren] at hpart
    cases hpart
  | n :: ns =>
    rw [ofChildren] at hpart
    rcases List.mem_cons.mp hpart with rfl | hpart
    · exact places_ofNode henter n h
    · exact places_ofChildren henter ns part hpart h

end

/-- Bodies inside bodies show what they fill, by induction on how often they may lie inside one
another. -/
theorem fills_within (r : Registry) (n : Nat) : Fills (within r n) := by
  induction n with
  | zero => exact fun scope scopes nodes _ slot hslot => absurd hslot List.not_mem_nil
  | succ n ih => exact fun scope scopes nodes h => places_ofNodes ih nodes h

/-- The expander's own way to enter a body shows the groups that it fills. -/
theorem fills_ofBody (r : Registry) : Fills (ofBody r) := fills_within r (r.definitions.length + 1)

/-! ## What a page keeps -/

/-- The content that a usage has for a slot: those of its children that ask for the slot, in their
order, each expanded where the usage stands. -/
def slotContent (r : Registry) (enter : List Scope → List Node → Expansion) (scopes : List Scope)
    (usage : Node) (slot : String) : List Node :=
  (usage.children.filter (slotOf · = slot)).flatMap fun child =>
    (ofNode r enter scopes withoutSlot child).nodes

/-- The group of a slot is made of the children that ask for it, each expanded where the usage
stands. -/
theorem groupNodes_ofChildren (slot : String) (children : List Node) :
    groupNodes (ofChildren r enter scopes children) slot
      = (children.filter (slotOf · = slot)).flatMap
          fun child => (ofNode r enter scopes withoutSlot child).nodes := by
  induction children with
  | nil => rw [ofChildren]; rfl
  | cons child children ih =>
    rw [ofChildren, groupNodes]
    by_cases h : slotOf child = slot
    · rw [List.filter_cons_of_pos (by simpa using h), List.filter_cons_of_pos (by simpa using h),
        List.flatMap_cons, List.flatMap_cons, ← ih]
      rfl
    · rw [List.filter_cons_of_neg (by simpa using h),
        List.filter_cons_of_neg (by simpa using h), ← ih]
      rfl

/-- Every child is filed under the slot that it asks for. -/
theorem slots_ofChildren (children : List Node) :
    (ofChildren r enter scopes children).map Prod.fst = children.map slotOf := by
  induction children with
  | nil => rw [ofChildren]; rfl
  | cons child children ih => rw [ofChildren, List.map_cons, List.map_cons, ih]

/-- A usage without a report shows its content for every slot. -/
theorem shows_slotContent {c : Component} {usage n : Node} (henter : Fills enter)
    (h : (ofUsage enter scopes c usage (collect (ofChildren r enter scopes n.children))).diagnostics
      = [])
    (slot : String) :
    Shows (ofUsage enter scopes c usage (collect (ofChildren r enter scopes n.children))).nodes
      (slotContent r enter scopes n slot) := by
  rw [slotContent, ← groupNodes_ofChildren]
  by_cases hslot : slot ∈ (ofChildren r enter scopes n.children).map Prod.fst
  · exact shows_group henter h hslot
  · have hnone : (ofChildren r enter scopes n.children).filter (·.1 = slot) = [] := by
      refine List.filter_eq_nil_iff.mpr fun part hpart heq => hslot ?_
      rw [← of_decide_eq_true heq]
      exact List.mem_map_of_mem hpart
    rw [groupNodes, hnone]
    exact shows_of_isInfix List.nil_infix

/-- A node without what is below it. -/
def bare (n : Node) : Node := { n with children := [] }

/-- A node is neither a marker nor a usage. -/
def IsPlain (r : Registry) (n : Node) : Prop := n.kind ≠ Node.slotKind ∧ r.get? n.kind = none

/-- A node as it stands below a parent: a usage takes the property by which its child asks for a
slot. -/
def passed (r : Registry) (parent n : Node) : Node :=
  if (r.get? parent.kind).isSome then withoutSlot n else n

/-- A node occurs among others, whatever is below it there. -/
def Occurs (ns : List Node) (n : Node) : Prop := ∃ m ∈ Node.preorderAll ns, bare m = bare n

/-- What is below some nodes of a page is kept: the plain children of each of them, and in one
piece the content that a usage among them has for a slot. -/
structure Keeps (r : Registry) (enter : List Scope → List Node → Expansion) (ns ms : List Node) :
    Prop where
  child : ∀ parent ∈ ns, ∀ n ∈ parent.children, IsPlain r n → Occurs ms (passed r parent n)
  group : ∀ usage ∈ ns, usage.kind ≠ Node.slotKind → (r.get? usage.kind).isSome →
    ∀ slot, Shows ms (slotContent r enter [] usage slot)

/-- What occurs in something shown occurs. -/
theorem Shows.occurs {n : Node} (h : Shows ns ms) (hn : Occurs ms n) : Occurs ns n := by
  obtain ⟨m, hm, hbare⟩ := hn
  exact ⟨m, h.subset hm, hbare⟩

/-- What is kept by some nodes is kept by all that show them. -/
theorem Keeps.mono (h : Keeps r enter ks ms) (hshows : Shows ns ms) : Keeps r enter ks ns where
  child parent hparent n hn hplain := hshows.occurs (h.child parent hparent n hn hplain)
  group usage husage hslot hsome slot := hshows.trans (h.group usage husage hslot hsome slot)

theorem Keeps.nil : Keeps r enter [] ms where
  child _ hparent := absurd hparent List.not_mem_nil
  group _ husage := absurd husage List.not_mem_nil

/-- One node more is kept if its plain children occur and its groups are shown. -/
theorem Keeps.cons {n : Node} (hchild : ∀ k ∈ n.children, IsPlain r k → Occurs ms (passed r n k))
    (hgroup : n.kind ≠ Node.slotKind → (r.get? n.kind).isSome →
      ∀ slot, Shows ms (slotContent r enter [] n slot))
    (h : Keeps r enter ks ms) : Keeps r enter (n :: ks) ms where
  child := List.forall_mem_cons.mpr ⟨hchild, h.child⟩
  group := List.forall_mem_cons.mpr ⟨hgroup, h.group⟩

/-- What is below two lists of nodes is kept if it is for each. -/
theorem Keeps.append {ls : List Node} (hks : Keeps r enter ks ms) (hls : Keeps r enter ls ms) :
    Keeps r enter (ks ++ ls) ms where
  child := List.forall_mem_append.mpr ⟨hks.child, hls.child⟩
  group := List.forall_mem_append.mpr ⟨hks.group, hls.group⟩

/-- Whether a node is plain depends on its kind alone. -/
theorem isPlain_congr {n m : Node} (h : n.kind = m.kind) : IsPlain r n ↔ IsPlain r m := by
  rw [IsPlain, IsPlain, h]

mutual

/-- A node of a page is kept as it was prepared, and so is all below it; under the empty stack,
where every marker is reported. -/
theorem keeps_ofNode (henter : Fills enter) {prepare : Node → Node}
    (hkind : ∀ n, (prepare n).kind = n.kind) (n : Node)
    (h : (ofNode r enter [] prepare n).diagnostics = []) :
    (IsPlain r n → Occurs (ofNode r enter [] prepare n).nodes (prepare n))
    ∧ Keeps r enter n.preorder (ofNode r enter [] prepare n).nodes := by
  obtain ⟨kind, properties, content, children, state, line⟩ := n
  rw [ofNode_eq] at h ⊢
  rw [← isPlain_congr (hkind _), Node.preorder]
  have hget : r.get? (prepare ⟨kind, properties, content, children, state, line⟩).kind
      = r.get? kind := by
    rw [hkind]
  cases hrole : role r [] (prepare ⟨kind, properties, content, children, state, line⟩) with
  | marker =>
    simp only [hrole] at h
    cases h
  | recursive =>
    simp only [hrole] at h
    cases h
  | plain =>
    simp only [hrole] at h ⊢
    obtain ⟨hslot, hnone⟩ := get?_of_plain hrole
    rw [hget] at hnone
    obtain ⟨htop, hbelow⟩ := keeps_ofNodes henter children h
    have hshows : Shows (ofPlain (prepare ⟨kind, properties, content, children, state, line⟩)
        (ofNodes r enter [] children)).nodes (ofNodes r enter [] children).nodes :=
      shows_singleton (.refl _)
    refine ⟨fun _ => ⟨_, Node.mem_preorderAll_of_mem (List.mem_singleton_self _), rfl⟩, .cons ?_ ?_
      (hbelow.mono hshows)⟩
    · intro k hk hplain
      rw [passed, hnone]
      exact hshows.occurs (htop k hk hplain)
    · intro _ hsome
      rw [hnone] at hsome
      cases hsome
  | usage c =>
    simp only [hrole] at h ⊢
    -- The children go to the body in groups, and each group was filled in, or else it would be
    -- reported.
    obtain ⟨-, hsome, -⟩ := get?_of_usage hrole
    obtain ⟨hkept, hbelow⟩ :=
      keeps_ofChildren henter children (fun part hpart => silent_part h hpart)
      fun part hpart => shows_part henter h hpart
    refine ⟨fun hplain => ?_, .cons ?_ (fun _ _ => shows_slotContent henter h) hbelow⟩
    · rw [hplain.2] at hsome
      cases hsome
    · intro k hk hplain
      rw [passed, ← hget, hsome]
      exact hkept k hk hplain

/-- Expanding the nodes of a page without a report keeps them and what is below them. -/
theorem keeps_ofNodes (henter : Fills enter) (ns : List Node)
    (h : (ofNodes r enter [] ns).diagnostics = []) :
    (∀ n ∈ ns, IsPlain r n → Occurs (ofNodes r enter [] ns).nodes n)
    ∧ Keeps r enter (Node.preorderAll ns) (ofNodes r enter [] ns).nodes := by
  match ns with
  | [] =>
    rw [Node.preorderAll]
    exact ⟨fun n hn => absurd hn List.not_mem_nil, .nil⟩
  | n :: ns =>
    rw [ofNodes] at h ⊢
    rw [Node.preorderAll]
    obtain ⟨hn, hns⟩ := List.append_eq_nil_iff.mp h
    obtain ⟨hself, hbelow⟩ := keeps_ofNode henter (fun _ => rfl) n hn
    obtain ⟨hothers, hbelow'⟩ := keeps_ofNodes henter ns hns
    refine ⟨List.forall_mem_cons.mpr ⟨fun hplain => ?_, fun k hk hplain => ?_⟩,
      (hbelow.mono (shows_append_left _ _)).append (hbelow'.mono (shows_append_right _ _))⟩
    · exact (shows_append_left _ _).occurs (hself hplain)
    · exact (shows_append_right _ _).occurs (hothers k hk hplain)

/-- Each child of a usage on a page is kept in the part that it makes. -/
theorem keeps_ofChildren (henter : Fills enter) (ns : List Node)
    (h : ∀ part ∈ ofChildren r enter [] ns, part.2.diagnostics = []) {ms : List Node}
    (hms : ∀ part ∈ ofChildren r enter [] ns, Shows ms part.2.nodes) :
    (∀ n ∈ ns, IsPlain r n → Occurs ms (withoutSlot n))
      ∧ Keeps r enter (Node.preorderAll ns) ms := by
  match ns with
  | [] =>
    rw [Node.preorderAll]
    exact ⟨fun n hn => absurd hn List.not_mem_nil, .nil⟩
  | n :: ns =>
    rw [ofChildren] at h hms
    rw [Node.preorderAll]
    obtain ⟨hn, hns⟩ := List.forall_mem_cons.mp h
    obtain ⟨hshows, hothers⟩ := List.forall_mem_cons.mp hms
    obtain ⟨hself, hbelow⟩ := keeps_ofNode henter kind_withoutSlot n hn
    obtain ⟨hkept, hbelow'⟩ := keeps_ofChildren henter ns hns hothers
    refine ⟨List.forall_mem_cons.mpr ⟨fun hplain => ?_, hkept⟩, (hbelow.mono hshows).append hbelow'⟩
    exact hshows.occurs (hself hplain)

end

/-! ## Inside bodies -/

/-- What entering a body gives is shown by the nodes `ms`, and so is the content that the usage
has for each of its slots: the usage is one of the nodes `ns`, and its content is what the body
finds on the stack. -/
structure Given (r : Registry) (enter : List Scope → List Node → Expansion) (scopes : List Scope)
    (ns ms : List Node) (a : Activation) : Prop where
  silent : (enter a.scopes a.nodes).diagnostics = []
  body : Shows ms (enter a.scopes a.nodes).nodes
  content : ∃ usage ∈ ns, ∃ scope, a.scopes = scope :: scopes
    ∧ scope.component = usage.kind ∧ scope.line = usage.line
    ∧ ∀ slot, scope.groups.get? slot
          = (if slot ∈ usage.children.map slotOf then some (slotContent r enter scopes usage slot)
            else none)
      ∧ Shows ms (slotContent r enter scopes usage slot)

/-- What is given stays given among more usages, and where more is shown. -/
theorem Given.mono {ls : List Node} {a : Activation} (h : Given r enter scopes ns ms a)
    (hsub : ns ⊆ ls) (hshows : Shows ks ms) : Given r enter scopes ls ks a where
  silent := h.silent
  body := hshows.trans h.body
  content := by
    obtain ⟨usage, husage, scope, hscopes, hname, hline, hslots⟩ := h.content
    refine ⟨usage, hsub husage, scope, hscopes, hname, hline, fun slot => ?_⟩
    exact ⟨(hslots slot).1, hshows.trans (hslots slot).2⟩

/-- A usage without a report gives its content to the body that it enters. -/
theorem given_ofUsage (henter : Fills enter) {c : Component} {usage n : Node}
    (hname : c.name = n.kind) (hline : usage.line = n.line)
    (h : (ofUsage enter scopes c usage (collect (ofChildren r enter scopes n.children))).diagnostics
      = []) :
    Given r enter scopes [n]
      (ofUsage enter scopes c usage (collect (ofChildren r enter scopes n.children))).nodes
      (.ofUsage scopes c usage (collect (ofChildren r enter scopes n.children))) where
  silent := (silent_of_usage h).2.1
  body := .refl _
  content := by
    refine ⟨n, List.mem_singleton_self n, _, rfl, hname, hline,
      fun slot => ⟨?_, shows_slotContent henter h slot⟩⟩
    rw [get?_groups, slots_ofChildren, groupNodes_ofChildren]
    rfl

mutual

/-- Every body that is entered under a node is given by a usage in the node. -/
theorem given_of_mem_node (henter : Fills enter) {prepare : Node → Node}
    (hprepare : ∀ n, (prepare n).kind = n.kind ∧ (prepare n).line = n.line) (n : Node)
    (h : (ofNode r enter scopes prepare n).diagnostics = []) {a : Activation}
    (ha : a ∈ enteredByNode r enter scopes prepare n) :
    Given r enter scopes n.preorder (ofNode r enter scopes prepare n).nodes a := by
  obtain ⟨kind, properties, content, children, state, line⟩ := n
  have hbelow :
      Node.preorderAll children ⊆ Node.preorder ⟨kind, properties, content, children, state,
          line⟩ := by
    rw [Node.preorder]
    exact List.subset_cons_self _ _
  rw [ofNode_eq] at h ⊢
  rw [enteredByNode] at ha
  cases hrole : role r scopes (prepare ⟨kind, properties, content, children, state, line⟩) with
  | marker =>
    simp only [hrole] at h ha ⊢
    split at ha
    · -- The walk goes on below a marker only where the marker gives way to its own children.
      next hdefault =>
      rw [ofMarker_default hdefault] at h ⊢
      exact (given_of_mem_nodes henter children h ha).mono hbelow (.refl _)
    · cases ha
  | plain =>
    simp only [hrole] at h ha ⊢
    exact (given_of_mem_nodes henter children h ha).mono hbelow
      (shows_singleton (.refl _))
  | recursive =>
    simp only [hrole] at h
    cases h
  | usage c =>
    simp only [hrole] at h ha ⊢
    rcases List.mem_append.mp ha with ha | ha
    · exact (given_of_mem_children henter children (fun part hpart => silent_part h hpart)
        (fun part hpart => shows_part henter h hpart) ha).mono hbelow (.refl _)
    · have hname := name_of_get? (get?_of_usage hrole).2.1
      rw [(hprepare _).1] at hname
      rw [List.mem_singleton.mp ha, Node.preorder]
      exact (given_ofUsage (n := ⟨kind, properties, content, children, state, line⟩) henter hname
        (hprepare _).2 h).mono
        (List.cons_subset_cons _ (List.nil_subset _)) (.refl _)

/-- Whatever body the expansion of nodes enters, if nothing is reported, it is given its content. -/
theorem given_of_mem_nodes (henter : Fills enter) (ns : List Node)
    (h : (ofNodes r enter scopes ns).diagnostics = []) {a : Activation}
    (ha : a ∈ enteredByNodes r enter scopes ns) :
    Given r enter scopes (Node.preorderAll ns) (ofNodes r enter scopes ns).nodes a := by
  match ns with
  | [] =>
    rw [enteredByNodes] at ha
    cases ha
  | n :: ns =>
    rw [enteredByNodes] at ha
    rw [ofNodes] at h ⊢
    rw [Node.preorderAll]
    obtain ⟨hn, hns⟩ := List.append_eq_nil_iff.mp h
    rcases List.mem_append.mp ha with ha | ha
    · exact (given_of_mem_node henter (fun _ => ⟨rfl, rfl⟩) n hn ha).mono
        (List.subset_append_left _ _)
        (shows_append_left _ _)
    · exact (given_of_mem_nodes henter ns hns ha).mono (List.subset_append_right _ _)
        (shows_append_right _ _)

/-- Every body that is entered under the children of a usage is given by a usage among them. -/
theorem given_of_mem_children (henter : Fills enter) (ns : List Node)
    (h : ∀ part ∈ ofChildren r enter scopes ns, part.2.diagnostics = []) {ms : List Node}
    (hms : ∀ part ∈ ofChildren r enter scopes ns, Shows ms part.2.nodes) {a : Activation}
    (ha : a ∈ enteredByChildren r enter scopes ns) :
    Given r enter scopes (Node.preorderAll ns) ms a := by
  match ns with
  | [] =>
    rw [enteredByChildren] at ha
    cases ha
  | n :: ns =>
    rw [enteredByChildren] at ha
    rw [ofChildren] at h hms
    rw [Node.preorderAll]
    obtain ⟨hn, hns⟩ := List.forall_mem_cons.mp h
    obtain ⟨hshows, hothers⟩ := List.forall_mem_cons.mp hms
    have hprepare (k : Node) : (withoutSlot k).kind = k.kind ∧ (withoutSlot k).line = k.line :=
      ⟨rfl, rfl⟩
    rcases List.mem_append.mp ha with ha | ha
    · exact (given_of_mem_node henter hprepare n hn ha).mono (List.subset_append_left _ _) hshows
    · exact (given_of_mem_children henter ns hns hothers ha).mono (List.subset_append_right _ _)
        (.refl _)

end

/-- One step into a body: an expansion without a report gives the body its content. -/
theorem given_of_enters {caller callee : Activation}
    (h : (ofBody r caller.scopes caller.nodes).diagnostics = [])
    (henters : Enters r caller callee) :
    Given r (ofBody r) caller.scopes (Node.preorderAll caller.nodes)
      (ofBody r caller.scopes caller.nodes).nodes
      callee := by
  rw [ofBody_eq] at h ⊢
  exact given_of_mem_nodes (fills_ofBody r) caller.nodes h henters

/-- A body at any depth reports nothing either, and what it gives is shown at the top. -/
theorem shows_of_reaches {top caller : Activation}
    (h : (ofBody r top.scopes top.nodes).diagnostics = [])
    (hreaches : Relation.ReflTransGen (Enters r) top caller) :
    (ofBody r caller.scopes caller.nodes).diagnostics = []
    ∧ Shows (ofBody r top.scopes top.nodes).nodes (ofBody r caller.scopes caller.nodes).nodes := by
  induction hreaches with
  | refl => exact ⟨h, .refl _⟩
  | tail _ henters ih =>
    have hgiven := given_of_enters ih.1 henters
    exact ⟨hgiven.silent, ih.2.trans hgiven.body⟩

end Expansion

/-- **Expansion loses no content silently.** When the expansion of a page reports nothing, every
plain node of the page, at any depth, is in the expanded page as it was, less the property by
which a child of a usage asked for a slot. The content that a usage has for a slot stands in the
expanded page in one piece: for the usages of the page, and for those in every body that is
entered on the way, whose scope holds the content. -/
theorem Expander.expandPage_keeps_content (r : Registry) (page : Node)
    (h : (Expander.expandPage { registry := r } page).2.diagnostics = []) :
    let expanded := (Expander.expandPage { registry := r } page).1.children
    Expansion.bare (Expander.expandPage { registry := r } page).1 = Expansion.bare page
    ∧ (∀ n ∈ page.children, Expansion.IsPlain r n → Expansion.Occurs expanded n)
    ∧ (∀ parent ∈ Node.preorderAll page.children, ∀ n ∈ parent.children, Expansion.IsPlain r n →
        Expansion.Occurs expanded (Expansion.passed r parent n))
    ∧ (∀ usage ∈ Node.preorderAll page.children, usage.kind ≠ Node.slotKind →
      (r.get? usage.kind).isSome →
        ∀ slot, Expansion.Shows expanded
          (Expansion.slotContent r (Expansion.ofBody r) [] usage slot))
    ∧ ∀ caller callee, Relation.ReflTransGen (Expansion.Enters r) ⟨[], page.children⟩ caller →
        Expansion.Enters r caller callee →
        ∃ usage ∈ Node.preorderAll caller.nodes, ∃ scope, callee.scopes = scope :: caller.scopes
          ∧ scope.component = usage.kind ∧ scope.line = usage.line
          ∧ ∀ slot, scope.groups.get? slot
                = (if slot ∈ usage.children.map Expansion.slotOf
                  then
                    some (Expansion.slotContent r (Expansion.ofBody r) caller.scopes usage slot)
                  else none)
            ∧ Expansion.Shows expanded
                (Expansion.slotContent r (Expansion.ofBody r) caller.scopes usage slot) := by
  rw [Expander.expandPage_eq] at h ⊢
  have hsilent : (Expansion.ofNodes r (Expansion.ofBody r) [] page.children).diagnostics = [] := by
    rw [← Expansion.ofBody_eq]
    exact h
  obtain ⟨htop, hbelow⟩ := Expansion.keeps_ofNodes (Expansion.fills_ofBody r) page.children hsilent
  rw [← Expansion.ofBody_eq] at htop hbelow
  refine ⟨rfl, htop, hbelow.child, hbelow.group, fun caller callee hreaches henters => ?_⟩
  obtain ⟨hcaller, hshows⟩ := Expansion.shows_of_reaches h hreaches
  obtain ⟨usage, husage, scope, hscopes, hname, hline, hslots⟩ :=
    (Expansion.given_of_enters hcaller henters).content
  refine ⟨usage, husage, scope, hscopes, hname, hline, fun slot => ⟨(hslots slot).1, ?_⟩⟩
  exact hshows.trans (hslots slot).2

/-- Content that goes through two components, with a usage inside it. -/
theorem Expander.expandPage_keeps_content_nested :
    let panel : Component := { name := "Panel", parameters := [], line := 1, body := [
      { kind := "Box", line := 2, children := [
        { kind := "Slot", properties := .ofList [("name", "head")], line := 3 },
        { kind := "Slot", line := 4 }] }] }
    let card : Component := { name := "Card", parameters := [], line := 5, body := [
      { kind := "Panel", line := 6, children := [
        { kind := "Slot", properties := .ofList [("name", "title"), ("slot", "head")], line := 7 },
        { kind := "Slot", line := 8 }] }] }
    let title : Node :=
      { kind := "Text", properties := .ofList [("slot", "title")], content := "A", line := 11 }
    let usage : Node := { kind := "Card", line := 10, children := [title,
      { kind := "Panel", line := 12, children := [{ kind := "Text", content := "B", line := 13 }] },
      { kind := "Text", content := "C", line := 14 }] }
    let page : Node := { kind := "Page", line := 9, children := [usage] }
    let r : Registry := (Registry.empty.register panel).register card
    (Expander.expandPage { registry := r } page).2.diagnostics = []
    ∧ Expansion.Occurs (Expander.expandPage { registry := r } page).1.children
      (Expansion.withoutSlot title)
    ∧ Expansion.Shows (Expander.expandPage { registry := r } page).1.children
        (Expansion.slotContent r (Expansion.ofBody r) [] usage "default")
    ∧ (Node.preorderAll (Expansion.slotContent r (Expansion.ofBody r) [] usage "default")).map
      Node.line
        = [2, 13, 14] := by
  intro panel card title usage page r
  have hsilent : (Expander.expandPage { registry := r } page).2.diagnostics = [] := by
    decide +kernel
  have husage : usage ∈ Node.preorderAll page.children :=
    Node.mem_preorderAll_of_mem (List.mem_singleton_self _)
  have hsome : (r.get? usage.kind).isSome = true := by decide +kernel
  have hplain : title.kind ≠ Node.slotKind ∧ (r.get? title.kind).isNone = true := by decide +kernel
  obtain ⟨-, -, hchild, hgroup, -⟩ := Expander.expandPage_keeps_content r page hsilent
  have htitle := hchild usage husage title (List.mem_cons_self ..)
    ⟨hplain.1, Option.isNone_iff_eq_none.mp hplain.2⟩
  rw [Expansion.passed, if_pos hsome] at htitle
  exact ⟨hsilent, htitle, hgroup usage husage (by decide +kernel) hsome "default",
    by decide +kernel⟩

end PageLang
