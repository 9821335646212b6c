import PageLang.Proofs.Template.Direct

/-!
# Where a node stands in the markup

A walk over trees gets to a node through the nodes above it that are open. With the nodes whose
children are shown at all this is the walk that makes the template, and with the nodes whose
children show in a state it is what one sees of the page in that state.

> `Lowering.infix_of_reaches`: the steps of a node that is got to stand among those of the page.
> `Direct.within_of_reaches`: the markup of a node that is seen stands in the markup of the page.

That nothing else is walked is `Lowering.node_of_closed`: what is below a closed node is never
looked at.
-/

namespace PageLang

open Markup (Layout Within within_append_left within_append_right within_empty)

/-! ## Open nodes -/

/-- A condition holds if it has a value and that is truthy. -/
theorem Expr.holds_iff {s : State} {e : Expr} :
    e.holds s = true ↔ ∃ v, e.evaluate s = .ok v ∧ v.isTruthy = true := by
  unfold Expr.holds
  split
  · next v hvalue => simp [hvalue]
  · next error hvalue => simp [hvalue]

namespace Node

/-- A walk that goes on below the open nodes gets from some trees to a node. -/
inductive Reaches (opens : Node → Prop) : List Node → Node → Prop where
  | top {ns : List Node} {n : Node} : n ∈ ns → Reaches opens ns n
  | inside {ns : List Node} {m n : Node} : m ∈ ns → opens m → Reaches opens m.children n →
    Reaches opens ns n

/-- The children of a node show in a state: it has a place for them, and if that is under a
condition, the condition is evaluated to a value that counts as true. -/
def OpensIn (s : State) (n : Node) : Prop :=
  n.showsChildren = true ∧ (n.element = .conditional →
    ∃ condition v, n.condition = .ok condition ∧ condition.evaluate s = .ok v ∧ v.isTruthy = true)

instance (s : State) (n : Node) : Decidable (OpensIn s n) :=
  decidable_of_iff (n.showsChildren = true ∧ (n.element = .conditional →
      (match n.condition with
        | .ok condition => condition.holds s
        | .error _ => false) = true)) <| by
    refine and_congr_right fun _ => forall_congr' fun _ => ?_
    cases n.condition with
    | error e => simp
    | ok condition => simp [Expr.holds_iff]

variable {opens : Node → Prop} {ns ms : List Node} {n : Node}

theorem Reaches.of_subset (h : Reaches opens ns n) (hsub : ns ⊆ ms) : Reaches opens ms n := by
  cases h with
  | top hmem => exact .top (hsub hmem)
  | inside hmem hopens hbelow => exact .inside (hsub hmem) hopens hbelow

mutual

/-- What is shown of a node is the node, or reached through children that it shows. -/
theorem reaches_of_mem_shown (m : Node) (h : n ∈ m.shown) :
    n = m ∨ (m.showsChildren = true ∧ Reaches (fun m => m.showsChildren = true) m.children n) := by
  obtain ⟨kind, properties, content, children, state, line⟩ := m
  rw [shown] at h
  rcases List.mem_cons.mp h with h | h
  · exact .inl h
  · split at h
    · next hopens => exact .inr ⟨hopens, reaches_of_mem_shownAll children h⟩
    · cases h

/-- What is shown is reached through nodes that show their children. -/
theorem reaches_of_mem_shownAll (ms : List Node) (h : n ∈ shownAll ms) :
    Reaches (fun m => m.showsChildren = true) ms n := by
  match ms with
  | [] =>
    rw [shownAll] at h
    cases h
  | m :: ms =>
    rw [shownAll] at h
    rcases List.mem_append.mp h with h | h
    · rcases reaches_of_mem_shown m h with rfl | ⟨hopens, hbelow⟩
      · exact .top (List.mem_cons_self ..)
      · exact .inside (List.mem_cons_self ..) hopens hbelow
    · exact (reaches_of_mem_shownAll ms h).of_subset (List.subset_cons_self _ _)

end

theorem shown_subset_shownAll {m : Node} (h : m ∈ ms) : m.shown ⊆ shownAll ms := by
  induction ms with
  | nil => cases h
  | cons k ms ih =>
    rw [shownAll]
    rcases List.mem_cons.mp h with rfl | h
    · exact List.subset_append_left _ _
    · exact fun x hx => List.mem_append_right _ (ih h hx)

theorem shown_eq (m : Node) :
    m.shown = m :: if m.showsChildren then shownAll m.children else [] := by
  obtain ⟨kind, properties, content, children, state, line⟩ := m
  rw [shown]

/-- The nodes that are listed as shown are those that the walk over the template gets to. -/
theorem mem_shownAll_iff : n ∈ shownAll ns ↔ Reaches (fun m => m.showsChildren = true) ns n := by
  refine ⟨reaches_of_mem_shownAll ns, fun h => ?_⟩
  induction h with
  | top hmem =>
    refine shown_subset_shownAll hmem ?_
    rw [shown_eq]
    exact List.mem_cons_self ..
  | inside hmem hopens _ ih =>
    refine shown_subset_shownAll hmem ?_
    rw [shown_eq, if_pos hopens]
    exact List.mem_cons_of_mem _ ih

end Node

/-! ## Steps of a template -/

namespace Lowering

variable {l : Lowering}

/-- The steps of the children are among those of the element around them. -/
theorem infix_container {n : Node} {attrs children : List BuildStep}
    (h : n.children = [] → children = []) (depth : Nat) (tag class_ : String) :
    children <:+: l.container depth n tag class_ attrs children := by
  unfold container
  by_cases hempty : n.children = []
  · rw [h hempty]
    exact List.nil_infix
  · rw [if_neg (by simpa using hempty)]
    have hinner : children <:+: l.lineEnd :: children ++ [l.lineStart depth] :=
      ⟨[l.lineEnd], _, rfl⟩
    exact hinner.trans (List.infix_append _ _ _)

/-- The steps of the children of an open node stand among its own. -/
theorem infix_node {n : Node} (h : n.showsChildren = true) (depth : Nat) :
    ∃ d, l.nodes d n.children <:+: l.node depth n := by
  have hempty (d : Nat) : n.children = [] → l.nodes d n.children = [] := fun hnil => by
    rw [hnil, nodes]
  unfold Node.showsChildren at h
  obtain ⟨kind, properties, content, children, state, line⟩ := n
  rw [node]
  cases helement : Node.element ⟨kind, properties, content, children, state, line⟩ with
  | box | text | button | link | generic => exact ⟨depth + 1, infix_container (hempty _) _ _ _⟩
  | conditional =>
    simp only [helement] at h
    unfold conditional
    cases hcondition : Node.condition ⟨kind, properties, content, children, state, line⟩ with
    | error e =>
      rw [hcondition] at h
      cases h
    | ok condition => exact ⟨depth, [.beginIf condition], _, rfl⟩
  | input | textarea | select | checkbox | image | divider | state =>
    simp only [helement] at h
    cases h

theorem infix_nodes {n : Node} {ns : List Node} (h : n ∈ ns) (depth : Nat) :
    l.node depth n <:+: l.nodes depth ns := by
  induction ns with
  | nil => cases h
  | cons m ns ih =>
    rw [nodes]
    rcases List.mem_cons.mp h with rfl | h
    · exact (List.prefix_append _ _).isInfix
    · exact (ih h).trans (List.suffix_append _ _).isInfix

/-- The steps of a node that the walk gets to stand among those of the page. -/
theorem infix_of_reaches {n : Node} {ns : List Node}
    (h : Node.Reaches (fun m => m.showsChildren = true) ns n) (depth : Nat) :
    ∃ d, l.node d n <:+: l.nodes depth ns := by
  induction h generalizing depth with
  | top hmem => exact ⟨depth, infix_nodes hmem depth⟩
  | inside hmem hopens _ ih =>
    obtain ⟨below, hchildren⟩ := infix_node hopens depth
    obtain ⟨d, hnode⟩ := ih below
    exact ⟨d, hnode.trans (hchildren.trans (infix_nodes hmem depth))⟩

/-- What is below a closed node is not looked at. -/
theorem node_of_closed {n : Node} (h : n.showsChildren = false) (depth : Nat)
    (children : List Node) : l.node depth { n with children } = l.node depth n := by
  obtain ⟨kind, properties, content, oldChildren, state, line⟩ := n
  unfold Node.showsChildren at h
  rw [node, node]
  have hsame : Node.element ⟨kind, properties, content, children, state, line⟩
      = Node.element ⟨kind, properties, content, oldChildren, state, line⟩ := rfl
  rw [hsame]
  cases helement : Node.element ⟨kind, properties, content, oldChildren, state, line⟩ with
  | box | text | button | link | generic =>
    simp only [helement] at h
    cases h
  | conditional =>
    simp only [helement] at h
    have hcondition : Node.condition ⟨kind, properties, content, children, state, line⟩
        = Node.condition ⟨kind, properties, content, oldChildren, state, line⟩ := rfl
    simp only [conditional, hcondition]
    cases hparsed : Node.condition ⟨kind, properties, content, oldChildren, state, line⟩ with
    | error e => rfl
    | ok condition =>
      rw [hparsed] at h
      cases h
  | input | textarea | select | checkbox | image | divider | state => rfl

end Lowering

/-! ## Markup in a state -/

namespace Direct

variable {layout : Layout} {s : State}

/-- The markup of the children is within that of the element around them. -/
theorem within_container {n : Node} {children : String} (h : n.children = [] → children = "")
    (depth : Nat) (tag class_ attrs text : String) :
    Within children (Frame.container layout depth n tag class_ attrs text children) := by
  by_cases hempty : n.children = []
  · rw [h hempty]
    exact within_empty _
  · have hchildren : n.children.isEmpty = false := by simpa using hempty
    refine ⟨layout.lineStart depth ++ "<" ++ tag ++ " class=\"" ++ class_ ++ "\"" ++ attrs
      ++ Markup.styleAttribute n ++ ">" ++ text ++ layout.lineEnd,
      layout.lineStart depth ++ "</" ++ tag ++ ">" ++ layout.lineEnd, ?_⟩
    simp [Frame.container, Frame.line, hchildren, String.append_assoc]

/-- The markup of the children of a node that is open in the state stands in its own. -/
theorem within_node {n : Node} (h : n.OpensIn s) (depth : Nat) :
    ∃ d, Within (nodes layout s d n.children) (node layout s depth n) := by
  have hempty (d : Nat) : n.children = [] → nodes layout s d n.children = "" := fun hnil => by
    rw [hnil, nodes]
  obtain ⟨hshows, hholds⟩ := h
  unfold Node.showsChildren at hshows
  obtain ⟨kind, properties, content, children, state, line⟩ := n
  rw [node]
  cases helement : Node.element ⟨kind, properties, content, children, state, line⟩ with
  | box | text | button | link | generic => exact ⟨depth + 1, within_container (hempty _) _ _ _ _ _⟩
  | conditional =>
    obtain ⟨condition, v, hcondition, hvalue, htruthy⟩ := hholds helement
    have hchildren : conditional layout s depth ⟨kind, properties, content, children, state, line⟩
        (nodes layout s depth children) = nodes layout s depth children := by
      simp only [conditional, hcondition, hvalue, htruthy, if_true]
    exact ⟨depth, by rw [hchildren]; exact .refl _⟩
  | input | textarea | select | checkbox | image | divider | state =>
    simp only [helement] at hshows
    cases hshows

theorem within_nodes {n : Node} {ns : List Node} (h : n ∈ ns) (depth : Nat) :
    Within (node layout s depth n) (nodes layout s depth ns) := by
  induction ns with
  | nil => cases h
  | cons m ns ih =>
    rw [nodes]
    rcases List.mem_cons.mp h with rfl | h
    · exact within_append_left _ _
    · exact (ih h).trans (within_append_right _ _)

/-- The markup of a node that is seen in a state stands in that of the page. -/
theorem within_of_reaches {n : Node} {ns : List Node} (h : Node.Reaches (Node.OpensIn s) ns n)
    (layout : Layout) (depth : Nat) :
    ∃ d, Within (node layout s d n) (nodes layout s depth ns) := by
  induction h generalizing depth with
  | top hmem => exact ⟨depth, within_nodes hmem depth⟩
  | inside hmem hopens _ ih =>
    obtain ⟨below, hchildren⟩ := within_node hopens depth
    obtain ⟨d, hnode⟩ := ih below
    exact ⟨d, hnode.trans (hchildren.trans (within_nodes hmem depth))⟩

end Direct

end PageLang
