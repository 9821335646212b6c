import Mathlib.Data.List.Chain
import Mathlib.Logic.Relation
import PageLang.Proofs.Component.Activation

/-!
# The guard against recursion

The stack of an expansion is a path of the relation "uses in its body" between components, and no
component is on it twice. So a usage is reported as recursive only where that relation has a
cycle.
-/

namespace PageLang

open Relation (ReflTransGen TransGen)

namespace Registry

/-- A registered component is used among nodes, at any depth. A slot marker uses nothing. -/
def UsedIn (r : Registry) (ns : List Node) (name : String) : Prop :=
  name ≠ Node.slotKind ∧ (r.get? name).isSome ∧ ∃ n ∈ Node.preorderAll ns, n.kind = name

/-- The body of a registered component uses another one, or the component itself. -/
def Uses (r : Registry) (user used : String) : Prop :=
  ∃ c, r.get? user = some c ∧ r.UsedIn c.body used

end Registry

namespace Expansion

variable {r : Registry} {scopes : List Scope}

/-! ## Kinds of bound bodies -/

mutual

theorem kinds_mapAll {f : Node → Node} (hf : ∀ n, (f n).kind = n.kind) (n : Node) :
    (n.mapAll f).preorder.map Node.kind = n.preorder.map Node.kind := by
  obtain ⟨kind, properties, content, children, state, line⟩ := n
  rw [Node.mapAll, Node.preorder_eq, Node.preorder, List.map_cons, List.map_cons, hf,
    kinds_mapAllList hf children]

theorem kinds_mapAllList {f : Node → Node} (hf : ∀ n, (f n).kind = n.kind) (ns : List Node) :
    (Node.preorderAll (Node.mapAllList f ns)).map Node.kind
      = (Node.preorderAll ns).map Node.kind := by
  match ns with
  | [] => rw [Node.mapAllList]
  | n :: ns =>
    rw [Node.mapAllList, Node.preorderAll, Node.preorderAll, List.map_append, List.map_append,
      kinds_mapAll hf n, kinds_mapAllList hf ns]

end

/-- Binding parameters changes texts only, so a bound body uses what the body uses. -/
theorem usedIn_applyBody {b : Binding} {body : List Node} {name : String} :
    r.UsedIn (b.applyBody body) name ↔ r.UsedIn body name := by
  have hkinds := kinds_mapAllList (f := b.applyNode) (fun _ => rfl) body
  have hmem : (∃ n ∈ Node.preorderAll (b.applyBody body), n.kind = name)
      ↔ ∃ n ∈ Node.preorderAll body, n.kind = name := by
    rw [← List.mem_map, ← List.mem_map]
    exact (congrArg (name ∈ ·) hkinds).to_iff
  rw [Registry.UsedIn, Registry.UsedIn, hmem]

/-! ## Stacks -/

/-- Active are the components on the stack. -/
theorem isActive_iff {name : String} : isActive scopes name = true ↔ name ∈ stackNames scopes := by
  simp [isActive, stackNames]

theorem stackNames_cons (scope : Scope) (scopes : List Scope) :
    stackNames (scope :: scopes) = stackNames scopes ++ [scope.component] := by
  rw [stackNames, List.map_cons, List.reverse_cons]
  rfl

/-- What the nodes under a stack may use: what the page uses, or what the innermost component
uses. -/
def MayUse (r : Registry) (page : List Node) (name : String) : List Scope → Prop
  | [] => r.UsedIn page name
  | scope :: _ => r.Uses scope.component name

/-- The path of a stack goes on to what is used at its end. -/
theorem MayUse.isChain_concat {page : List Node} {name : String} (h : MayUse r page name scopes)
    (hchain : (stackNames scopes).IsChain r.Uses) :
    (stackNames scopes ++ [name]).IsChain r.Uses := by
  refine List.isChain_append.mpr ⟨hchain, .singleton _, fun x hx y hy => ?_⟩
  cases hy
  cases scopes with
  | nil => cases hx
  | cons scope scopes =>
    rw [stackNames_cons, List.getLast?_concat] at hx
    cases hx
    exact h

/-- The path of a stack starts on the page also when it goes on. -/
theorem MayUse.usedIn_head? {page : List Node} {name : String} (h : MayUse r page name scopes)
    (hbottom : ∀ bottom ∈ (stackNames scopes).head?, r.UsedIn page bottom) :
    ∀ bottom ∈ (stackNames scopes ++ [name]).head?, r.UsedIn page bottom := by
  intro bottom hmem
  cases scopes with
  | nil =>
    cases hmem
    exact h
  | cons scope scopes =>
    refine hbottom bottom ?_
    rw [stackNames_cons] at hmem ⊢
    rwa [List.head?_append, Option.or_of_isSome (by simp)] at hmem

/-- The stack of an activation is a path of usages that starts on the page and meets no component
twice, and the nodes go on from where it ends. -/
structure Stacked (r : Registry) (page : List Node) (a : Activation) : Prop where
  nodup : (stackNames a.scopes).Nodup
  registered : ∀ name ∈ stackNames a.scopes, (r.get? name).isSome
  bottom : ∀ name ∈ (stackNames a.scopes).head?, r.UsedIn page name
  chain : (stackNames a.scopes).IsChain r.Uses
  used : ∀ name, r.UsedIn a.nodes name → MayUse r page name a.scopes

variable {page : List Node} {a b : Activation}

/-- The page itself is entered with nothing on the stack. -/
theorem stacked_page (r : Registry) (page : List Node) : Stacked r page ⟨[], page⟩ where
  nodup := List.nodup_nil
  registered := fun name hname => absurd hname List.not_mem_nil
  bottom := fun name hname => by cases hname
  chain := .nil
  used := fun _ h => h

/-- Entering a body keeps the stack a path. -/
theorem Stacked.enter (h : Stacked r page a)
    (hb : EntersFrom r a.scopes (Node.preorderAll a.nodes) b) : Stacked r page b := by
  obtain ⟨c, usage, groups, hrole, rfl, n, hn, hkind⟩ := hb
  obtain ⟨hslot, hget, hidle⟩ := get?_of_usage hrole
  have hname : c.name = usage.kind := name_of_get? hget
  rw [← hname] at hslot hget hkind
  have hsome : (r.get? c.name).isSome := by rw [hget]; rfl
  have hmay : MayUse r page c.name a.scopes := h.used _ ⟨hslot, hsome, n, hn, hkind⟩
  -- Only a component that is not on the stack is entered, and so no name comes twice.
  have hfresh : c.name ∉ stackNames a.scopes := by
    rw [← isActive_iff, hidle]
    exact Bool.false_ne_true
  have hnames : stackNames (Activation.ofUsage a.scopes c usage groups).scopes
      = stackNames a.scopes ++ [c.name] := stackNames_cons _ _
  refine ⟨?_, ?_, ?_, ?_, fun name hused => ?_⟩
  · rw [hnames, List.nodup_append]
    refine ⟨h.nodup, by simp, fun x hx y hy => ?_⟩
    rw [List.mem_singleton.mp hy]
    exact fun heq => hfresh (heq ▸ hx)
  · rw [hnames]
    intro name hmem
    rcases List.mem_append.mp hmem with hmem | hmem
    · exact h.registered name hmem
    · rw [List.mem_singleton.mp hmem]
      exact hsome
  · rw [hnames]
    exact hmay.usedIn_head? h.bottom
  · rw [hnames]
    exact hmay.isChain_concat h.chain
  · exact ⟨c, hget, usedIn_applyBody.mp hused⟩

/-- Whatever is entered from a page on is stacked. -/
theorem stacked_of_enters (h : ReflTransGen (Enters r) ⟨[], page⟩ a) : Stacked r page a := by
  induction h with
  | refl => exact stacked_page r page
  | tail _ hstep ih => exact ih.enter hstep.entersFrom

/-- The stack is no deeper than there are components. -/
theorem Stacked.length_le (h : Stacked r page a) : a.scopes.length ≤ r.definitions.length := by
  have hsub : stackNames a.scopes ⊆ r.definitions.map Component.name := by
    intro name hname
    obtain ⟨c, hc⟩ := Option.isSome_iff_exists.mp (h.registered name hname)
    exact List.mem_map.mpr ⟨c, mem_of_get? hc, name_of_get? hc⟩
  have hlength := h.nodup.length_le_of_subset hsub
  rwa [stackNames, List.length_reverse, List.length_map, List.length_map] at hlength

/-! ## Cycles -/

/-- Every member of a path leads to its end. -/
theorem reflTransGen_of_isChain {α : Type} {R : α → α → Prop} {l : List α} {x last : α}
    (h : (l ++ [last]).IsChain R) (hx : x ∈ l ++ [last]) : ReflTransGen R x last := by
  induction l generalizing x with
  | nil =>
    rw [List.mem_singleton.mp hx]
  | cons y l ih =>
    have htail : (l ++ [last]).IsChain R := h.tail
    rcases List.mem_cons.mp hx with rfl | hx
    · -- The first member leads to the second, if only that is the end.
      obtain ⟨z, hz⟩ : ∃ z, z ∈ (l ++ [last]).head? :=
        Option.isSome_iff_exists.mp (by simp)
      exact .head (h.rel_head? hz) (ih htail (List.mem_of_mem_head? hz))
    · exact ih htail hx

/-- A usage of a component on the stack closes a cycle. -/
theorem Stacked.transGen_of_recursive (h : Stacked r page a) {n : Node}
    (hn : n ∈ Node.preorderAll a.nodes) (hrole : role r a.scopes n = .recursive) :
    TransGen r.Uses n.kind n.kind := by
  obtain ⟨hslot, hsome, hactive⟩ := active_of_recursive hrole
  have hmay := h.used _ ⟨hslot, hsome, n, hn, rfl⟩
  have hmem := isActive_iff.mp hactive
  have hchain := h.chain
  cases hscopes : a.scopes with
  | nil =>
    rw [hscopes] at hmem
    cases hmem
  | cons scope scopes =>
    -- From its place on the stack the path leads to the innermost component, which uses it again.
    rw [hscopes, stackNames_cons] at hmem hchain
    rw [hscopes] at hmay
    exact .tail' (reflTransGen_of_isChain hchain hmem) hmay

/-! ## What is reported -/

/-- What the walk over nodes finds by itself, apart from what the bodies it enters find. -/
inductive Finds (r : Registry) (scopes : List Scope) (ns : List Node) : Finding → Prop
  | recursiveUsage {n : Node} (mem : n ∈ ns) (recursive : role r scopes n = .recursive) :
      Finds r scopes ns (.recursiveUsage n.kind (stackNames scopes))
  | missingParameter (parameter component : String) :
      Finds r scopes ns (.missingParameter parameter component)
  | unknownSlot (component slot : String) : Finds r scopes ns (.unknownSlot component slot)
  | straySlot (slot : String) : Finds r scopes ns (.straySlot slot)

/-- A diagnostic reports what the walk found, or comes from one of the entered bodies. -/
def Reports (r : Registry) (enter : List Scope → List Node → Expansion) (scopes : List Scope)
    (ns : List Node) (entered : List Activation) (d : Diagnostic) : Prop :=
  (∃ f line, d = f.onLine line ∧ Finds r scopes ns f)
    ∨ ∃ a ∈ entered, d ∈ (enter a.scopes a.nodes).diagnostics

variable {enter : List Scope → List Node → Expansion} {ns ms : List Node} {as bs : List Activation}
  {d : Diagnostic}

theorem Finds.mono {f : Finding} (h : Finds r scopes ns f) (hsub : ns ⊆ ms) :
    Finds r scopes ms f := by
  cases h with
  | recursiveUsage mem recursive => exact .recursiveUsage (hsub mem) recursive
  | missingParameter parameter component => exact .missingParameter parameter component
  | unknownSlot component slot => exact .unknownSlot component slot
  | straySlot slot => exact .straySlot slot

theorem Reports.mono (h : Reports r enter scopes ns as d) (hns : ns ⊆ ms) (has : as ⊆ bs) :
    Reports r enter scopes ms bs d := by
  rcases h with ⟨f, line, rfl, hf⟩ | ⟨a, ha, hd⟩
  · exact .inl ⟨f, line, rfl, hf.mono hns⟩
  · exact .inr ⟨a, has ha, hd⟩

theorem role_congr {n m : Node} (h : n.kind = m.kind) : role r scopes n = role r scopes m := by
  rw [role, role, h]

/-- What a usage reports besides its children. -/
theorem reports_of_mem_usage {c : Component} {usage : Node} {groups : OrderedMap Expansion}
    (h : d ∈ (ofUsage enter scopes c usage groups).diagnostics) :
    d ∈ groups.entries.flatMap (fun e => e.2.diagnostics)
      ∨ Reports r enter scopes ns [.ofUsage scopes c usage groups] d := by
  unfold ofUsage at h
  simp only [List.mem_append, List.flatMap_map] at h
  rcases h with ((h | h) | h) | h
  · exact .inl h
  · obtain ⟨parameter, -, rfl⟩ := List.mem_map.mp h
    exact .inr (.inl ⟨_, _, rfl, .missingParameter _ _⟩)
  · exact .inr (.inr ⟨_, List.mem_singleton_self _, h⟩)
  · obtain ⟨slot, -, rfl⟩ := List.mem_map.mp h
    exact .inr (.inl ⟨_, _, rfl, .unknownSlot _ _⟩)

/-- A marker reports that it is stray, or what its own children report in its place. -/
theorem mem_diagnostics_ofMarker {marker : Node} {default : Unit → Expansion}
    (h : d ∈ (ofMarker scopes marker default).diagnostics) :
    (∃ slot line, d = (Finding.straySlot slot).onLine line)
      ∨ takesDefault marker scopes = true ∧ d ∈ (default ()).diagnostics := by
  unfold ofMarker at h
  cases scopes with
  | nil => exact .inl ⟨_, _, List.mem_singleton.mp h⟩
  | cons scope scopes =>
    dsimp only at h
    cases hgroup : scope.groups.get? marker.slotName with
    | none =>
      rw [hgroup] at h
      exact .inr ⟨by rw [takesDefault, hgroup]; rfl, h⟩
    | some group =>
      rw [hgroup] at h
      cases h

mutual

/-- What expanding a node reports is found in it or in a body entered under it. -/
theorem reports_of_mem_node {prepare : Node → Node} (hkind : ∀ n, (prepare n).kind = n.kind)
    (n : Node) (h : d ∈ (ofNode r enter scopes prepare n).diagnostics) :
    Reports r enter scopes n.preorder (enteredByNode r enter scopes prepare n) d := by
  obtain ⟨kind, properties, content, children, state, line⟩ := n
  have hbelow : Node.preorderAll children ⊆
      Node.preorder ⟨kind, properties, content, children, state, line⟩ := by
    rw [Node.preorder]
    exact List.subset_cons_self _ _
  rw [ofNode_eq] at h
  rw [enteredByNode]
  cases hrole : role r scopes (prepare ⟨kind, properties, content, children, state, line⟩) with
  | marker =>
    simp only [hrole] at h ⊢
    rcases mem_diagnostics_ofMarker h with ⟨slot, line', rfl⟩ | ⟨hdefault, h⟩
    · exact .inl ⟨_, _, rfl, .straySlot slot⟩
    · rw [if_pos hdefault]
      exact (reports_of_mem_nodes children h).mono hbelow (List.Subset.refl _)
  | plain =>
    simp only [hrole] at h ⊢
    exact (reports_of_mem_nodes children h).mono hbelow (List.Subset.refl _)
  | recursive =>
    simp only [hrole] at h ⊢
    rcases List.mem_cons.mp h with rfl | h
    · refine .inl ⟨_, _, rfl, ?_⟩
      rw [hkind]
      refine .recursiveUsage ?_ ((role_congr (hkind _)).symm.trans hrole)
      rw [Node.preorder]
      exact List.mem_cons_self ..
    · exact (reports_of_mem_nodes children h).mono hbelow (List.Subset.refl _)
  | usage c =>
    simp only [hrole] at h ⊢
    rcases reports_of_mem_usage h with h | h
    · rw [mem_flatMap_collect rfl diagnostics_append] at h
      obtain ⟨part, hpart, hd⟩ := List.mem_flatMap.mp h
      exact (reports_of_mem_children children hpart hd).mono hbelow (List.subset_append_left _ _)
    · exact h.mono (List.Subset.refl _) (List.subset_append_right _ _)

/-- The diagnostics of an expansion come from the walk over its nodes or from an entered body. -/
theorem reports_of_mem_nodes (ns : List Node) (h : d ∈ (ofNodes r enter scopes ns).diagnostics) :
    Reports r enter scopes (Node.preorderAll ns) (enteredByNodes r enter scopes ns) d := by
  match ns with
  | [] =>
    rw [ofNodes] at h
    cases h
  | n :: ns =>
    rw [ofNodes, diagnostics_append] at h
    rw [Node.preorderAll, enteredByNodes]
    rcases List.mem_append.mp h with h | h
    · exact (reports_of_mem_node (fun _ => rfl) n h).mono (List.subset_append_left _ _)
        (List.subset_append_left _ _)
    · exact (reports_of_mem_nodes ns h).mono (List.subset_append_right _ _)
        (List.subset_append_right _ _)

/-- The same for the children of a usage. -/
theorem reports_of_mem_children (ns : List Node) {part : String × Expansion}
    (hpart : part ∈ ofChildren r enter scopes ns) (h : d ∈ part.2.diagnostics) :
    Reports r enter scopes (Node.preorderAll ns) (enteredByChildren r enter scopes ns) d := by
  match ns with
  | [] =>
    rw [ofChildren] at hpart
    cases hpart
  | n :: ns =>
    rw [ofChildren] at hpart
    rw [Node.preorderAll, enteredByChildren]
    rcases List.mem_cons.mp hpart with rfl | hpart
    · exact (reports_of_mem_node kind_withoutSlot n h).mono (List.subset_append_left _ _)
        (List.subset_append_left _ _)
    · exact (reports_of_mem_children ns hpart h).mono (List.subset_append_right _ _)
        (List.subset_append_right _ _)

end

/-- A diagnostic that reports a recursive usage only of a component that uses itself. -/
def Justified (r : Registry) (d : Diagnostic) : Prop :=
  ∃ (f : Finding) (line : Nat), d = f.onLine line
    ∧ ∀ c stack, f = .recursiveUsage c stack → TransGen r.Uses c c

/-- Whatever is reported from a stacked activation on is justified. -/
theorem Stacked.justified (h : Stacked r page a)
    (hd : d ∈ (ofBody r a.scopes a.nodes).diagnostics) : Justified r d := by
  -- A report is the activation's own or comes from one that it enters, which is stacked as well.
  induction a using (wellFounded_enters r).induction with
  | _ a ih =>
    rw [ofBody_eq] at hd
    rcases reports_of_mem_nodes a.nodes hd with ⟨f, line, rfl, hf⟩ | ⟨callee, hcallee, hd⟩
    · refine ⟨f, line, rfl, fun c stack heq => ?_⟩
      cases hf with
      | recursiveUsage mem recursive =>
        cases heq
        exact h.transGen_of_recursive mem recursive
      | missingParameter _ _ => cases heq
      | unknownSlot _ _ => cases heq
      | straySlot _ => cases heq
    · have henters : Enters r a callee := hcallee
      exact ih callee henters (h.enter henters.entersFrom) hd

end Expansion

/-! ## The text of a report -/

theorem head?_append_of_head? {s : String} {c : Char} (h : s.toList.head? = some c) (t : String) :
    (s ++ t).toList.head? = some c := by
  rw [String.toList_append, List.head?_append, h, Option.some_or]

/-- What stands before the first blank is determined by the whole. -/
theorem eq_of_append_blank {s t : List Char} (hs : ' ' ∉ s) (ht : ' ' ∉ t) {u v : List Char}
    (h : s ++ ' ' :: u = t ++ ' ' :: v) : s = t := by
  have hword {w x : List Char} (hw : ' ' ∉ w) : (w ++ ' ' :: x).takeWhile (· ≠ ' ') = w := by
    have hkeep : ∀ c ∈ w, decide (c ≠ ' ') = true :=
      fun c hc => decide_eq_true fun heq => hw (heq ▸ hc)
    rw [List.takeWhile_append_of_pos hkeep]
    simp
  rw [← hword (x := u) hs, h, hword ht]

/-- A name without blanks can be read off the report about it. -/
theorem Finding.name_eq_of_message_eq {c c' : String} {stack stack' : List String}
    (hc : ' ' ∉ c.toList) (hc' : ' ' ∉ c'.toList)
    (h : (recursiveUsage c stack).message = (recursiveUsage c' stack').message) : c = c' := by
  have hopen : " (".toList = [' ', '('] := by simp
  have hsplit (name : String) (names : List String) :
      ∃ u, (recursiveUsage name names).message.toList
      = "recursive usage of component ".toList ++ (name.toList ++ ' ' :: u) := by
    have hmessage : (recursiveUsage name names).message = "recursive usage of component "
        ++ name ++ " ("
        ++ String.intercalate " → " (names ++ [name]) ++ "); left unexpanded" := rfl
    rw [hmessage, String.toList_append, String.toList_append, String.toList_append,
      String.toList_append, hopen, List.append_assoc, List.append_assoc, List.append_assoc,
      List.cons_append]
    exact ⟨_, rfl⟩
  obtain ⟨u, hu⟩ := hsplit c stack
  obtain ⟨v, hv⟩ := hsplit c' stack'
  have hlist := congrArg String.toList h
  rw [hu, hv] at hlist
  exact String.toList_inj.mp (eq_of_append_blank hc hc' (List.append_cancel_left hlist))

/-- The first letter of a report about components tells whether it is about a recursive usage. -/
theorem Finding.eq_recursiveUsage_of_onLine_eq {f : Finding} {c : String} {stack : List String}
    {line line' : Nat} (h : f.onLine line = (Finding.recursiveUsage c stack).onLine line') :
    ∃ c' stack', f = .recursiveUsage c' stack' := by
  have hkind : f.kind = .componentExpansion := congrArg Diagnostic.kind h
  have hmessage : f.message = (Finding.recursiveUsage c stack).message :=
    congrArg Diagnostic.message h
  have hhead : f.message.toList.head? = some 'r' := by
    rw [hmessage]
    exact head?_append_of_head? (head?_append_of_head? (head?_append_of_head? (head?_append_of_head?
      (by simp) _) _) _) _
  have hother (c : Char) (hne : c ≠ 'r') (hc : f.message.toList.head? = some c) : False :=
    hne (Option.some.inj (hc.symm.trans hhead))
  cases f with
  | recursiveUsage c' stack' => exact ⟨c', stack', rfl⟩
  | emptyBody _ =>
    exact (hother 'c' (by decide)
      (head?_append_of_head? (head?_append_of_head? (by simp) _) _)).elim
  | missingParameter _ _ =>
    exact (hother 'm' (by decide)
      (head?_append_of_head? (head?_append_of_head? (head?_append_of_head?
      (head?_append_of_head? (by simp) _) _) _) _)).elim
  | unknownSlot _ _ =>
    exact (hother 'c' (by decide)
      (head?_append_of_head? (head?_append_of_head? (head?_append_of_head?
      (head?_append_of_head? (by simp) _) _) _) _)).elim
  | straySlot _ =>
    exact (hother 's' (by decide)
      (head?_append_of_head? (head?_append_of_head? (by simp) _) _)).elim
  | _ => cases hkind

/-! ## Expanding a page -/

/-- **The guard against recursion is exact.** Expanding a page is the expansion of what is below
its root under the empty stack. An activation depends on nothing but the ones it enters, and
bodies lie inside one another without end for no page, so the equation of the expansion has one
solution. The stack is at every moment a path of usages from the page on that meets no component
twice. So a component that is reported as recursive uses itself, and where no component uses
itself nothing is reported as recursive, whatever the page gives as slot content. -/
theorem Expander.expandPage_recursion_guard (r : Registry) (page : Node) :
    expandPage { registry := r } page
        = ({ page with children := (Expansion.ofBody r [] page.children).nodes },
          { registry := r, diagnostics := (Expansion.ofBody r [] page.children).diagnostics })
    ∧ (WellFounded fun callee caller : Expansion.Activation => Expansion.Enters r caller callee)
    ∧ (∀ (caller : Expansion.Activation) (enter : List Scope → List Node → Expansion),
        (∀ callee, Expansion.Enters r caller callee →
          Expansion.ofBody r callee.scopes callee.nodes = enter callee.scopes callee.nodes) →
        Expansion.ofBody r caller.scopes caller.nodes
          = Expansion.ofNodes r enter caller.scopes caller.nodes)
    ∧ (∀ f : List Scope → List Node → Expansion,
        (∀ scopes nodes, f scopes nodes = Expansion.ofNodes r f scopes nodes)
          ↔ f = Expansion.ofBody r)
    ∧ (∀ a : Expansion.Activation, ReflTransGen (Expansion.Enters r) ⟨[], page.children⟩ a →
        (Expansion.stackNames a.scopes).Nodup
        ∧ (∀ name ∈ Expansion.stackNames a.scopes, (r.get? name).isSome)
        ∧ a.scopes.length ≤ r.definitions.length
        ∧ (∀ name ∈ (Expansion.stackNames a.scopes).head?, r.UsedIn page.children name)
        ∧ (Expansion.stackNames a.scopes).IsChain r.Uses)
    ∧ (∀ d ∈ (expandPage { registry := r } page).2.diagnostics, Expansion.Justified r d)
    ∧ (∀ c stack line,
        (Finding.recursiveUsage c stack).onLine line
          ∈ (expandPage { registry := r } page).2.diagnostics →
        (∀ name, name = c ∨ (r.get? name).isSome → ' ' ∉ name.toList) → TransGen r.Uses c c)
    ∧ ((∀ c, ¬ TransGen r.Uses c c) → ∀ c stack line,
        (Finding.recursiveUsage c stack).onLine line
          ∉ (expandPage { registry := r } page).2.diagnostics) := by
  have hjustified : ∀ d ∈ (expandPage { registry := r } page).2.diagnostics,
      Expansion.Justified r d := by
    intro d hd
    rw [expandPage_eq] at hd
    exact (Expansion.stacked_page r page.children).justified hd
  -- A text that reads as a report of a recursive usage is one, maybe of a component of another
  -- name.
  have hreport : ∀ c stack line, (Finding.recursiveUsage c stack).onLine line
      ∈ (expandPage { registry := r } page).2.diagnostics → ∃ c' stack', TransGen r.Uses c' c'
        ∧ (Finding.recursiveUsage c stack).message
            = (Finding.recursiveUsage c' stack').message := by
    intro c stack line hd
    obtain ⟨f, line', heq, hf⟩ := hjustified _ hd
    obtain ⟨c', stack', rfl⟩ := Finding.eq_recursiveUsage_of_onLine_eq heq.symm
    exact ⟨c', stack', hf c' stack' rfl, congrArg Diagnostic.message heq⟩
  refine ⟨expandPage_eq r page, Expansion.wellFounded_enters r, ?_, ?_, ?_, hjustified, ?_, ?_⟩
  · intro caller enter hagree
    rw [Expansion.ofBody_eq]
    exact Expansion.ofNodes_congr caller.nodes hagree
  · intro f
    refine ⟨Expansion.eq_ofBody, ?_⟩
    rintro rfl
    exact Expansion.ofBody_eq r
  · intro a ha
    have hstacked := Expansion.stacked_of_enters ha
    exact ⟨hstacked.nodup, hstacked.registered, hstacked.length_le, hstacked.bottom, hstacked.chain⟩
  · intro c stack line hd hblank
    obtain ⟨c', stack', hcycle, hmessage⟩ := hreport c stack line hd
    have hc' : (r.get? c').isSome := by
      obtain ⟨user, -, -, -, -, hsome, -⟩ := TransGen.tail'_iff.mp hcycle
      exact hsome
    rw [Finding.name_eq_of_message_eq (hblank c (.inl rfl)) (hblank c' (.inr hc')) hmessage]
    exact hcycle
  · intro hacyclic c stack line hd
    obtain ⟨c', stack', hcycle, -⟩ := hreport c stack line hd
    exact hacyclic c' hcycle

-- A component inside its own slot content is expanded twice, and nothing is reported.
example :
    let card : Component :=
      { name := "Card", parameters := [], line := 1, body := [
        { kind := "Box", line := 2, children := [{ kind := "Slot", line := 3 }] }] }
    let page : Node :=
      { kind := "Page", line := 4, children := [
        { kind := "Card", line := 5, children := [{ kind := "Card", line := 6 }] }] }
    let (expanded, e) := Expander.expandPage { registry := Registry.empty.register card } page
    (Node.preorderAll expanded.children).map Node.kind = ["Box", "Box"] ∧ e.diagnostics = [] := by
  decide +kernel

end PageLang
