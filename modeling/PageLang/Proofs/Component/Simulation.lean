import Mathlib.Data.List.Forall2
import PageLang.Proofs.Component.Expansion

/-!
# The expander does what the expansion says

A step of the expander gets its stack and its reports from the steps before it and hands them on.
`Does` relates such a step to an `Expansion`: on every expander with a given registry and stack,
whatever has been reported and whichever slots have been filled, the step gives the nodes of the
expansion, adds its findings, and marks the slots that it fills. In particular a step leaves the
stack as it found it, but for the marks in its innermost scope: what it pushes it pops.

> `expandNode_does`: the step of a node does what `Expansion.ofNode` says, if entering a body does.

The induction follows the walk. A step that is suspended in a group runs on another expander than
the one it was made for, and this is why `Does` is about all of them.
-/

namespace PageLang

/-- The scope as it was entered, before any of its slots was filled. -/
def Scope.entered (s : Scope) : Scope := { s with used := [] }

namespace Expander

open Expansion (isActive stackNames)

/-! ## Recording an expansion -/

/-- The stack after slots of its innermost scope have been filled. -/
def markUsed (slots : List String) : List Scope → List Scope
  | [] => []
  | scope :: scopes => { scope with used := slots.foldl addSlot scope.used } :: scopes

/-- The nodes of an expansion, and the expander after it. -/
def record (e : Expander) (x : Expansion) : List Node × Expander :=
  (x.nodes, { e with
    diagnostics := e.diagnostics ++ x.diagnostics
    scopes := markUsed x.filled e.scopes })

/-- The slots grow by the one added. -/
theorem mem_addSlot {used : List String} {slot name : String} :
    name ∈ addSlot used slot ↔ name ∈ used ∨ name = slot := by
  unfold addSlot
  split
  · next hmem =>
    refine ⟨.inl, ?_⟩
    rintro (h | rfl)
    · exact h
    · exact hmem
  · rw [List.mem_append, List.mem_singleton]

/-- The slots that are marked are those that were, and those that are filled. -/
theorem mem_foldl_addSlot {used slots : List String} {name : String} :
    name ∈ slots.foldl addSlot used ↔ name ∈ used ∨ name ∈ slots := by
  induction slots generalizing used with
  | nil => exact (or_iff_left List.not_mem_nil).symm
  | cons slot slots ih => rw [List.foldl_cons, ih, mem_addSlot, List.mem_cons, or_assoc]

theorem markUsed_nil (scopes : List Scope) : markUsed [] scopes = scopes := by
  cases scopes <;> rfl

/-- Slots are marked one list after the other. -/
theorem markUsed_append (slots later : List String) (scopes : List Scope) :
    markUsed (slots ++ later) scopes = markUsed later (markUsed slots scopes) := by
  cases scopes with
  | nil => rfl
  | cons scope scopes => rw [markUsed, List.foldl_append]; rfl

/-- Marking slots changes nothing else of a stack. -/
theorem entered_markUsed (slots : List String) (scopes : List Scope) :
    (markUsed slots scopes).map Scope.entered = scopes.map Scope.entered := by
  cases scopes <;> rfl

/-- Where nothing came of a step, nothing is recorded. -/
theorem record_empty (e : Expander) : e.record {} = ([], e) := by
  rw [record, markUsed_nil, List.append_nil]

/-- One expansion after the other is recorded in two parts. -/
theorem record_append (e : Expander) (x y : Expansion) :
    e.record (x ++ y)
      = ((e.record x).1 ++ ((e.record x).2.record y).1, ((e.record x).2.record y).2) := by
  show (x.nodes ++ y.nodes, ({ e with
    diagnostics := e.diagnostics ++ (x.diagnostics ++ y.diagnostics)
    scopes := markUsed (x.filled ++ y.filled) e.scopes } : Expander)) = _
  rw [markUsed_append, ← List.append_assoc]
  rfl

/-- Reports that are made one after the other. -/
theorem foldl_report {α : Type} (finding : α → Finding) (line : Nat) (xs : List α) (e : Expander) :
    xs.foldl (fun e x => e.report (finding x) line) e
      = { e with diagnostics := e.diagnostics ++ xs.map fun x => (finding x).onLine line } := by
  induction xs generalizing e with
  | nil => rw [List.foldl_nil, List.map_nil, List.append_nil]
  | cons x xs ih =>
    rw [List.foldl_cons, ih, List.map_cons]
    show ({ e with diagnostics := (e.diagnostics ++ [(finding x).onLine line]) ++ _ } :
        Expander) = _
    rw [List.append_assoc]
    rfl

/-! ## Steps and expansions -/

/-- The expander has this registry, and this stack but for the slots that have been filled. -/
def At (r : Registry) (scopes : List Scope) (e : Expander) : Prop :=
  e.registry = r ∧ e.scopes.map Scope.entered = scopes.map Scope.entered

/-- The step does what the expansion says on every expander with this registry and this stack,
whatever has been reported and whichever slots have been filled. -/
def Does (r : Registry) (scopes : List Scope) (step : Step) (x : Expansion) : Prop :=
  ∀ e : Expander, e.At r scopes → step e = e.record x

/-- Entering a body does what the expansion says under every stack. -/
def Enters (r : Registry) (enter : List Node → Step) (enter' : List Scope → List Node → Expansion) :
    Prop :=
  ∀ scopes nodes, Does r scopes (enter nodes) (enter' scopes nodes)

section At

variable {r : Registry} {scopes : List Scope} {e : Expander}

/-- An expander is where it was after an expansion has been recorded. -/
theorem At.record (h : e.At r scopes) (x : Expansion) : (e.record x).2.At r scopes :=
  ⟨h.1, (entered_markUsed _ _).trans h.2⟩

/-- Under one scope more an expander is where this scope is on top. -/
theorem At.push (h : e.At r scopes) (scope : Scope) : (e.push scope).At r (scope :: scopes) :=
  ⟨h.1, congrArg (scope.entered :: ·) h.2⟩

/-- A report leaves the stack alone. -/
theorem At.report (h : e.At r scopes) (finding : Finding) (line : Nat) :
    (e.report finding line).At r scopes := h

theorem At.map_component (h : e.At r scopes) :
    e.scopes.map Scope.component = scopes.map Scope.component := by
  have hnames := congrArg (List.map Scope.component) h.2
  rwa [List.map_map, List.map_map] at hnames

/-- Marks do not change which components are active. -/
theorem At.isActive (h : e.At r scopes) (name : String) :
    Expansion.isActive e.scopes name = Expansion.isActive scopes name := by
  have hnames (scopes : List Scope) :
      Expansion.isActive scopes name = (scopes.map Scope.component).any (· = name) := by
    rw [List.any_map]
    rfl
  rw [hnames, hnames, h.map_component]

/-- Marks do not change the names on the stack. -/
theorem At.stackNames (h : e.At r scopes) :
    Expansion.stackNames e.scopes = Expansion.stackNames scopes :=
  congrArg List.reverse h.map_component

end At

/-! ## Steps one after the other -/

section Steps

variable {r : Registry} {scopes : List Scope} {steps : List Step} {step : Step} {x y : Expansion}

/-- One step more runs on the expander that the others leave. -/
theorem inOrder_concat (steps : List Step) (step : Step) (e : Expander) :
    inOrder (steps ++ [step]) e
      = ((inOrder steps e).1 ++ (step (inOrder steps e).2).1, (step (inOrder steps e).2).2) := by
  induction steps generalizing e with
  | nil =>
    show ((step e).1 ++ [], (step e).2) = _
    rw [List.append_nil]
    rfl
  | cons first steps ih =>
    show ((first e).1 ++ (inOrder (steps ++ [step]) (first e).2).1,
        (inOrder (steps ++ [step]) (first e).2).2) = _
    rw [ih, ← List.append_assoc]
    rfl

theorem does_nil : Does r scopes (inOrder []) {} := fun e _ => (record_empty e).symm

/-- One step more does one expansion more. -/
theorem Does.concat (hsteps : Does r scopes (inOrder steps) x) (hstep : Does r scopes step y) :
    Does r scopes (inOrder (steps ++ [step])) (x ++ y) := by
  intro e he
  rw [inOrder_concat, hsteps e he, hstep _ (he.record x), record_append]

end Steps

/-! ## Groups -/

section Groups

variable {r : Registry} {scopes : List Scope}

/-- The steps of a slot do what the expansion of the slot says. -/
def GroupDoes (r : Registry) (scopes : List Scope) (a : String × List Step)
    (b : String × Expansion) : Prop :=
  a.1 = b.1 ∧ Does r scopes (inOrder a.2) b.2

/-- The step of a child does what its expansion says, and asks for the same slot. -/
def PartDoes (r : Registry) (scopes : List Scope) (a : String × Step) (b : String × Expansion) :
    Prop :=
  a.1 = b.1 ∧ Does r scopes a.2 b.2

/-- The steps of a slot, if there are any yet, do what its expansion says. -/
theorem does_lookup {as : List (String × List Step)} {bs : List (String × Expansion)}
    (h : List.Forall₂ (GroupDoes r scopes) as bs) (slot : String) :
    Does r scopes (inOrder ((as.lookup slot).getD [])) ((bs.lookup slot).getD {}) := by
  induction h with
  | nil => exact does_nil
  | @cons a b as bs hab _ ih =>
    obtain ⟨ka, steps⟩ := a
    obtain ⟨kb, x⟩ := b
    obtain rfl : ka = kb := hab.1
    rw [List.lookup_cons, List.lookup_cons]
    cases slot == ka with
    | true => exact hab.2
    | false => exact ih

/-- Putting a group in keeps the suspended steps and the expansions side by side. -/
theorem forall₂_insertEntry {as : List (String × List Step)} {bs : List (String × Expansion)}
    (h : List.Forall₂ (GroupDoes r scopes) as bs) {slot : String} {steps : List Step}
    {x : Expansion} (hx : Does r scopes (inOrder steps) x) :
    List.Forall₂ (GroupDoes r scopes) (OrderedMap.insertEntry slot steps as)
      (OrderedMap.insertEntry slot x bs) := by
  induction h with
  | nil => exact .cons ⟨rfl, hx⟩ .nil
  | @cons a b as bs hab hrest ih =>
    obtain ⟨ka, stepsa⟩ := a
    obtain ⟨kb, xb⟩ := b
    obtain rfl : ka = kb := hab.1
    rw [OrderedMap.insertEntry, OrderedMap.insertEntry]
    split
    · exact .cons ⟨rfl, hx⟩ hrest
    · exact .cons hab ih

/-- Steps are grouped as expansions are. -/
theorem group_does {as : List (String × Step)} {bs : List (String × Expansion)}
    (h : List.Forall₂ (PartDoes r scopes) as bs) :
    List.Forall₂ (GroupDoes r scopes) (group as).entries (Expansion.collect bs).entries := by
  suffices hfold : ∀ (groups : OrderedMap (List Step)) (groups' : OrderedMap Expansion),
      List.Forall₂ (GroupDoes r scopes) groups.entries groups'.entries →
      List.Forall₂ (GroupDoes r scopes)
        (as.foldl (fun groups part =>
          groups.insert part.1 ((groups.get? part.1).getD [] ++ [part.2])) groups).entries
        (bs.foldl (fun groups part =>
          groups.insert part.1 ((groups.get? part.1).getD {} ++ part.2)) groups').entries from
    hfold ∅ ∅ .nil
  induction h with
  | nil => exact fun _ _ hgroups => hgroups
  | @cons a b as bs hab _ ih =>
    intro groups groups' hgroups
    obtain ⟨slot, step⟩ := a
    obtain ⟨slot', x⟩ := b
    obtain rfl : slot = slot' := hab.1
    exact ih _ _ (forall₂_insertEntry hgroups ((does_lookup hgroups slot).concat hab.2))

/-- What the expansions of groups leave behind, apart from the nodes. -/
def outer (groups : List (String × Expansion)) : Expansion where
  diagnostics := (groups.map Prod.snd).flatMap Expansion.diagnostics
  filled := (groups.map Prod.snd).flatMap Expansion.filled

/-- Running groups gives the nodes of their expansions by slot, and leaves behind what these leave
behind. -/
theorem runGroups_eq {as : List (String × List Step)} {bs : List (String × Expansion)}
    (h : List.Forall₂ (GroupDoes r scopes) as bs) (done : OrderedMap (List Node)) {e : Expander}
    (he : e.At r scopes) (hnodup : (done.keys ++ bs.map Prod.fst).Nodup) :
    (runGroups done as e).1.entries = done.entries ++ bs.map (fun b => (b.1, b.2.nodes))
      ∧ (runGroups done as e).2 = (e.record (outer bs)).2 := by
  induction h generalizing done e with
  | nil =>
    refine ⟨(List.append_nil _).symm, ?_⟩
    exact (congrArg Prod.snd (record_empty e)).symm
  | @cons a b as bs hab _ ih =>
    obtain ⟨slot, steps⟩ := a
    obtain ⟨slot', x⟩ := b
    obtain rfl : slot = slot' := hab.1
    have hrun : runGroups done ((slot, steps) :: as) e
        = runGroups (done.insert slot x.nodes) as (e.record x).2 := by
      rw [runGroups, hab.2 e he]
      rfl
    -- The slot is new, so that its nodes go to the end.
    have hnew : slot ∉ done.keys := by
      intro hmem
      exact (List.nodup_append.mp hnodup).2.2 slot hmem slot (List.mem_cons_self ..) rfl
    have hentries : (done.insert slot x.nodes).entries = done.entries ++ [(slot, x.nodes)] :=
      OrderedMap.insertEntry_of_not_mem hnew
    have hkeys : (done.insert slot x.nodes).keys ++ bs.map Prod.fst
        = done.keys ++ ((slot, x) :: bs).map Prod.fst := by
      rw [OrderedMap.keys_insert, if_neg hnew, List.append_assoc]
      rfl
    obtain ⟨hdone, hleft⟩ := ih (done.insert slot x.nodes) (he.record x) (hkeys ▸ hnodup)
    refine ⟨?_, ?_⟩
    · rw [hrun, hdone, hentries, List.append_assoc]
      rfl
    · rw [hrun, hleft]
      have hsplit := congrArg Prod.snd (record_append e { x with nodes := [] } (outer bs))
      exact hsplit.symm

end Groups

/-! ## The walk -/

section Walk

variable {r : Registry} {scopes : List Scope} {enter : List Node → Step}
  {enter' : List Scope → List Node → Expansion}

/-- A marker takes the group and marks its slot, or runs the steps of its children. -/
theorem fillSlot_does {marker : Node} {step : Step} {default : Unit → Expansion}
    (h : Does r scopes step (default ())) :
    Does r scopes (fillSlot marker step) (Expansion.ofMarker scopes marker default) := by
  intro e he
  have hstack := he.2
  unfold fillSlot Expansion.ofMarker
  cases hscopes : e.scopes with
  | nil =>
    rw [hscopes, List.map_nil, eq_comm, List.map_eq_nil_iff] at hstack
    rw [hstack]
    dsimp only
    rw [record, markUsed_nil]
    rfl
  | cons top below =>
    cases scopes with
    | nil =>
      rw [hscopes] at hstack
      cases hstack
    | cons scope scopes =>
      rw [hscopes, List.map_cons, List.map_cons, List.cons.injEq] at hstack
      have hgroups : top.entered.groups = scope.entered.groups := congrArg Scope.groups hstack.1
      change top.groups = scope.groups at hgroups
      dsimp only
      rw [hgroups]
      cases scope.groups.get? marker.slotName with
      | none => exact h e he
      | some content =>
        dsimp only
        rw [mark, hscopes, record, List.append_nil, hscopes]
        rfl

/-- A node that is kept gets the nodes of its children. -/
theorem keep_does {n : Node} {step : Step} {x : Expansion} (h : Does r scopes step x) :
    Does r scopes (keep n step) (Expansion.ofPlain n x) := by
  intro e he
  rw [keep, h e he]
  rfl

/-- A usage that is kept is reported before its children are expanded. -/
theorem keep_report_does {n : Node} {step : Step} {x : Expansion} (h : Does r scopes step x) :
    Does r scopes
      (fun e => keep n step (e.report (.recursiveUsage n.kind (stackNames e.scopes)) n.line))
      (Expansion.ofRecursive scopes n x) := by
  intro e he
  dsimp only
  rw [keep, h _ (he.report _ _), he.stackNames]
  show _ = e.record { Expansion.ofPlain n x with
    diagnostics :=
      (Finding.recursiveUsage n.kind (stackNames scopes)).onLine n.line :: x.diagnostics }
  rw [record, record, report, List.append_assoc]
  rfl

/-- Behind a body the scope that was pushed for it is gone, and what is reported are the groups
without a marker. -/
theorem leave_record (e : Expander) (c : Component) (line : Nat) (groups : OrderedMap (List Node))
    (body : Expansion) :
    ((e.push { component := c.name, line, groups }).record body).2.leave
      = { e with diagnostics := e.diagnostics ++ body.diagnostics
          ++ (groups.keys.filter (· ∉ body.filled)).map fun slot =>
              (Finding.unknownSlot c.name slot).onLine line } := by
  have hfilter : groups.keys.filter (· ∉ body.filled.foldl addSlot []) = groups.keys.filter
      (· ∉ body.filled) := by
    refine List.filter_congr fun slot _ => ?_
    simp only [mem_foldl_addSlot, List.not_mem_nil, false_or]
  show (groups.keys.filter (· ∉ body.filled.foldl addSlot [])).foldl
      (fun e slot => e.report (.unknownSlot c.name slot) line)
      { e with diagnostics := e.diagnostics ++ body.diagnostics } = _
  rw [hfilter, foldl_report]

/-- A usage runs its groups, binds the body and enters it with the scope pushed, and pops it
again. -/
theorem usage_does (henter : Enters r enter enter') {c : Component} {n : Node}
    {as : List (String × Step)} {bs : List (String × Expansion)}
    (h : List.Forall₂ (PartDoes r scopes) as bs) :
    Does r scopes (usage enter c n as)
      (Expansion.ofUsage enter' scopes c n (Expansion.collect bs)) := by
  intro e he
  obtain ⟨hgroups, hleft⟩ := runGroups_eq (group_does h) ∅ he (Expansion.collect bs).keys_nodup
  have hnodes :
      (runGroups ∅ (group as).entries e).1 = (Expansion.collect bs).mapValues Expansion.nodes :=
    OrderedMap.ext_entries hgroups
  have hkeys : ((Expansion.collect bs).mapValues Expansion.nodes).keys
      = (Expansion.collect bs).keys :=
    OrderedMap.keys_mapValues _ _
  rw [usage]
  dsimp only
  rw [hnodes, hleft]
  generalize hreported : List.foldl _ (e.record (outer (Expansion.collect bs).entries)).2 _ = f
  rw [foldl_report] at hreported
  -- The body is entered on the stack of the usage with its own scope on top.
  have hf : f.At r scopes := hreported ▸ he.record (outer (Expansion.collect bs).entries)
  rw [henter _ _ _ (hf.push _), leave_record, hkeys, ← hreported, record, record, record,
    Expansion.ofUsage]
  dsimp only [outer]
  simp only [List.append_assoc]

mutual

/-- Expanding a node does what its expansion says. -/
theorem expandNode_does (henter : Enters r enter enter') (prepare : Node → Node) (n : Node) :
    Does r scopes (expandNode enter prepare n) (Expansion.ofNode r enter' scopes prepare n) := by
  obtain ⟨kind, properties, content, children, state, line⟩ := n
  intro e he
  rw [expandNode, Expansion.ofNode]
  dsimp only
  rw [he.1]
  generalize prepare ⟨kind, properties, content, children, state, line⟩ = m
  have hchildren :
      Does r scopes (expandAll enter children) (Expansion.ofNodes r enter' scopes children) :=
    expandAll_does henter children
  by_cases hslot : m.kind = Node.slotKind
  · rw [if_pos hslot, if_pos hslot]
    exact fillSlot_does hchildren e he
  · rw [if_neg hslot, if_neg hslot]
    cases r.get? m.kind with
    | none => exact keep_does hchildren e he
    | some c =>
      dsimp only
      rw [he.isActive]
      by_cases hactive : isActive scopes c.name = true
      · rw [if_pos hactive, if_pos hactive]
        exact keep_report_does hchildren e he
      · rw [if_neg hactive, if_neg hactive]
        exact usage_does henter (childSteps_do henter children) e he

/-- Expanding several nodes does what their expansions say. -/
theorem expandAll_does (henter : Enters r enter enter') (ns : List Node) :
    Does r scopes (expandAll enter ns) (Expansion.ofNodes r enter' scopes ns) := by
  intro e he
  match ns with
  | [] =>
    rw [expandAll, Expansion.ofNodes, record_empty]
  | n :: ns =>
    rw [expandAll, Expansion.ofNodes]
    dsimp only
    rw [expandNode_does henter id n e he, expandAll_does henter ns _ (he.record _), record_append]

/-- The suspended step of every child does what its expansion says. -/
theorem childSteps_do (henter : Enters r enter enter') (ns : List Node) :
    List.Forall₂ (PartDoes r scopes) (childSteps enter ns)
      (Expansion.ofChildren r enter' scopes ns) := by
  match ns with
  | [] =>
    rw [childSteps, Expansion.ofChildren]
    exact .nil
  | n :: ns =>
    rw [childSteps, Expansion.ofChildren]
    exact .cons ⟨rfl, expandNode_does henter Expansion.withoutSlot n⟩ (childSteps_do henter ns)

end

end Walk

/-! ## Bodies inside bodies -/

/-- Entering bodies within a bound agrees on both sides. -/
theorem enters_within (r : Registry) (bound : Nat) :
    Enters r (within bound) (Expansion.within r bound) := by
  induction bound with
  | zero => exact fun _ _ e _ => (record_empty e).symm
  | succ bound ih => exact fun scopes nodes => expandAll_does ih nodes

/-- So does entering them as often as there are components. -/
theorem enters_ofBody (r : Registry) : Enters r (ofBody r) (Expansion.ofBody r) :=
  enters_within r (r.definitions.length + 1)

/-- What a usage gives under a stack. -/
def usageExpansion (r : Registry) (scopes : List Scope) (c : Component) (usage : Node) :
    Expansion :=
  Expansion.ofUsage (Expansion.ofBody r) scopes c usage
    (Expansion.collect (Expansion.ofChildren r (Expansion.ofBody r) scopes usage.children))

/-- **A usage is expanded as its expansion says**, on every expander with the same registry and
the same stack but for the slots that have been filled. -/
theorem expandUsage_does {r : Registry} {scopes : List Scope} {e : Expander} (he : e.At r scopes)
    (c : Component) (n : Node) : e.expandUsage c n = e.record (usageExpansion r scopes c n) := by
  rw [expandUsage, he.1]
  exact usage_does (enters_ofBody r) (childSteps_do (enters_ofBody r) n.children) e he

/-- Nodes are expanded as their expansion says. -/
theorem expandNodes_eq (e : Expander) (nodes : List Node) :
    e.expandNodes nodes
      = e.record (Expansion.ofNodes e.registry (Expansion.ofBody e.registry) e.scopes nodes) :=
  expandAll_does (enters_ofBody e.registry) nodes e ⟨rfl, rfl⟩

end Expander

end PageLang
