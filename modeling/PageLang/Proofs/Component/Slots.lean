import PageLang.Proofs.Component.Complete
import PageLang.Proofs.Component.Content
import PageLang.Proofs.Component.Recursion

/-!
# Slots are filled by substitution

Where neither a body nor the children of a usage use components, an expansion is a substitution:
`Node.fillAll` puts content in the place of the markers of a body, at any depth, and the children
of a marker in its place where there is no content. Which markers are reached on the way depends
on the content too, since the children of a replaced marker are dropped.

> `Expander.expandUsage_substitutes`: a usage gives the bound body with its slots filled, and
> reports the missing parameters and then the slots for which no marker was reached.
-/

namespace PageLang

/-! ## Filling -/

mutual

/-- What takes the place of a node when slots have content: the content of a marker, or what its
children give if there is none; another node stays, with its children filled. -/
def Node.fill (content : String → List Node) : Node → List Node
  | n@⟨_, _, _, children, _, _⟩ =>
    if n.kind = Node.slotKind then
      if (content n.slotName).isEmpty then Node.fillAll content children else content n.slotName
    else [{ n with children := Node.fillAll content children }]

/-- What takes the place of nodes, one after the other. -/
def Node.fillAll (content : String → List Node) : List Node → List Node
  | [] => []
  | n :: ns => n.fill content ++ Node.fillAll content ns

end

mutual

/-- The slots whose markers are reached at a node and below it. -/
def Node.reached (content : String → List Node) : Node → List String
  | n@⟨_, _, _, children, _, _⟩ =>
    if n.kind = Node.slotKind then
      n.slotName :: if (content n.slotName).isEmpty then Node.reachedAll content children else []
    else Node.reachedAll content children

/-- The slots whose markers are reached among nodes. -/
def Node.reachedAll (content : String → List Node) : List Node → List String
  | [] => []
  | n :: ns => n.reached content ++ Node.reachedAll content ns

end

/-- The children of a usage that ask for a slot, without the property by which they do. -/
def Node.contentFor (usage : Node) (slot : String) : List Node :=
  (usage.children.filter (Expansion.slotOf · = slot)).map Expansion.withoutSlot

theorem Node.isEmpty_contentFor (usage : Node) (slot : String) :
    (usage.contentFor slot).isEmpty = decide (slot ∉ usage.children.map Expansion.slotOf) := by
  rw [Bool.eq_iff_iff, decide_eq_true_iff, List.isEmpty_iff, Node.contentFor, List.map_eq_nil_iff,
    List.filter_eq_nil_iff, List.mem_map]
  simp

namespace Expansion

variable {r : Registry} {enter : List Scope → List Node → Expansion} {scopes : List Scope}

/-! ## The groups of plain children -/

theorem ofNode_withoutSlot {child : Node} (hchild : child.kind ≠ Node.slotKind
    ∧ r.get? child.kind = none) (hbelow : Plain r child.children) :
    ofNode r enter scopes withoutSlot child = { nodes := [withoutSlot child] } := by
  have hrole : role r scopes (withoutSlot child) = .plain := role_of_plain hchild.1 hchild.2
  rw [ofNode_eq, hrole]
  dsimp only
  rw [ofNodes_eq_self child.children hbelow]
  rfl

/-- Plain children go to their slots as they are. -/
theorem ofChildren_eq_map {children : List Node} (h : Plain r children) :
    ofChildren r enter scopes children = children.map fun n =>
      (slotOf n, { nodes := [withoutSlot n] }) := by
  induction children with
  | nil => rw [ofChildren]; rfl
  | cons child children ih =>
    obtain ⟨hchild, hbelow, hrest⟩ := plain_cons.mp h
    rw [ofChildren, ofNode_withoutSlot hchild hbelow, ih hrest, List.map_cons]

/-- Groups that are put together from silent parts are silent. -/
theorem flatMap_collect_eq_nil {α : Type} {f : Expansion → List α} (hempty : f {} = [])
    (happend : ∀ x y, f (x ++ y) = f x ++ f y) {parts : List (String × Expansion)}
    (h : ∀ part ∈ parts, f part.2 = []) :
    ((collect parts).entries.map Prod.snd).flatMap f = [] := by
  rw [List.flatMap_map, List.eq_nil_iff_forall_not_mem]
  intro y hy
  obtain ⟨part, hpart, hy⟩ := List.mem_flatMap.mp ((mem_flatMap_collect hempty happend parts).mp hy)
  rw [h part hpart] at hy
  exact List.not_mem_nil hy

/-- The scope of a usage with plain children has for every slot the children that ask for it. -/
theorem get?_plainGroups {usage : Node} (h : Plain r usage.children) (slot : String) :
    ((collect (ofChildren r enter scopes usage.children)).mapValues Expansion.nodes).get? slot
      = if (usage.contentFor slot).isEmpty then none else some (usage.contentFor slot) := by
  have hgroup : groupNodes (ofChildren r enter scopes usage.children) slot
      = usage.contentFor slot := by
    rw [ofChildren_eq_map h, groupNodes, List.filter_map, List.flatMap_map, Node.contentFor,
      List.map_eq_flatMap]
    rfl
  rw [get?_groups, slots_ofChildren, hgroup, Node.isEmpty_contentFor]
  by_cases hslot : slot ∈ usage.children.map slotOf
    <;> simp only [hslot, not_true, not_false_eq_true, decide_true,
    decide_false, if_true, if_false, Bool.false_eq_true]

/-! ## The walk over a body without usages -/

theorem get?_of_not_usedIn {ns : List Node} {n : Node} (hns : ∀ name, ¬ r.UsedIn ns name)
    (hn : n ∈ Node.preorderAll ns) (hslot : n.kind ≠ Node.slotKind) : r.get? n.kind = none := by
  refine Option.not_isSome_iff_eq_none.mp fun hsome => ?_
  exact hns n.kind ⟨hslot, hsome, n, hn, rfl⟩

section Walk

variable {content : String → List Node} {scope : Scope}

mutual

theorem ofNode_fill
    (hscope : ∀ slot, scope.groups.get? slot = if (content slot).isEmpty then none else some
      (content slot))
    (n : Node) (hn : ∀ m ∈ n.preorder, m.kind ≠ Node.slotKind → r.get? m.kind = none) :
    ofNode r enter (scope :: scopes) id n
      = { nodes := n.fill content, filled :=
        (n.reached content).filter fun slot => !(content slot).isEmpty } := by
  rw [Node.preorder_eq, List.forall_mem_cons] at hn
  obtain ⟨kind, properties, text, children, state, line⟩ := n
  rw [ofNode_eq, Node.fill, Node.reached]
  by_cases hslot : kind = Node.slotKind
  · have hrole : role r (scope :: scopes) ⟨kind, properties, text, children, state, line⟩
        = .marker := if_pos hslot
    simp only [id, hrole, if_pos hslot, ofMarker, hscope]
    cases hempty :
      (content (Node.slotName ⟨kind, properties, text, children, state, line⟩)).isEmpty with
    | true => simp [hempty, ofNodes_fill hscope children hn.2]
    | false => simp [hempty]
  · simp only [id, role_of_plain hslot (hn.1 hslot), if_neg hslot,
      ofNodes_fill hscope children hn.2]
    rfl

/-- Under a scope that has the content for its groups, nodes without usages are filled. -/
theorem ofNodes_fill
    (hscope : ∀ slot, scope.groups.get? slot = if (content slot).isEmpty then none else some
      (content slot))
    (ns : List Node) (hns : ∀ m ∈ Node.preorderAll ns, m.kind ≠ Node.slotKind →
      r.get? m.kind = none) :
    ofNodes r enter (scope :: scopes) ns
      = { nodes := Node.fillAll content ns,
          filled := (Node.reachedAll content ns).filter fun slot => !(content slot).isEmpty } := by
  match ns with
  | [] => rw [ofNodes, Node.fillAll, Node.reachedAll]; rfl
  | n :: ns =>
    rw [Node.preorderAll, List.forall_mem_append] at hns
    rw [ofNodes, ofNode_fill hscope n hns.1, ofNodes_fill hscope ns hns.2, Node.fillAll,
      Node.reachedAll, List.filter_append]
    rfl

end

end Walk

/-- The slots of a usage that are not filled are those for which no marker is reached. -/
theorem filter_not_filled (usage : Node) (reached : List String) :
    (usage.children.map slotOf).eraseDups.filter
        (· ∉ reached.filter fun slot => !(usage.contentFor slot).isEmpty)
      = (usage.children.map slotOf).eraseDups.filter (· ∉ reached) := by
  refine List.filter_congr fun slot hslot => ?_
  have hgiven : (usage.contentFor slot).isEmpty = false := by
    rw [Node.isEmpty_contentFor, decide_eq_false_iff_not, not_not]
    exact List.mem_eraseDups.mp hslot
  simp [List.mem_filter, hgiven]

theorem ofUsage_fill {c : Component} {usage : Node} (hbody : ∀ name, ¬ r.UsedIn c.body name)
    (hchildren : Plain r usage.children) :
    ofUsage (ofBody r) scopes c usage (collect (ofChildren r (ofBody r) scopes usage.children))
      = { nodes :=
        Node.fillAll usage.contentFor (Binding.applyBody ⟨c.parameters, usage.properties⟩ c.body)
          diagnostics :=
            (Binding.missing ⟨c.parameters, usage.properties⟩).map
                (fun p => (Finding.missingParameter p c.name).onLine usage.line)
              ++ ((usage.children.map slotOf).eraseDups.filter (· ∉ Node.reachedAll usage.contentFor
                  (Binding.applyBody ⟨c.parameters, usage.properties⟩ c.body))).map
                (fun slot => (Finding.unknownSlot c.name slot).onLine usage.line) } := by
  have hsilent {α : Type} {f : Expansion → List α} (hempty : f {} = [])
      (happend : ∀ x y, f (x ++ y) = f x ++ f y)
      (hnodes : ∀ nodes, f { nodes } = []) :
      ((collect (ofChildren r (ofBody r) scopes usage.children)).entries.map Prod.snd).flatMap f
          = [] := by
    refine flatMap_collect_eq_nil hempty happend fun part hpart => ?_
    rw [ofChildren_eq_map hchildren] at hpart
    obtain ⟨child, -, rfl⟩ := List.mem_map.mp hpart
    exact hnodes _
  have hbound : ∀ n ∈ Node.preorderAll (Binding.applyBody ⟨c.parameters, usage.properties⟩ c.body),
      n.kind ≠ Node.slotKind → r.get? n.kind = none :=
    fun n => get?_of_not_usedIn fun name hname => hbody name (usedIn_applyBody.mp hname)
  unfold ofUsage
  dsimp only
  rw [ofBody_eq, ofNodes_fill (get?_plainGroups hchildren) _ hbound, keys_collect, slots_ofChildren,
    hsilent rfl diagnostics_append fun _ => rfl, hsilent rfl filled_append fun _ => rfl,
    filter_not_filled, List.nil_append, List.append_nil]

end Expansion

namespace Expander

open Expansion (slotOf Plain)

/-- **A usage is expanded by substitution.** Let the body of a component use no registered
component, and let the children of a usage be neither usages nor markers, at any depth. Then the
usage gives the body with its parameters bound and its slots filled by the children that ask for
them. What is reported are the parameters without a value, as they are declared, and then the
slots that the children ask for and for which no marker was reached, in the order of their first
use. -/
theorem expandUsage_substitutes (e : Expander) (c : Component) (usage : Node)
    (hbody : ∀ name, ¬ e.registry.UsedIn c.body name)
    (hchildren : Plain e.registry usage.children) :
    let body := Binding.applyBody ⟨c.parameters, usage.properties⟩ c.body
    e.expandUsage c usage = (Node.fillAll usage.contentFor body,
      { e with diagnostics := e.diagnostics
          ++ ((c.parameters.filter (· ∉ usage.properties.keys)).map
              fun p => (Finding.missingParameter p c.name).onLine usage.line)
          ++ (((usage.children.map slotOf).eraseDups.filter
            (· ∉ Node.reachedAll usage.contentFor body)).map
              fun slot => (Finding.unknownSlot c.name slot).onLine usage.line) }) := by
  intro body
  have hmissing : Binding.missing ⟨c.parameters, usage.properties⟩
      = c.parameters.filter (· ∉ usage.properties.keys) := by
    refine List.filter_congr fun p _ => ?_
    rw [Bool.eq_iff_iff, decide_eq_true_iff, ← OrderedMap.contains_iff]
    simp
  rw [expandUsage_does ⟨rfl, rfl⟩, usageExpansion, Expansion.ofUsage_fill hbody hchildren, record,
    markUsed_nil, hmissing, List.append_assoc]

/-- A component with a slot that is named by a parameter and one whose own children have a
marker. -/
def panel : Component where
  name := "Panel"
  parameters := ["title", "area", "tone"]
  body := [
    { kind := "Box", line := 2, children := [
      { kind := "Text", content := "\x7btitle\x7d", line := 3 },
      { kind := "Slot", properties := .ofList [("name", "area")], line := 4 },
      { kind := "Slot", line := 5, children := [{ kind := "Slot", content := "foot", line := 6 }] },
      { kind := "Slot", content := "note", line := 7, children := [
        { kind := "Slot", content := "head", line := 8 },
        { kind := "Text", content := "-", line := 9 }] }] }]
  line := 1

/-- A usage with content for three slots and without a tone. -/
def panelUsage : Node where
  kind := "Panel"
  properties := .ofList [("title", "T"), ("area", "head")]
  children := [
    { kind := "Text", properties := .ofList [("slot", "head")], content := "A", line := 11 },
    { kind := "Text", properties := .ofList [("slot", "foot")], content := "B", line := 12 },
    { kind := "Text", properties := .ofList [("slot", "")], content := "C", line := 13 },
    { kind := "Text", properties := .ofList [("slot", "head")], content := "D", line := 14 }]
  line := 10

/-- The marker for the foot stands inside one that is replaced, so it is not reached. -/
theorem expandUsage_substitutes_panel :
    let r := Registry.empty.register panel
    let text (content : String) (line : Nat) : Node := { kind := "Text", content, line }
    (∀ name, ¬ r.UsedIn panel.body name) ∧ Plain r panelUsage.children
    ∧ Node.sameList (expandUsage { registry := r } panel panelUsage).1
        [{ kind := "Box", line := 2, children :=
          [text "T" 3, text "A" 11, text "D" 14, text "C" 13, text "A" 11, text "D" 14,
            text "-" 9] }] = true
    ∧ (expandUsage { registry := r } panel panelUsage).2.diagnostics
      = [(Finding.missingParameter "tone" "Panel").onLine 10,
          (Finding.unknownSlot "Panel" "foot").onLine 10] := by
  intro r text
  have hkinds : ∀ n ∈ Node.preorderAll panel.body, n.kind ≠ Node.slotKind →
      (r.get? n.kind).isNone = true := by
    decide +kernel
  have hbody : ∀ name, ¬ r.UsedIn panel.body name := by
    rintro name ⟨hslot, hsome, n, hn, rfl⟩
    rw [Option.isNone_iff_eq_none.mp (hkinds n hn hslot)] at hsome
    cases hsome
  have hplain : ∀ n ∈ Node.preorderAll panelUsage.children, n.kind ≠ Node.slotKind
      ∧ (r.get? n.kind).isNone = true := by
    decide +kernel
  have hchildren : Plain r panelUsage.children :=
    fun n hn => ⟨(hplain n hn).1, Option.isNone_iff_eq_none.mp (hplain n hn).2⟩
  refine ⟨hbody, hchildren, ?_⟩
  rw [expandUsage_substitutes { registry := r } panel panelUsage hbody hchildren]
  decide +kernel

end Expander

end PageLang
