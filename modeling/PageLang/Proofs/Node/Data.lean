import PageLang.Proofs.Json.Shape

/-!
# Reading back documents

The members of a node that would hold nothing are left out of its data, and reading puts the
nothing in again. So

> a document that does not nest too deep is read back from its data (`Document.read_whole`),

with its nodes, components and diagnostics.
-/

namespace PageLang

open Json (Draft Fault Fits)
open Json.Draft (once whole present foldMembers foldMembers_member foldMembers_once)

variable {depth : Nat}

/-! ## Scalars and state entries -/

/-- A natural number is read back. -/
theorem Json.Draft.natural_whole (n : Nat) : Draft.natural depth (whole (.int n)) = .ok n := by
  show Draft.natural depth (.int n) = _
  rw [Draft.natural, if_neg (by omega), Int.toNat_natCast]

/-- A literal is read back from its JSON. -/
theorem Literal.read_whole (l : Literal) : Literal.read depth (whole l.toJson) = .ok l := by
  cases l <;> rfl

/-- So is a state entry. -/
theorem StateEntry.read_whole {e : StateEntry} (hfits : Fits depth e.toJson) :
    StateEntry.read depth (whole e.toJson) = .ok e := by
  have hobject :
      e.toJson = .object [("name", some (.str e.name)), ("value", some e.value.toJson)] := rfl
  rw [hobject] at hfits ⊢
  rw [StateEntry.read, Draft.record_whole hfits, foldMembers_member rfl,
    foldMembers_member (by rw [StateEntry.readField, Literal.read_whole]; rfl)]
  rfl

theorem StateEntry.readOption_whole {e : StateEntry} (hfits : Fits depth e.toJson) :
    StateEntry.readOption depth (whole e.toJson) = .ok (some e) := by
  show some <$> StateEntry.read depth (whole e.toJson) = _
  rw [StateEntry.read_whole hfits]
  rfl

/-! ## Nodes -/

/-- Reads one field of a node. -/
def Node.readField (depth : Nat) (s : Node.Fields) (name : String) (d : Draft) :
    Except Fault Node.Fields := do
  if name = "children" then
    return { s with children := ← once s.children (Node.readChildren depth d) }
  else Node.readPlainField depth s name d

/-- The fields of a node are read one after the other. -/
theorem Node.readMembers_eq (depth : Nat) (s : Node.Fields)
    (members : List (Except Fault String × Draft)) :
    Node.readMembers depth s members = foldMembers (Node.readField depth) s members := by
  induction members generalizing s with
  | nil => rfl
  | cons member members ih =>
    obtain ⟨key, d⟩ := member
    rw [Node.readMembers, foldMembers]
    cases key with
    | error f => rfl
    | ok name =>
      show _ = (do foldMembers (Node.readField depth) (← Node.readField depth s name d) members)
      rw [Node.readField]
      by_cases hname : name = "children"
      · rw [if_pos hname]
        show (if name = "children" then _ else _) = _
        rw [if_pos hname]
        cases once s.children (Node.readChildren depth d) with
        | error f => rfl
        | ok ns => exact ih _
      · rw [if_neg hname]
        show (if name = "children" then _ else _) = _
        rw [if_neg hname]
        cases Node.readPlainField depth s name d with
        | error f => rfl
        | ok s => exact ih s

/-- A list of nodes is read node by node. -/
theorem Node.readList_eq (depth : Nat) (ds : List Draft) :
    Node.readList depth ds = Draft.listItems (Node.read depth) ds := by
  induction ds with
  | nil => rfl
  | cons d ds ih => rw [Node.readList, Draft.listItems, ih]

/-- The children of a node are read as a list. -/
theorem Node.readChildren_eq (depth : Nat) (d : Draft) :
    Node.readChildren depth d = Draft.list Node.read depth d := by
  cases d with
  | arr items cut =>
    rw [Node.readChildren, Draft.list]
    simp only [Node.readList_eq]
  | _ => rfl

theorem Node.listToJson_eq_map (ns : List Node) : Node.listToJson ns = ns.map Node.toJson := by
  induction ns with
  | nil => rfl
  | cons n ns ih => rw [Node.listToJson, ih, List.map_cons]

/-- A node is read member by member. -/
theorem Node.read_object {members : List (String × Option Json)}
    (hfits : Fits depth (.object members)) : Node.read depth (whole (.object members))
      = (do (← foldMembers (Node.readField (depth + 1)) {} (present members)).node) := by
  show Node.read depth (.obj (present members) none) = _
  rw [Node.read, hfits.deeper_obj]
  show (do let s ← Node.readMembers (depth + 1) {} (present members); Json.checkCut none; s.node)
      = _
  rw [Node.readMembers_eq]
  rfl

/-- The members of a node. -/
def Node.members (n : Node) : List (String × Option Json) := [
  ("kind", some (.str n.kind)),
  ("properties", Json.unlessEmpty n.properties.entries (n.properties.toJson .str)),
  ("content", if n.content = "" then none else some (.str n.content)),
  ("children", Json.unlessEmpty n.children (.arr (n.children.map Node.toJson))),
  ("state", n.state.map StateEntry.toJson),
  ("line", some (.int n.line))]

/-- A node is written as an object of its fields. -/
theorem Node.toJson_eq_object (n : Node) : n.toJson = .object n.members := by
  obtain ⟨kind, properties, content, children, state, line⟩ := n
  rw [Node.toJson, Node.listToJson_eq_map]
  rfl

/-- The fields that the members of a node give: nothing for a member that is left out. -/
def Node.fields (n : Node) : Node.Fields where
  kind := some n.kind
  properties := (Json.unlessEmpty n.properties.entries (n.properties.toJson .str)).map fun _ =>
    n.properties
  content := (if n.content = "" then none else some (.str n.content) : Option Json).map fun _ =>
    n.content
  children := (Json.unlessEmpty n.children (.arr (n.children.map Node.toJson))).map fun _ =>
    n.children
  state := (n.state.map StateEntry.toJson).map fun _ => n.state
  line := some n.line

/-- The defaults put in again what was left out. -/
theorem Node.node_fields (n : Node) : n.fields.node = .ok n := by
  have hproperties : n.fields.properties.getD ∅ = n.properties :=
    Json.getD_unlessEmpty fun hempty => OrderedMap.ext_entries hempty
  have hcontent : n.fields.content.getD "" = n.content := by
    rw [Node.fields]
    dsimp only
    split
    · next hempty => exact hempty.symm
    · rfl
  have hchildren : n.fields.children.getD [] = n.children := Json.getD_unlessEmpty id
  have hstate : n.fields.state.getD none = n.state := by
    rw [Node.fields]
    cases n.state <;> rfl
  show Except.ok (Node.mk n.kind (n.fields.properties.getD ∅) (n.fields.content.getD "")
    (n.fields.children.getD []) (n.fields.state.getD none) n.line) = _
  rw [hproperties, hcontent, hchildren, hstate]
  cases n
  rfl

/-- The members of a node are read as its fields, given that its children are read back. -/
theorem Node.foldMembers_members {n : Node} (hfits : Fits depth (.object n.members))
    (hread : ∀ c ∈ n.children, ∀ depth, Fits depth c.toJson →
      Node.read depth (whole c.toJson) = .ok c) :
    foldMembers (Node.readField (depth + 1)) {} (present n.members) = .ok n.fields := by
  have hproperties : ∀ j ∈ Json.unlessEmpty n.properties.entries (n.properties.toJson .str),
      Draft.map Draft.string (depth + 1) (whole j) = .ok n.properties := by
    intro j hj
    have hj' := hfits.field "properties" (by simp [Node.members]) hj
    rw [Json.eq_of_mem_unlessEmpty hj] at hj' ⊢
    exact Draft.map_whole hj' fun _ _ _ => rfl
  have hchildren : ∀ j ∈ Json.unlessEmpty n.children (.arr (n.children.map Node.toJson)),
      Node.readChildren (depth + 1) (whole j) = .ok n.children := by
    intro j hj
    have hj' := hfits.field "children" (by simp [Node.members]) hj
    rw [Json.eq_of_mem_unlessEmpty hj] at hj' ⊢
    rw [Node.readChildren_eq]
    exact Draft.list_whole hj' fun c hc hfit => hread c hc _ hfit
  have hstate : ∀ j ∈ n.state.map StateEntry.toJson,
      StateEntry.readOption (depth + 1) (whole j) = .ok n.state := by
    intro j hj
    have hj' := hfits.field "state" (by simp [Node.members]) hj
    obtain ⟨e, he, rfl⟩ := Option.map_eq_some_iff.mp hj
    rw [he]
    exact StateEntry.readOption_whole hj'
  have hcontent : ∀ j ∈ (if n.content = "" then none else some (.str n.content) : Option Json),
      Draft.string (depth + 1) (whole j) = .ok n.content := by
    intro j hj
    split at hj
    · cases hj
    · cases hj
      rfl
  have hline : ∀ j ∈ some (Json.int n.line), Draft.natural (depth + 1) (whole j) = .ok n.line := by
    rintro j ⟨⟩
    exact Draft.natural_whole n.line
  refine (foldMembers_member rfl).trans ?_
  refine (foldMembers_once (fun p => ({ kind := some n.kind, properties := p } : Node.Fields))
    (fun _ => rfl) hproperties).trans ?_
  refine (foldMembers_once (fun c => ({ kind := _, properties := _, content := c } : Node.Fields))
    (fun _ => rfl) hcontent).trans ?_
  refine (foldMembers_once (fun ns => (⟨_, _, _, ns, none, none⟩ : Node.Fields))
    (fun _ => rfl) hchildren).trans ?_
  refine (foldMembers_once (fun e => (⟨_, _, _, _, e, none⟩ : Node.Fields))
    (fun _ => rfl) hstate).trans ?_
  exact foldMembers_once (fun l => (⟨_, _, _, _, _, l⟩ : Node.Fields)) (fun _ => rfl) hline

mutual

/-- **A node is read back from its data.** -/
theorem Node.read_whole (n : Node) {depth : Nat} (hfits : Fits depth n.toJson) :
    Node.read depth (whole n.toJson) = .ok n := by
  match n with
  | ⟨kind, properties, content, children, state, line⟩ =>
    rw [Node.toJson_eq_object] at hfits ⊢
    rw [Node.read_object hfits, Node.foldMembers_members hfits (Node.read_whole_of_mem children)]
    exact Node.node_fields _

/-- Each of several nodes is read back. -/
theorem Node.read_whole_of_mem (ns : List Node) :
    ∀ n ∈ ns, ∀ depth, Fits depth n.toJson → Node.read depth (whole n.toJson) = .ok n := by
  match ns with
  | [] => nofun
  | n :: ns =>
    intro m hm depth hfits
    rcases List.mem_cons.mp hm with heq | hm
    · rw [heq] at hfits ⊢
      exact Node.read_whole n hfits
    · exact Node.read_whole_of_mem ns m hm depth hfits

end

/-! ## Diagnostics, components and documents -/

/-- A kind is found by its name. -/
theorem DiagnosticKind.ofName?_name (k : DiagnosticKind) :
    DiagnosticKind.ofName? k.name = some k := by
  cases k <;> rfl

theorem DiagnosticKind.read_whole (k : DiagnosticKind) :
    Draft.alternative DiagnosticKind.ofName? depth (whole (.str k.name)) = .ok k := by
  show Draft.alternative DiagnosticKind.ofName? depth (.str k.name) = _
  rw [Draft.alternative, k.ofName?_name]

/-- A diagnostic is read back from its JSON. -/
theorem Diagnostic.read_whole {d : Diagnostic} (hfits : Fits depth d.toJson) :
    Diagnostic.read depth (whole d.toJson) = .ok d := by
  have hobject :
      d.toJson = .object [("kind", some (.str d.kind.name)), ("line", some (.int d.line)),
    ("message", some (.str d.message))] := rfl
  rw [hobject] at hfits ⊢
  rw [Diagnostic.read, Draft.record_whole hfits,
    foldMembers_member (by rw [Diagnostic.readField, DiagnosticKind.read_whole]; rfl),
    foldMembers_member (by rw [Diagnostic.readField, Draft.natural_whole]; rfl),
    foldMembers_member rfl]
  rfl

/-- So is a component. -/
theorem Component.read_whole {c : Component} (hfits : Fits depth c.toJson) :
    Component.read depth (whole c.toJson) = .ok c := by
  have hobject : c.toJson = .object [("name", some (.str c.name)),
      ("parameters", some (.arr (c.parameters.map .str))),
      ("body", some (.arr (c.body.map Node.toJson))), ("line", some (.int c.line))] := by
    rw [Component.toJson, Node.listToJson_eq_map]
    rfl
  rw [hobject] at hfits ⊢
  have hparameters : Draft.list Draft.string (depth + 1) (whole (.arr (c.parameters.map .str)))
      = .ok c.parameters :=
    Draft.list_whole (hfits.field "parameters" (by simp) rfl) fun _ _ _ => rfl
  have hbody : Draft.list Node.read (depth + 1) (whole (.arr (c.body.map Node.toJson)))
      = .ok c.body :=
    Draft.list_whole (hfits.field "body" (by simp) rfl) fun n _ hn => n.read_whole hn
  rw [Component.read, Draft.record_whole hfits, foldMembers_member rfl,
    foldMembers_member (by rw [Component.readField, hparameters]; rfl),
    foldMembers_member (by rw [Component.readField, hbody]; rfl),
    foldMembers_member (by rw [Component.readField, Draft.natural_whole]; rfl)]
  rfl

/-- Diagnostics are read back where they are present. -/
theorem Diagnostic.list_whole (ds : List Diagnostic) {members : List (String × Option Json)}
    (hfits : Fits depth (.object members)) (hmem : Diagnostic.member ds ∈ members) :
    ∀ j ∈ (Diagnostic.member ds).2, Draft.list Diagnostic.read (depth + 1) (whole j) = .ok ds := by
  intro j hj
  have hj' := hfits.field "diagnostics" hmem hj
  rw [Json.eq_of_mem_unlessEmpty hj] at hj' ⊢
  exact Draft.list_whole hj' fun d _ hd => Diagnostic.read_whole hd

/-- **A document is read back from its data.** -/
theorem Document.read_whole {d : Document} (hfits : Fits depth d.toJson) :
    Document.read depth (whole d.toJson) = .ok d := by
  rw [Document.toJson] at hfits ⊢
  have hpage := d.page.read_whole (hfits.field "page" (by simp) rfl)
  have hcomponents :
      Draft.list Component.read (depth + 1) (whole (.arr (d.components.map Component.toJson)))
      = .ok d.components :=
    Draft.list_whole (hfits.field "components" (by simp) rfl) fun c _ hc => Component.read_whole hc
  have hdiagnostics := Diagnostic.list_whole d.diagnostics hfits (by simp)
  have hdefault : ((Diagnostic.member d.diagnostics).2.map fun _ => d.diagnostics).getD []
      = d.diagnostics :=
    Json.getD_unlessEmpty id
  rw [Document.read, Draft.record_whole hfits,
    foldMembers_member (by rw [Document.readField, hpage]; rfl),
    foldMembers_member (by rw [Document.readField, hcomponents]; rfl),
    foldMembers_once (fun ds => (⟨_, _, ds⟩ : Document.Fields)) (fun _ => rfl) hdiagnostics]
  show Except.ok (Document.mk d.page d.components _) = _
  rw [hdefault]

end PageLang
