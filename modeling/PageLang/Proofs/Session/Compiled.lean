import PageLang.Proofs.Session.Rollback
import PageLang.Proofs.Template.Fixed
import PageLang.Proofs.Template.Visible

/-!
# Stored actions and actions parsed on the spot

The actions of the buttons of a page are parsed ahead and stored by their texts, and an action
that is not stored is parsed when it is asked for. Which of the two happens cannot be seen:

> `Session.program_ofNodes`: whatever is stored, the program of a text is what parsing it gives,
> and so is the error if there is none.

The texts that are stored are those of the buttons that the walk over the page gets to, and the
markup of such a button holds its text for whoever reads its attribute
(`Artifact.compiled_actions_agree`).
-/

namespace PageLang

open Markup (attr attributeValue escape)

/-! ## The actions of buttons -/

theorem Element.ofKind_eq_button_iff {kind : String} :
    Element.ofKind kind = .button ↔ kind = "Button" := by
  constructor
  · intro h
    unfold Element.ofKind at h
    split at h <;> cases h
    rfl
  · rintro rfl
    rfl

theorem Node.action?_eq_some_iff {n : Node} {source : String} :
    n.action? = some source
      ↔ ∃ text, n.property? "action" = some text ∧ Text.trimmed text ≠ ""
        ∧ Text.trimmed text = source := by
  unfold Node.action?
  cases n.property? "action" with
  | none => simp
  | some text =>
    by_cases hblank : Text.trimmed text = ""
    · simp [hblank]
    · simp [hblank]

theorem Node.buttonAction?_eq_some_iff {n : Node} {source : String} :
    n.buttonAction? = some source ↔ n.kind = "Button" ∧ n.action? = some source := by
  refine ⟨fun h => ?_, fun ⟨hkind, haction⟩ => ?_⟩
  · obtain ⟨helement, haction⟩ := Node.of_buttonAction? h
    exact ⟨Element.ofKind_eq_button_iff.mp helement, haction⟩
  · have helement : n.element = .button := Element.ofKind_eq_button_iff.mpr hkind
    rw [Node.buttonAction?, helement]
    exact haction

namespace ActionTable

variable {shown : List Node} {source : String}

theorem mem_keys_ofNodes :
    source ∈ (ofNodes shown).keys ↔ ∃ n ∈ shown, n.buttonAction? = some source := by
  refine ⟨fun h => (of_mem_keys h).1, fun h => ?_⟩
  rw [ofNodes, OrderedMap.mem_keys_ofList, List.map_map]
  exact List.mem_map.mpr ⟨source, List.mem_filterMap.mpr h, rfl⟩

/-- An entry of the table is the program of its text, or the wording of why there is none. -/
theorem get?_ofNodes (h : source ∈ (ofNodes shown).keys) :
    (∀ q, Program.parse source = .ok q → (ofNodes shown).get? source = some (.program q))
    ∧ ∀ e, Program.parse source = .error e →
      (ofNodes shown).get? source = some (.error e.message) := by
  rw [(of_mem_keys h).2, CompiledAction.ofSource]
  constructor
  · intro q hparse
    rw [hparse]
  · intro e hparse
    rw [hparse]

end ActionTable

/-! ## Programs -/

namespace Session

/-- The program of a text that is parsed on the spot. -/
def parsed (source : String) : Except ActionError Program :=
  match Program.parse source with
  | .ok q => .ok q
  | .error e => .error (.unparsed source e.message)

/-- With the actions of a page stored, the program of a text is the one that is parsed on the
spot. -/
theorem program_ofNodes {s : Session} {shown : List Node}
    (h : s.actions = ActionTable.ofNodes shown) (source : String) :
    s.program source = parsed source := by
  unfold program parsed
  rw [h]
  cases hget : (ActionTable.ofNodes shown).get? source with
  | none => rfl
  | some compiled =>
    have hkey : source ∈ (ActionTable.ofNodes shown).keys := by
      rw [← OrderedMap.contains_iff, OrderedMap.contains, hget]
      rfl
    rw [(ActionTable.of_mem_keys hkey).2, CompiledAction.ofSource] at hget
    cases hparse : Program.parse source with
    | ok q =>
      rw [hparse] at hget
      rw [← Option.some.inj hget]
    | error e =>
      rw [hparse] at hget
      rw [← Option.some.inj hget]

/-- Executing an action is parsing its trimmed text and running the program. -/
theorem execute_ofNodes {s : Session} (shown : List Node)
    (h : s.actions = ActionTable.ofNodes shown) (action : String) :
    s.execute action
      = (do (← parsed (Text.trimmed action)).execute s.start s.state).map fun t =>
        { s with state := t } := by
  rw [execute_eq, outcome, program_ofNodes h]

end Session

/-! ## The markup of a button -/

/-- The opening tag of a button with an action is a run of plain markup. -/
theorem Lowering.infix_button {l : Lowering} {n : Node} {source : String}
    (hkind : n.kind = "Button") (haction : n.action? = some source) (depth : Nat) :
    ["<button class=\"qcl-button\"", attr "type" "button", attr "data-qcl-action" source].map
      BuildStep.static
      <:+: l.node depth n := by
  obtain ⟨kind, properties, content, children, state, line⟩ := n
  have helement : Node.element ⟨kind, properties, content, children, state, line⟩ = .button :=
    Element.ofKind_eq_button_iff.mpr hkind
  rw [node]
  simp only [helement, container, buttonAttrs, haction, List.append_assoc]
  exact ⟨[l.lineStart depth], _, rfl⟩

/-- The text of a stored action can be read from the template: it is the value of the attribute in
the opening tag of its button. -/
theorem Artifact.exists_static_button {o : GenerateOptions} {p : Page} {n : Node} {source : String}
    (hn : Node.Reaches (fun m => m.showsChildren = true) p.root.children n)
    (hkind : n.kind = "Button") (haction : n.action? = some source) :
    ∃ html before after, .static html ∈ Segment.preorderAll (generate o p).template.segments
      ∧ html = before ++ "<button class=\"qcl-button\" type=\"button\" data-qcl-action=\"" ++ after
      ∧ attributeValue after = source := by
  obtain ⟨depth, hnode⟩ := Lowering.infix_of_reaches (l := ⟨o.layout, p.state⟩) hn 0
  obtain ⟨html, hmem, before, after, hhtml⟩ :=
    Template.carries_ofSteps (by decide) ((Lowering.infix_button hkind haction depth).trans hnode)
  have htag :
      String.join ["<button class=\"qcl-button\"", attr "type" "button",
        attr "data-qcl-action" source]
      = "<button class=\"qcl-button\" type=\"button\" data-qcl-action=\""
          ++ (escape source ++ "\"") := by
    have htype : attr "type" "button" = " type=\"button\"" := by decide
    rw [String.join_cons, String.join_cons, String.join_cons, String.join_nil, String.append_empty,
      htype, attr]
    simp only [← String.append_assoc]
    rfl
  refine ⟨html, before, escape source ++ "\"" ++ after, hmem, ?_,
    Markup.attributeValue_escape source after⟩
  rw [hhtml, htag]
  simp only [String.append_assoc]

/-- **Stored actions and actions parsed on the spot agree.** The template of a page is built by a
walk that gets to the nodes below open ones and looks at nothing below closed ones. The texts of
the stored actions are the trimmed texts of the actions, if not blank, of the buttons that this
walk gets to. The opening tag of each such button is in the template, and whoever reads its
attribute has the text that is stored. What is stored for a text is the program that parsing it
gives, or the wording of the error. So a session with these actions executes every text, stored or
not and with any blanks around it, as if it parsed it on the spot, and as a session without stored
actions does. -/
theorem Artifact.compiled_actions_agree (o : GenerateOptions) (p : Page) :
    let a := generate o p
    let l : Lowering := ⟨o.layout, p.state⟩
    let Reached := Node.Reaches (fun m => m.showsChildren = true) p.root.children
    (a.template = .ofSteps (l.nodes 0 p.root.children)
      ∧ (∀ n, Reached n → ∃ depth, l.node depth n <:+: l.nodes 0 p.root.children)
      ∧ ∀ n : Node, n.showsChildren = false →
          ∀ depth children, l.node depth { n with children } = l.node depth n)
    ∧ (∀ source, source ∈ a.actions.keys
        ↔ ∃ n, Reached n ∧ n.kind = "Button" ∧ ∃ text, n.property? "action" = some text
            ∧ Text.trimmed text ≠ "" ∧ Text.trimmed text = source)
    ∧ (∀ n text, Reached n → n.kind = "Button" → n.property? "action" = some text →
      Text.trimmed text ≠ "" →
        (∀ depth, ["<button class=\"qcl-button\"", attr "type" "button",
            attr "data-qcl-action" (Text.trimmed text)].map BuildStep.static <:+: l.node depth n)
        ∧ ∃ html before after, .static html ∈ Segment.preorderAll a.template.segments
          ∧ html = before ++ "<button class=\"qcl-button\" type=\"button\" data-qcl-action=\""
            ++ after
          ∧ attributeValue after = Text.trimmed text
          ∧ attributeValue after ∈ a.actions.keys)
    ∧ (∀ source ∈ a.actions.keys,
        (∀ q, Program.parse source = .ok q → a.actions.get? source = some (.program q))
        ∧ ∀ e, Program.parse source = .error e → a.actions.get? source = some (.error e.message))
    ∧ ∀ (s : Session) (action : String),
        let stored : Session := { s with actions := a.actions }
        stored.execute action
            = (match Program.parse (Text.trimmed action) with
              | .ok q => (q.execute s.start s.state).map fun t => { stored with state := t }
              | .error e => .error (.unparsed (Text.trimmed action) e.message))
        ∧ stored.execute action
            = (Session.execute { s with actions := ∅ } action).map fun t =>
                { t with actions := a.actions } := by
  intro a l Reached
  have hkeys (source : String) : source ∈ a.actions.keys
      ↔ ∃ n, Reached n ∧ n.kind = "Button" ∧ n.action? = some source := by
    rw [show a.actions = ActionTable.ofNodes (Node.shownAll p.root.children) from rfl,
      ActionTable.mem_keys_ofNodes]
    refine exists_congr fun n => ?_
    rw [Node.mem_shownAll_iff, Node.buttonAction?_eq_some_iff]
  refine ⟨⟨rfl, fun n hn => Lowering.infix_of_reaches hn 0,
    fun n hclosed => Lowering.node_of_closed hclosed⟩, ?_, ?_,
    fun source hsource => ActionTable.get?_ofNodes hsource, ?_⟩
  · intro source
    rw [hkeys]
    refine exists_congr fun n => and_congr_right fun _ => and_congr_right fun _ => ?_
    rw [Node.action?_eq_some_iff]
  · intro n text hn hkind htext hblank
    have haction : n.action? = some (Text.trimmed text) :=
      Node.action?_eq_some_iff.mpr ⟨text, htext, hblank, rfl⟩
    obtain ⟨html, before, after, hmem, hhtml, hvalue⟩ :=
      exists_static_button (o := o) hn hkind haction
    refine ⟨Lowering.infix_button hkind haction, html, before, after, hmem, hhtml, hvalue, ?_⟩
    rw [hvalue]
    exact (hkeys _).mpr ⟨n, hn, hkind, haction⟩
  · intro s action stored
    have hstored := Session.execute_ofNodes (s := stored) (Node.shownAll p.root.children) rfl action
    have hempty := Session.execute_ofNodes (s := { s with actions := ∅ }) [] rfl action
    rw [hstored, hempty]
    unfold Session.parsed
    cases Program.parse (Text.trimmed action) with
    | error e => exact ⟨rfl, rfl⟩
    | ok q =>
      refine ⟨rfl, ?_⟩
      show (q.execute s.start s.state).map _ = ((q.execute s.start s.state).map _).map _
      cases q.execute s.start s.state <;> rfl

end PageLang
