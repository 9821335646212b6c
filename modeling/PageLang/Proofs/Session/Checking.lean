import PageLang.Artifact
import PageLang.Proofs.Template.Entries

/-!
# Checking ahead is sound

When generating a page reports nothing, nothing that could have been reported goes wrong while the
page is in use. Two facts meet here. What is found ahead covers what is needed later: every entry
that an action, a condition or a hole wants is declared. And no request changes which entries
there are, so that what is declared is there at every moment.

> `Artifact.session_sound`: after any requests, the actions of a page parse and miss no entry, its
> conditions miss none, and every hole shows the value of one.
-/

namespace PageLang

/-! ## Requests -/

/-- What may be asked of a page in use. -/
inductive Request where
  | run (action : String)
  | execute (action : String)
  | bind (name raw : String)
  | bindChecked (name : String) (checked : Bool)
  deriving Repr

namespace Session

/-- The state that an action leads to, or why it leads to none. -/
def outcome (s : Session) (action : String) : Except ActionError State := do
  (← s.program (Text.trimmed action)).execute s.start s.state

/-- An action changes nothing of a session but the state, and that only if it leads to one. -/
theorem perform_eq (s : Session) (action : String) :
    s.perform action =
      match s.outcome action with
      | .ok t => ({ s with state := t }, none)
      | .error e => (s, some e) := by
  unfold perform outcome
  cases s.program (Text.trimmed action) with
  | error e => rfl
  | ok p =>
    have hbind : (Except.ok p >>= fun q : Program => q.execute s.start s.state)
        = p.execute s.start s.state := rfl
    dsimp only
    rw [p.commit_eq, hbind]
    cases p.execute s.start s.state <;> rfl

/-- An action changes the state only, by its outcome. -/
theorem execute_eq (s : Session) (action : String) :
    s.execute action = (s.outcome action).map fun t => { s with state := t } := by
  rw [execute, perform_eq]
  cases s.outcome action <;> rfl

/-- The session after a request. -/
def serve (s : Session) : Request → Session
  | .run action => (s.run action).1
  | .execute action => (s.perform action).1
  | .bind name raw => (s.bind name raw).toOption.getD s
  | .bindChecked name checked => (s.bindChecked name checked).toOption.getD s

/-- The session after requests one after the other. -/
def serveAll (s : Session) (requests : List Request) : Session := requests.foldl serve s

/-- A session of an artifact: nothing but the values of entries may have changed. -/
structure Of (a : Artifact) (s : Session) : Prop where
  template : s.template = a.template
  actions : s.actions = a.actions
  start : s.start.keys = a.state.keys
  state : s.state.keys = a.state.keys

variable {a : Artifact} {s : Session} {missing : String → Prop}

/-- A new session is one of its artifact. -/
theorem of_session (a : Artifact) : Of a a.session where
  template := rfl
  actions := rfl
  start := OrderedMap.keys_mapValues _ _
  state := OrderedMap.keys_mapValues _ _

/-- A change to the state alone keeps the session one of the artifact if the entries stay. -/
theorem Of.outcome_state (h : s.Of a) {x : Except ActionError State}
    (hx : Leaves missing a.state.keys x) :
    Outcome (ActionError.Misses missing) (Of a) (do return { s with state := ← x }) :=
  .bind hx fun _ hkeys => ⟨h.template, h.actions, h.start, hkeys⟩

/-- An action leads to a state with the same entries. It fails as finding its program fails, or by
missing entries that the program names. -/
theorem Of.outcome_program {fails : ActionError → Prop} (h : s.Of a) (action : String)
    (hprogram : Outcome fails (fun p => ∀ st ∈ p.statements, ∀ name, st.Names name →
      name ∉ a.state.keys → missing name) (s.program (Text.trimmed action)))
    (hfails : ∀ e : ActionError, e.Misses missing → fails e) :
    Outcome fails (fun t => t.keys = a.state.keys) (s.outcome action) :=
  hprogram.bind fun p hp => (p.leaves_execute h.start h.state hp).mono hfails fun _ => id

/-- An action leads to a session of the artifact, and fails as the state it would lead to does. -/
theorem Of.outcome_execute {fails : ActionError → Prop} (h : s.Of a) (action : String)
    (hprogram : Outcome fails (fun p => ∀ st ∈ p.statements, ∀ name, st.Names name →
      name ∉ a.state.keys → missing name) (s.program (Text.trimmed action)))
    (hfails : ∀ e : ActionError, e.Misses missing → fails e) :
    Outcome fails (Of a) (s.execute action) := by
  have houtcome := h.outcome_program action hprogram hfails
  rw [execute_eq]
  cases hstate : s.outcome action with
  | error e => rwa [hstate] at houtcome
  | ok t =>
    rw [hstate] at houtcome
    exact ⟨h.template, h.actions, h.start, houtcome⟩

/-- A request that fails leaves a session of the artifact. -/
theorem Of.getD (h : s.Of a) {fails : ActionError → Prop} {x : Except ActionError Session}
    (hx : Outcome fails (Of a) x) : (x.toOption.getD s).Of a := by
  cases x with
  | ok t => exact hx
  | error e => exact h

/-- No request changes which entries there are. -/
theorem Of.serve (h : s.Of a) (request : Request) : (s.serve request).Of a := by
  have hprogram (source : String) : Outcome (fun _ => True)
      (fun p => ∀ st ∈ p.statements, ∀ name, st.Names name → name ∉ a.state.keys → True)
      (s.program source) := by
    cases s.program source with
    | ok p => exact fun _ _ _ _ _ => trivial
    | error e => trivial
  have hperform (action : String) : (s.perform action).1.Of a := by
    have houtcome := h.outcome_program action (hprogram _) fun _ _ => trivial
    rw [perform_eq]
    cases hstate : s.outcome action with
    | error e => exact h
    | ok t =>
      rw [hstate] at houtcome
      exact ⟨h.template, h.actions, h.start, houtcome⟩
  have hset (name : String) (v : Value) :
      Leaves (fun _ => True) a.state.keys (s.state.set name v) :=
    leaves_set h.state fun _ => trivial
  cases request with
  | run action => exact hperform action
  | execute action => exact hperform action
  | bind name raw => exact h.getD (h.outcome_state (hset name _))
  | bindChecked name checked => exact h.getD (h.outcome_state (hset name _))

/-- After any requests the session is one of the artifact it started from. -/
theorem of_serveAll (a : Artifact) (requests : List Request) :
    (a.session.serveAll requests).Of a := by
  suffices hrun : ∀ s : Session, s.Of a → (s.serveAll requests).Of a from hrun _ (of_session a)
  induction requests with
  | nil => exact fun s hs => hs
  | cons request requests ih => exact fun s hs => ih _ (hs.serve request)

end Session

/-! ## What was found -/

/-- Nothing is found in any shown node if nothing is reported. -/
theorem Artifact.check_eq_nil {o : GenerateOptions} {p : Page}
    (h : (generate o p).diagnostics = p.diagnostics) :
    ∀ n ∈ Node.shownAll p.root.children, p.state.check n = [] := by
  intro n hn
  have hnil : p.state.diagnostics (Node.shownAll p.root.children) = [] :=
    List.append_right_eq_self.mp h
  have hnone := List.flatMap_eq_nil_iff.mp hnil n hn
  exact List.map_eq_nil_iff.mp hnone

theorem Node.trimmed_of_action? {n : Node} {source : String} (h : n.action? = some source) :
    Text.trimmed source = source := by
  unfold Node.action? at h
  split at h
  · cases h
  · split at h
    · cases h
    · rw [← Option.some.inj h, Text.trimmed_trimmed]

theorem Node.of_buttonAction? {n : Node} {source : String} (h : n.buttonAction? = some source) :
    n.element = .button ∧ n.action? = some source := by
  unfold Node.buttonAction? at h
  split at h
  · next helement => exact ⟨helement, h⟩
  · cases h

/-- An action in which nothing is found parses, and what it names is declared. -/
theorem StateTable.exists_program {t : StateTable} {source : String}
    (h : t.checkAction source = []) :
    ∃ p, Program.parse source = .ok p ∧ ∀ name ∈ p.names, t.contains name = true := by
  unfold checkAction at h
  cases hparse : Program.parse source with
  | error e =>
    rw [hparse] at h
    cases h
  | ok p =>
    rw [hparse] at h
    exact ⟨p, rfl, contains_of_undeclared_eq_nil h⟩

/-- A stored action is that of a button, stored with what its text gives. -/
theorem ActionTable.of_mem_keys {shown : List Node} {source : String}
    (h : source ∈ (ofNodes shown).keys) : (∃ n ∈ shown, n.buttonAction? = some source)
    ∧ (ofNodes shown).get? source = some (.ofSource source) := by
  obtain ⟨compiled, hget⟩ := Option.isSome_iff_exists.mp (OrderedMap.contains_iff.mpr h)
  have hmem := OrderedMap.mem_of_mem_ofList (OrderedMap.mem_entries_of_get? hget)
  obtain ⟨text, htext, heq⟩ := List.mem_map.mp hmem
  obtain ⟨rfl, rfl⟩ := Prod.mk.inj heq
  exact ⟨List.mem_filterMap.mp htext, hget⟩

/-- A stored action is the trimmed text of a button, stored with its program. -/
theorem ActionTable.get?_of_mem_keys {t : StateTable} {shown : List Node} {source : String}
    (hcheck : ∀ n ∈ shown, t.check n = []) (h : source ∈ (ofNodes shown).keys) :
    Text.trimmed source = source ∧ ∃ p, (ofNodes shown).get? source = some (.program p)
      ∧ ∀ name ∈ p.names, t.contains name = true := by
  obtain ⟨⟨n, hn, hbutton⟩, hget⟩ := of_mem_keys h
  obtain ⟨helement, haction⟩ := Node.of_buttonAction? hbutton
  have hfound : t.checkAction source = [] := by
    rw [← hcheck n hn, StateTable.check, helement]
    simp only [haction]
  obtain ⟨p, hparse, hnames⟩ := StateTable.exists_program hfound
  refine ⟨Node.trimmed_of_action? haction, p, ?_, hnames⟩
  rw [hget, CompiledAction.ofSource, hparse]

/-! ## Sessions of a page in which nothing was found -/

section Sound

variable {o : GenerateOptions} {p : Page} {s : Session} (hs : s.Of (Artifact.generate o p))
  (hcheck : ∀ n ∈ Node.shownAll p.root.children, p.state.check n = [])
include hs hcheck

/-- A stored action fails only for reasons that show when it runs. -/
theorem Session.Of.outcome_stored {source action : String}
    (hsource : source ∈ (ActionTable.ofNodes (Node.shownAll p.root.children)).keys)
    (haction : action = source ∨ Text.trimmed action = source) :
    Outcome (ActionError.Misses fun _ => False) (Session.Of (Artifact.generate o p))
      (s.execute action) := by
  obtain ⟨htrimmed, q, hget, hnames⟩ := ActionTable.get?_of_mem_keys hcheck hsource
  -- Stored texts are trimmed, so that trimming the request again finds them.
  have hkey : Text.trimmed action = source := by
    rcases haction with rfl | haction
    · exact htrimmed
    · exact haction
  have hactions : s.actions = ActionTable.ofNodes (Node.shownAll p.root.children) := hs.actions
  have hprogram : s.program (Text.trimmed action) = .ok q := by
    rw [Session.program, hkey, hactions, hget]
  refine hs.outcome_execute action ?_ fun _ => id
  rw [hprogram]
  intro st hst name hname hmissing
  have hdeclared := hnames name (Program.mem_names_iff.mpr ⟨st, hst, hname⟩)
  exact hmissing (OrderedMap.contains_iff.mp hdeclared)

/-- What a segment needs is there. -/
theorem Session.Of.mem_keys_of_needs {x : Segment} {name : String}
    (hx : x ∈ Segment.preorderAll (Lowering.template ⟨o.layout, p.state⟩ p.root.children).segments)
    (hname : name ∈ x.needs) : name ∈ s.state.keys := by
  have hkeys : s.state.keys = p.state.keys := hs.state
  have hdeclared : p.state.contains name = true :=
    Lowering.needsOnly_template hcheck x hx name hname
  rw [hkeys]
  exact OrderedMap.contains_iff.mp hdeclared

end Sound

/-- **Checking ahead is sound.** If generating a page reports nothing, then after any requests the
entries are the declared ones, its actions never fail for being no action or for want of an entry,
its conditions never fail for want of an entry, and every entry that a hole shows has a value. -/
theorem Artifact.session_sound (o : GenerateOptions) (p : Page)
    (h : (generate o p).diagnostics = p.diagnostics) (requests : List Request) :
    ((generate o p).session.serveAll requests).state.keys = p.state.keys
    ∧ (∀ source ∈ (generate o p).actions.keys, ∀ action, action = source
      ∨ Text.trimmed action = source →
        ∀ e, ((generate o p).session.serveAll requests).execute action = .error e →
          (∀ text reason, e ≠ .unparsed text reason) ∧ ∀ name, e ≠ .unknownState name)
    ∧ (∀ condition body,
        .conditional condition body ∈ Segment.preorderAll (generate o p).template.segments →
        ∀ name, condition.evaluate ((generate o p).session.serveAll requests).state
          ≠ .error (.unknownState name))
    ∧ (∀ name, .text name ∈ Segment.preorderAll (generate o p).template.segments
        ∨ .checked name ∈ Segment.preorderAll (generate o p).template.segments
        ∨ (∃ option, .selected name option ∈ Segment.preorderAll (generate o p).template.segments) →
        ∃ v, ((generate o p).session.serveAll requests).state.get? name = some v) := by
  have hcheck := check_eq_nil h
  have hs := Session.of_serveAll (generate o p) requests
  refine ⟨hs.state, ?_, ?_, ?_⟩
  · intro source hsource action haction e he
    have houtcome := hs.outcome_stored hcheck hsource haction
    rw [he] at houtcome
    exact houtcome.ne
  · intro condition body hmem name he
    have houtcome : Computes (fun _ => False)
        (condition.evaluate ((generate o p).session.serveAll requests).state) := by
      refine condition.computes_evaluate fun name hname hmissing => hmissing ?_
      exact hs.mem_keys_of_needs hcheck hmem (Expr.mem_names_iff.mpr hname)
    rw [he] at houtcome
    exact houtcome
  · intro name hmem
    have hkey : name ∈ ((generate o p).session.serveAll requests).state.keys := by
      -- Each of these segments needs the one entry that it shows.
      rcases hmem with hmem | hmem | ⟨option, hmem⟩
      · exact hs.mem_keys_of_needs hcheck hmem (List.mem_singleton_self _)
      · exact hs.mem_keys_of_needs hcheck hmem (List.mem_singleton_self _)
      · exact hs.mem_keys_of_needs hcheck hmem (List.mem_singleton_self _)
    exact Option.isSome_iff_exists.mp (OrderedMap.contains_iff.mpr hkey)

/-- A page with an action, a condition, a control and a marker. -/
def doorPage : Page where
  root := { kind := "Page", line := 1, children := [
    { kind := "Button", properties := .ofList [("action", " toggle(open) ")], line := 2 },
    { kind := "If", properties := .ofList [("condition", "open && guest != 'you'")], line :=
      3, children := [
      { kind := "Checkbox", properties := .ofList [("bind", "open")], line := 4 },
      { kind := "Text", content := "\x7bguest\x7d", line := 5 }] }] }
  state := .ofList [("open", .text ""), ("guest", .text "you")]

/-- Requests to it: some of them fail, for want of an entry or of an action. -/
def doorRequests : List Request :=
  [.bindChecked "open" true, .bind "door" "oak", .run "guest = open", .execute "door++",
    .run "guest ="]

/-- After requests of which some fail, the action on the page misses no entry. -/
theorem session_sound_doorPage :
    (Artifact.generate {} doorPage).diagnostics = doorPage.diagnostics
      ∧ "toggle(open)" ∈ (Artifact.generate {} doorPage).actions.keys
      ∧ ((Artifact.generate {} doorPage).session.serveAll doorRequests).state.keys
        = ["open", "guest"]
      ∧ ∀ e, ((Artifact.generate {} doorPage).session.serveAll doorRequests).execute "toggle(open)"
          = .error e → ∀ name, e ≠ .unknownState name := by
  have h : (Artifact.generate {} doorPage).diagnostics = doorPage.diagnostics := by decide +kernel
  have hsource : "toggle(open)" ∈ (Artifact.generate {} doorPage).actions.keys := by decide +kernel
  obtain ⟨hkeys, hactions, -⟩ := Artifact.session_sound {} doorPage h doorRequests
  exact ⟨h, hsource, hkeys, fun e he => (hactions _ hsource _ (.inl rfl) e he).2⟩

end PageLang
