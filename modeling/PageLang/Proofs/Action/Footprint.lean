import PageLang.Proofs.Action.Outcome

/-!
# The footprint of an action

An action can tell two states apart only by the entries that it names, and it leaves every entry
alone that is not the target of one of its statements. The names are those that a check ahead of
running collects (`Program.names`), by a walk that knows nothing of running.

Two runs are compared step by step. What an expression gives is the same in states that agree on
the entries it reads (`Expr.evaluate_congr`), so both runs take the same branches, and all that
has to be carried along is that the states still agree (`Alike`). The frame is an invariant of a
single run (`Spares`).

> `Program.execute_footprint`: from states that agree on the names of an action it fails with the
> same error or leads to states that agree on them, and a run changes nothing but its targets.
-/

namespace PageLang

/-! ## Two runs -/

/-- Two computations end alike: they fail with the same error, or give related values. -/
inductive Alike {α : Type} (related : α → α → Prop) : Except ActionError α → Except ActionError α →
    Prop where
  | failed (e : ActionError) : Alike related (.error e) (.error e)
  | gave {a b : α} (h : related a b) : Alike related (.ok a) (.ok b)

section Alike

variable {α β : Type} {related : α → α → Prop}

/-- What goes on from one value goes on alike. -/
theorem Alike.bind_same {x : Except ActionError β} {f g : β → Except ActionError α}
    (h : ∀ b, Alike related (f b) (g b)) : Alike related (x >>= f) (x >>= g) := by
  cases x with
  | ok b => exact h b
  | error e => exact .failed e

/-- Loops of which every round ends alike end alike. -/
theorem Alike.foldlM {f g : α → β → Except ActionError α} {xs : List β}
    (hround : ∀ x ∈ xs, ∀ a b, related a b → Alike related (f a x) (g b x)) {a b : α}
    (h : related a b) : Alike related (xs.foldlM f a) (xs.foldlM g b) := by
  induction xs generalizing a b with
  | nil => exact .gave h
  | cons x xs ih =>
    rw [List.foldlM_cons, List.foldlM_cons]
    have hx := hround x (List.mem_cons_self ..) a b h
    -- The first round of both fails, or the other rounds go on from related values.
    generalize f a x = first at hx ⊢
    generalize g b x = second at hx ⊢
    cases hx with
    | failed e => exact .failed e
    | gave h' => exact ih (fun y hy => hround y (List.mem_cons_of_mem _ hy)) h'

end Alike

/-- Two states have the same of some entries: both miss one, or both give it the same value. -/
def State.AgreeOn (names : List String) (s t : State) : Prop :=
  ∀ name ∈ names, s.get? name = t.get? name

variable {names : List String} {start s t : State}

/-- States that agree on a name have the same value for it. -/
theorem State.AgreeOn.value_eq (h : State.AgreeOn names s t) {name : String}
    (hname : name ∈ names) : s.value name = t.value name := by
  unfold State.value
  rw [h name hname]

/-- They still agree when an entry is set in both. -/
theorem State.AgreeOn.set (h : State.AgreeOn names s t) {name : String} (hname : name ∈ names)
    (v : Value) : Alike (State.AgreeOn names) (s.set name v) (t.set name v) := by
  have hcontains : s.contains name = t.contains name := by
    unfold OrderedMap.contains
    rw [h name hname]
  unfold State.set
  rw [hcontains]
  split
  · refine .gave fun other hother => ?_
    rw [OrderedMap.get?_insert, OrderedMap.get?_insert, h other hother]
  · exact .failed _

mutual

/-- An expression has the same value in states that agree on the entries named in it. -/
theorem Expr.evaluate_congr (e : Expr) (h : ∀ name, .variable name ∈ e.subterms →
    s.get? name = t.get? name) : e.evaluate s = e.evaluate t := by
  match e with
  | .number _ => rfl
  | .string _ => rfl
  | .boolean _ => rfl
  | .variable name =>
    rw [Expr.evaluate, Expr.evaluate, State.value, State.value, h name (List.mem_singleton_self _)]
  | .unary op operand =>
    rw [Expr.subterms] at h
    have hoperand := Expr.evaluate_congr operand fun name hmem =>
      h name (List.mem_cons_of_mem _ hmem)
    rw [Expr.evaluate, Expr.evaluate, hoperand]
  | .binary left op right =>
    rw [Expr.subterms] at h
    have hleft := Expr.evaluate_congr left fun name hmem =>
      h name (List.mem_cons_of_mem _ (List.mem_append_left _ hmem))
    have hright := Expr.evaluate_congr right fun name hmem =>
      h name (List.mem_cons_of_mem _ (List.mem_append_right _ hmem))
    rw [Expr.evaluate, Expr.evaluate, hleft, hright]
  | .call f es =>
    rw [Expr.subterms] at h
    have hall := Expr.evaluateAll_congr es fun name hmem => h name (List.mem_cons_of_mem _ hmem)
    rw [Expr.evaluate, Expr.evaluate, hall]

/-- Expressions depend on the entries they read. -/
theorem Expr.evaluateAll_congr (es : List Expr)
    (h : ∀ name, .variable name ∈ Expr.subtermsOf es → s.get? name = t.get? name) :
    Expr.evaluateAll s es = Expr.evaluateAll t es := by
  match es with
  | [] => rfl
  | e :: es =>
    rw [Expr.subtermsOf] at h
    have he := Expr.evaluate_congr e fun name hmem => h name (List.mem_append_left _ hmem)
    have hes := Expr.evaluateAll_congr es fun name hmem => h name (List.mem_append_right _ hmem)
    rw [Expr.evaluateAll, Expr.evaluateAll, he, hes]

end

/-- Or stepped in both. -/
theorem State.AgreeOn.step (h : State.AgreeOn names s t) {name : String} (hname : name ∈ names)
    (delta : Float) : Alike (State.AgreeOn names) (s.step name delta) (t.step name delta) := by
  unfold State.step
  rw [h.value_eq hname]
  exact .bind_same fun v => .bind_same fun x => h.set hname _

/-- Or changed by the same call. -/
theorem State.AgreeOn.call (h : State.AgreeOn names s t) {function : String} {arguments : List Expr}
    (harguments : ∀ name, .variable name ∈ Expr.subtermsOf arguments → name ∈ names) :
    Alike (State.AgreeOn names) (State.call start s function arguments)
      (State.call start t function arguments) := by
  unfold State.call
  split
  · next name =>
    have hname : name ∈ names := harguments name (List.mem_singleton_self _)
    split
    · rw [h.value_eq hname]
      exact .bind_same fun v => h.set hname _
    · -- `reset` reads the state at the start, which both runs have in common.
      exact .bind_same fun v => h.set hname _
    · exact .failed _
  · exact .failed _
  · exact .failed _

/-- A statement ends alike in states that agree on what it names. -/
theorem Statement.alike_execute (st : Statement) (hnames : ∀ name, st.Names name → name ∈ names)
    (h : State.AgreeOn names s t) :
    Alike (State.AgreeOn names) (st.execute start s) (st.execute start t) := by
  have hexpression {e : Expr} (he : st.operands = [e]) : e.evaluate s = e.evaluate t := by
    refine Expr.evaluate_congr e fun name hmem => h name (hnames name (.inr ?_))
    rw [he, Expr.subtermsOf]
    exact List.mem_append_left _ hmem
  cases st with
  | assign name e =>
    have hname : name ∈ names := hnames name (.inl rfl)
    rw [Statement.execute, Statement.execute, h.value_eq hname, hexpression rfl]
    exact .bind_same fun _ => .bind_same fun v => h.set hname v
  | compound name op e =>
    have hname : name ∈ names := hnames name (.inl rfl)
    rw [Statement.execute, Statement.execute, h.value_eq hname, hexpression rfl]
    exact .bind_same fun current => .bind_same fun v => .bind_same fun w => h.set hname w
  | increment name => exact h.step (hnames name (.inl rfl)) 1
  | decrement name => exact h.step (hnames name (.inl rfl)) (-1)
  | call f es => exact h.call fun name hmem => hnames name (.inr hmem)

/-- An action ends alike in states that agree on its names. -/
theorem Program.alike_execute (p : Program) (start : State) (h : State.AgreeOn p.names s t) :
    Alike (State.AgreeOn p.names) (p.execute start s) (p.execute start t) := by
  rw [p.execute_eq_foldlM, p.execute_eq_foldlM]
  refine Alike.foldlM (fun st hst s' t' h' => ?_) h
  exact st.alike_execute (fun name hname => p.mem_names_iff.mpr ⟨st, hst, hname⟩) h'

/-! ## What a run leaves alone -/

/-- The entry that a statement writes when it succeeds: by its form, or as what it toggles or
resets. -/
def Statement.writes? : Statement → Option String
  | .call function [.variable name] =>
    if function = "toggle" ∨ function = "reset" then some name else none
  | st => st.target?

/-- The targets of the statements of an action. -/
def Program.targets (p : Program) : List String := p.statements.filterMap Statement.writes?

/-- The state that an action leaves behind: the one it leads to, or the old one when it fails. -/
def Program.after (start : State) (p : Program) (s : State) : State :=
  (p.execute start s).toOption.getD s

/-- A statement names what it writes. -/
theorem Statement.names_of_writes? {st : Statement} {name : String} (h : st.writes? = some name) :
    st.Names name := by
  unfold Statement.writes? at h
  split at h
  · next function target =>
    split at h
    · cases h
      exact .inr (List.mem_singleton_self _)
    · cases h
  · exact .inl h

/-- An action names what it writes. -/
theorem Program.targets_subset_names (p : Program) : p.targets ⊆ p.names := by
  intro name hname
  obtain ⟨st, hst, hwrites⟩ := List.mem_filterMap.mp hname
  exact p.mem_names_iff.mpr ⟨st, hst, Statement.names_of_writes? hwrites⟩

/-- A state has the entries of another one in the same places, and outside the targets with their
values. -/
structure Spares (targets : List String) (s t : State) : Prop where
  keys : t.keys = s.keys
  entry : ∀ (i : Nat) (e : String × Value), s.entries[i]? = some e → e.1 ∉ targets →
    t.entries[i]? = some e

variable {targets : List String}

theorem Spares.refl (targets : List String) (s : State) : Spares targets s s :=
  ⟨rfl, fun _ _ he _ => he⟩

theorem OrderedMap.getElem?_insertEntry {α : Type} {key : String} {value : α}
    {entries : List (String × α)} {i : Nat} {e : String × α} (he : entries[i]? = some e)
    (hne : e.1 ≠ key) : (insertEntry key value entries)[i]? = some e := by
  induction entries generalizing i with
  | nil => cases he
  | cons d rest ih =>
    obtain ⟨k, v⟩ := d
    rw [insertEntry]
    by_cases hk : k = key
    · rw [if_pos hk]
      cases i with
      | zero =>
        cases he
        exact absurd hk hne
      | succ i => exact he
    · rw [if_neg hk]
      cases i with
      | zero => exact he
      | succ i => exact ih he

/-- Setting a target keeps what was kept before. -/
theorem Spares.set (h : Spares targets s t) {name : String} (hname : name ∈ targets) (v : Value) :
    Outcome (fun _ => True) (Spares targets s) (t.set name v) := by
  unfold State.set
  split
  · next hdeclared =>
    refine ⟨?_, fun i e he hother => ?_⟩
    · rw [OrderedMap.keys_insert, if_pos (OrderedMap.contains_iff.mp hdeclared)]
      exact h.keys
    · have hne : e.1 ≠ name := fun heq => hother (heq ▸ hname)
      exact OrderedMap.getElem?_insertEntry (h.entry i e he hother) hne
  · trivial

/-- What is computed before the state is changed does not matter. -/
theorem Spares.bind {α : Type} {x : Except ActionError α} {f : α → Except ActionError State}
    (h : ∀ a, Outcome (fun _ => True) (Spares targets s) (f a)) :
    Outcome (fun _ => True) (Spares targets s) (x >>= f) := by
  cases x with
  | ok a => exact h a
  | error e => trivial

/-- A statement keeps what was kept before, if it writes nothing but a target. -/
theorem Statement.spares_execute (st : Statement) (htargets : ∀ name, st.writes? = some name →
    name ∈ targets)
    (h : Spares targets s t) : Outcome (fun _ => True) (Spares targets s) (st.execute start t) := by
  cases st with
  | assign name e => exact Spares.bind fun _ => Spares.bind fun v => h.set (htargets name rfl) v
  | compound name op e =>
    exact Spares.bind fun current => Spares.bind fun v => Spares.bind fun w =>
      h.set (htargets name rfl) w
  | increment name => exact Spares.bind fun _ => Spares.bind fun x => h.set (htargets name rfl) _
  | decrement name => exact Spares.bind fun _ => Spares.bind fun x => h.set (htargets name rfl) _
  | call f es =>
    show Outcome _ _ (State.call start t f es)
    unfold State.call
    split
    · next name =>
      split
      · exact Spares.bind fun v => h.set (htargets name rfl) _
      · exact Spares.bind fun v => h.set (htargets name rfl) _
      · trivial
    · trivial
    · trivial

/-- A run keeps everything but its targets, whether it fails or not. -/
theorem Program.spares_after (p : Program) (start s : State) :
    Spares p.targets s (p.after start s) := by
  have hrun : Outcome (fun _ => True) (Spares p.targets s) (p.execute start s) := by
    rw [p.execute_eq_foldlM]
    refine .foldlM (fun st hst t h => ?_) (Spares.refl p.targets s)
    exact st.spares_execute (fun name hname => List.mem_filterMap.mpr ⟨st, hst, hname⟩) h
  unfold Program.after
  generalize p.execute start s = outcome at hrun ⊢
  cases outcome with
  | ok t => exact hrun
  | error e => exact Spares.refl p.targets s

/-- **The footprint of an action.** For every action, whether the grammar can write it or not, and
every state at the start:

* from two states that agree on the names of the action, which are those collected ahead of
  running, it fails with the same error or leads to states that agree on these names again;
* each run leaves the same entries in the same places, and an entry that the action does not name,
  or that is not the target of one of its statements, with its value. -/
theorem Program.execute_footprint (p : Program) (start s t : State)
    (h : State.AgreeOn p.names s t) :
    Alike (State.AgreeOn p.names) (p.execute start s) (p.execute start t)
    ∧ ∀ u : State, (p.after start u).keys = u.keys
      ∧ ∀ (i : Nat) (e : String × Value), u.entries[i]? = some e → e.1 ∉ p.names ∨ e.1 ∉ p.targets →
        (p.after start u).entries[i]? = some e := by
  refine ⟨p.alike_execute start h, fun u => ?_⟩
  have hspares := p.spares_after start u
  refine ⟨hspares.keys, fun i e he hother => hspares.entry i e he ?_⟩
  rcases hother with hunnamed | huntouched
  · exact fun hmem => hunnamed (p.targets_subset_names hmem)
  · exact huntouched

/-- An action that reads one entry, sets another one and resets a third. -/
def lampAction : Program where
  source := "lamp = door && 'on'; reset(tries)"
  statements := [
    .assign "lamp" (.binary (.variable "door") .and (.string "on")),
    .call "reset" [.variable "tries"]]

/-- A state with an entry that the action does not name. -/
def lampState (note : String) : State :=
  .ofList [("door", .text "open"), ("note", .text note), ("lamp", .text "off"),
    ("tries", .text "3")]

/-- States that differ in the note agree on the names of the action, and the note stays in its
place. -/
theorem execute_footprint_lampAction :
    State.AgreeOn lampAction.names (lampState "a") (lampState "b")
    ∧ lampState "a" ≠ lampState "b"
    ∧ Alike (State.AgreeOn lampAction.names) (lampAction.execute (lampState "c") (lampState "a"))
      (lampAction.execute (lampState "c") (lampState "b"))
    ∧ (lampAction.after (lampState "c") (lampState "a")).entries[1]?
      = some ("note", .text "a") := by
  have hagree : State.AgreeOn lampAction.names (lampState "a") (lampState "b") := by
    unfold State.AgreeOn
    decide +kernel
  have h := lampAction.execute_footprint (lampState "c") (lampState "a") (lampState "b") hagree
  refine ⟨hagree, by decide +kernel, h.1, ?_⟩
  exact (h.2 (lampState "a")).2 1 ("note", .text "a") (by decide +kernel) (.inl (by decide +kernel))

end PageLang
