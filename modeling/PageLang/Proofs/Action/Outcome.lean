import PageLang.Action.Evaluation
import PageLang.Action.Table

/-!
# How actions end

`Outcome fails gives x` says of a computation that it fails only with errors of one kind and gives
only values of another. Outcomes go together along the computation, so that one lemma for each
operation says at once which errors it has and what it keeps:

> `Program.leaves_execute`: an action keeps the entries of the state, and an entry that it misses
> is one that it names.

The same names are what a check ahead of running collects, by a walk of its own.
-/

namespace PageLang

/-- A computation fails only with errors of one kind, and gives only values of one kind. -/
def Outcome {α : Type} (fails : ActionError → Prop) (gives : α → Prop) : Except ActionError α → Prop
  | .ok a => gives a
  | .error e => fails e

section Outcome

variable {α β : Type} {fails : ActionError → Prop} {gives : α → Prop} {gives' : β → Prop}

/-- What a computation gives is what the next one may rely on. -/
theorem Outcome.bind {x : Except ActionError α} {f : α → Except ActionError β}
    (hx : Outcome fails gives x) (hf : ∀ a, gives a → Outcome fails gives' (f a)) :
    Outcome fails gives' (x >>= f) := by
  cases x with
  | ok a => exact hf a hx
  | error e => exact hx

/-- More failures and more results may be allowed. -/
theorem Outcome.mono {fails' : ActionError → Prop} {gives' : α → Prop} {x : Except ActionError α}
    (h : Outcome fails gives x) (hfails : ∀ e, fails e → fails' e)
    (hgives : ∀ a, gives a → gives' a) : Outcome fails' gives' x := by
  cases x with
  | ok a => exact hgives a h
  | error e => exact hfails e h

/-- What every round of a loop keeps holds after the loop. -/
theorem Outcome.foldlM {f : β → α → Except ActionError β} {xs : List α}
    (hf : ∀ x ∈ xs, ∀ b, gives' b → Outcome fails gives' (f b x)) {b : β} (hb : gives' b) :
    Outcome fails gives' (xs.foldlM f b) := by
  induction xs generalizing b with
  | nil => exact hb
  | cons x xs ih =>
    rw [List.foldlM_cons]
    refine .bind (hf x (List.mem_cons_self ..) b hb) fun b' hb' => ?_
    exact ih (fun y hy => hf y (List.mem_cons_of_mem _ hy)) hb'

end Outcome

/-- An error that shows only when an action runs, or that misses an entry of one kind. -/
def ActionError.Misses (missing : String → Prop) : ActionError → Prop
  | .unparsed _ _ => False
  | .unknownState name => missing name
  | .typeClash _ => True
  | .divisionByZero => True
  | .unknownFunction _ => True
  | .arity _ _ _ => True

/-- An error that misses nothing is neither one of parsing nor one of a missing name. -/
theorem ActionError.Misses.ne {e : ActionError} (h : e.Misses fun _ => False) :
    (∀ action reason, e ≠ .unparsed action reason) ∧ ∀ name, e ≠ .unknownState name := by
  constructor
  · rintro action reason rfl
    exact h
  · rintro name rfl
    exact h

/-- A computation that gives any value and misses entries of one kind only. -/
abbrev Computes {α : Type} (missing : String → Prop) : Except ActionError α → Prop :=
  Outcome (ActionError.Misses missing) fun _ => True

variable {missing : String → Prop}

/-! ## Operators and functions -/

/-- Taking a value as a number misses no name. -/
theorem computes_asNumber (wanted : String) (v : Value) : Computes missing (v.asNumber wanted) := by
  cases v <;> trivial

/-- Neither does an operator. -/
theorem computes_apply (op : BinaryOp) (l r : Value) : Computes missing (op.apply l r) := by
  have harithmetic {f : Float → Float → Except ActionError Value}
      (hf : ∀ x y, Computes missing (f x y)) :
      Computes missing (do f (← l.asNumber op.symbol) (← r.asNumber op.symbol)) :=
    .bind (computes_asNumber _ l) fun x _ => .bind (computes_asNumber _ r) fun y _ => hf x y
  have hdivision (x y : Float) (z : Value) :
      Computes missing (if y == 0 then .error .divisionByZero else .ok z) := by
    split <;> trivial
  cases op with
  | add => cases l <;> cases r <;> trivial
  | subtract => exact harithmetic fun _ _ => trivial
  | multiply => exact harithmetic fun _ _ => trivial
  | divide => exact harithmetic fun x y => hdivision x y _
  | remainder => exact harithmetic fun x y => hdivision x y _
  | equals => trivial
  | notEquals => trivial
  | and => trivial
  | or => trivial
  | lessThan => cases l <;> cases r <;> trivial
  | lessThanOrEqual => cases l <;> cases r <;> trivial
  | greaterThan => cases l <;> cases r <;> trivial
  | greaterThanOrEqual => cases l <;> cases r <;> trivial

theorem computes_onlyArgument (function : String) (vs : List Value) :
    Computes missing (onlyArgument function vs) := by
  unfold onlyArgument
  split <;> trivial

/-- Neither does folding numbers. -/
theorem computes_foldNumbers (function : String) (f : Float → Float → Float) (vs : List Value) :
    Computes missing (foldNumbers function f vs) := by
  cases vs with
  | nil => trivial
  | cons v vs =>
    have hround (acc : Float) (w : Value) :
        Computes missing (do .ok (f acc (← w.asNumber function)) : Except ActionError Float) :=
      .bind (computes_asNumber function w) fun _ _ => trivial
    have hfold (x : Float) : Computes missing
        (vs.foldlM (fun acc w => do .ok (f acc (← w.asNumber function))) x) :=
      .foldlM (fun w _ acc _ => hround acc w) trivial
    exact .bind (computes_asNumber function v) fun x _ => .bind (hfold x) fun _ _ => trivial

/-- Neither does a function. -/
theorem computes_callFunction (name : String) (vs : List Value) :
    Computes missing (callFunction name vs) := by
  have hargument {f : Value → Except ActionError Value} (hf : ∀ v, Computes missing (f v)) :
      Computes missing (onlyArgument name vs >>= f) :=
    .bind (computes_onlyArgument name vs) fun v _ => hf v
  unfold callFunction
  split
  · exact computes_foldNumbers _ _ vs
  · exact computes_foldNumbers _ _ vs
  · exact hargument fun v => .bind (computes_asNumber _ v) fun _ _ => trivial
  · exact hargument fun v => .bind (computes_asNumber _ v) fun _ _ => trivial
  · exact hargument fun v => by cases v <;> trivial
  · exact hargument fun _ => trivial
  · exact hargument fun _ => trivial
  · trivial

/-! ## Expressions -/

/-- Reading an entry misses at most its name. -/
theorem computes_value {s : State} {name : String} (h : name ∉ s.keys → missing name) :
    Computes missing (s.value name) := by
  unfold State.value
  split
  · trivial
  · next hnone =>
    refine h fun hmem => ?_
    have hsome : (s.get? name).isSome := OrderedMap.contains_iff.mpr hmem
    rw [hnone] at hsome
    cases hsome

mutual

/-- An expression reads the entries that are named in it. -/
theorem Expr.computes_evaluate {s : State} (e : Expr)
    (h : ∀ name, .variable name ∈ e.subterms → name ∉ s.keys → missing name) :
    Computes missing (e.evaluate s) := by
  match e with
  | .number _ => trivial
  | .string _ => trivial
  | .boolean _ => trivial
  | .variable name =>
    rw [Expr.evaluate]
    exact computes_value (h name (List.mem_singleton_self _))
  | .unary op operand =>
    rw [Expr.evaluate]
    rw [Expr.subterms] at h
    refine .bind (Expr.computes_evaluate operand fun name hmem => ?_) fun v _ => ?_
    · exact h name (List.mem_cons_of_mem _ hmem)
    · cases op with
      | not => trivial
      | negate => exact .bind (computes_asNumber _ v) fun _ _ => trivial
  | .binary left op right =>
    rw [Expr.evaluate]
    rw [Expr.subterms] at h
    have hleft := Expr.computes_evaluate left fun name hmem =>
      h name (List.mem_cons_of_mem _ (List.mem_append_left _ hmem))
    have hright := Expr.computes_evaluate right fun name hmem =>
      h name (List.mem_cons_of_mem _ (List.mem_append_right _ hmem))
    refine .bind hleft fun v _ => ?_
    -- Both `&&` and `||` may leave the right operand alone.
    split
    · split
      · exact .bind hright fun _ _ => trivial
      · trivial
    · split
      · trivial
      · exact .bind hright fun _ _ => trivial
    · exact .bind hright fun w _ => computes_apply _ v w
  | .call f es =>
    rw [Expr.evaluate]
    rw [Expr.subterms] at h
    refine .bind (Expr.computes_evaluateAll es fun name hmem => ?_) fun vs _ =>
      computes_callFunction f vs
    exact h name (List.mem_cons_of_mem _ hmem)

/-- Expressions miss at most the names they read. -/
theorem Expr.computes_evaluateAll {s : State} (es : List Expr)
    (h : ∀ name, .variable name ∈ Expr.subtermsOf es → name ∉ s.keys → missing name) :
    Computes missing (Expr.evaluateAll s es) := by
  match es with
  | [] => trivial
  | e :: es =>
    rw [Expr.evaluateAll]
    rw [Expr.subtermsOf] at h
    refine .bind (Expr.computes_evaluate e fun name hmem => h name (List.mem_append_left _ hmem))
      fun v _ => ?_
    exact .bind
      (Expr.computes_evaluateAll es fun name hmem => h name (List.mem_append_right _ hmem))
      fun _ _ => trivial

end

/-! ## Statements -/

/-- A statement names an entry: as what it writes, or in an expression. -/
def Statement.Names (st : Statement) (name : String) : Prop :=
  st.target? = some name ∨ .variable name ∈ Expr.subtermsOf st.operands

/-- A computation that gives a state with certain entries and misses entries of one kind only. -/
abbrev Leaves (missing : String → Prop) (entries : List String) : Except ActionError State → Prop :=
  Outcome (ActionError.Misses missing) fun s : State => s.keys = entries

variable {entries : List String} {start s : State}

/-- Setting an entry keeps the names, and misses at most its own. -/
theorem leaves_set {name : String} {v : Value} (hs : s.keys = entries)
    (h : name ∉ entries → missing name) : Leaves missing entries (s.set name v) := by
  subst hs
  unfold State.set
  split
  · next hdeclared =>
    show (s.insert name v).keys = s.keys
    rw [OrderedMap.keys_insert, if_pos (OrderedMap.contains_iff.mp hdeclared)]
  · next hmissing => exact h fun hmem => hmissing (OrderedMap.contains_iff.mpr hmem)

/-- So does stepping it. -/
theorem leaves_step {name : String} (delta : Float) (hs : s.keys = entries)
    (h : name ∉ entries → missing name) : Leaves missing entries (s.step name delta) := by
  refine .bind (computes_value (hs ▸ h)) fun v _ => .bind (computes_asNumber name v) fun x _ => ?_
  exact leaves_set hs h

/-- A call keeps the names, and misses at most those its arguments read. -/
theorem leaves_call {function : String} {arguments : List Expr} (hstart : start.keys = entries)
    (hs : s.keys = entries)
    (h : ∀ name, .variable name ∈ Expr.subtermsOf arguments → name ∉ entries → missing name) :
    Leaves missing entries (State.call start s function arguments) := by
  unfold State.call
  split
  · next name =>
    have hname : name ∉ entries → missing name := h name (List.mem_singleton_self _)
    -- `reset` reads the entry in the state at the start, which has the same entries.
    split
    · exact .bind (computes_value (hs ▸ hname)) fun v _ => leaves_set hs hname
    · exact .bind (computes_value (hstart ▸ hname)) fun v _ => leaves_set hs hname
    · trivial
  · trivial
  · trivial

/-- A statement keeps the entries, and misses only entries that it names. -/
theorem Statement.leaves_execute (st : Statement) (hstart : start.keys = entries)
    (hs : s.keys = entries) (h : ∀ name, st.Names name → name ∉ entries → missing name) :
    Leaves missing entries (st.execute start s) := by
  have hexpression {e : Expr} (he : e.subterms ⊆ Expr.subtermsOf st.operands) :
      Computes missing (e.evaluate s) :=
    Expr.computes_evaluate e fun name hmem => hs ▸ h name (.inr (he hmem))
  have hsingle (e : Expr) : e.subterms ⊆ Expr.subtermsOf [e] := by
    rw [Expr.subtermsOf]
    exact List.subset_append_left _ _
  cases st with
  | assign name e =>
    have hname := h name (.inl rfl)
    refine .bind (computes_value (hs ▸ hname)) fun _ _ =>
      .bind (hexpression (hsingle e)) fun v _ => ?_
    exact leaves_set hs hname
  | compound name op e =>
    have hname := h name (.inl rfl)
    refine .bind (computes_value (hs ▸ hname)) fun current _ =>
      .bind (hexpression (hsingle e)) fun v _ => ?_
    exact .bind (computes_apply op current v) fun w _ => leaves_set hs hname
  | increment name => exact leaves_step 1 hs (h name (.inl rfl))
  | decrement name => exact leaves_step (-1) hs (h name (.inl rfl))
  | call f es => exact leaves_call hstart hs fun name hmem => h name (.inr hmem)

/-- An action carries out its first statement, and then the others on the state after it. -/
theorem Program.execute_cons (start s : State) (source : String) (st : Statement)
    (sts : List Statement) :
    Program.execute start ⟨source, st :: sts⟩ s = st.execute start s >>= Program.execute start
      ⟨source, sts⟩ := by
  rw [execute, commit, Statement.scratch]
  cases st.execute start s with
  | error e => rfl
  | ok copy =>
    -- The two sides differ in the state that is kept when a later statement fails, and neither
    -- gives it back.
    show _ = Program.execute start ⟨source, sts⟩ copy
    rw [execute, commit]
    dsimp only
    obtain ⟨last, error⟩ := Statement.scratch start copy sts
    cases error <;> rfl

/-- An action carries out its statements one after the other until one of them fails. -/
theorem Program.execute_eq_foldlM (start s : State) (p : Program) :
    p.execute start s = p.statements.foldlM (fun s st => st.execute start s) s := by
  obtain ⟨source, sts⟩ := p
  induction sts generalizing s with
  | nil => rfl
  | cons st sts ih =>
    rw [execute_cons, List.foldlM_cons]
    exact congrArg (st.execute start s >>= ·) (funext ih)

/-- The state after an action is the one that it leads to, and the one before it if it leads to
none. -/
theorem Program.commit_eq (start s : State) (p : Program) :
    p.commit start s =
      match p.execute start s with
      | .ok t => (t, none)
      | .error e => (s, some e) := by
  rw [execute, commit]
  obtain ⟨copy, error⟩ := Statement.scratch start s p.statements
  cases error <;> rfl

/-- **An action keeps the entries of the state**, and misses only entries that it names. -/
theorem Program.leaves_execute (p : Program) (hstart : start.keys = entries) (hs : s.keys = entries)
    (h : ∀ st ∈ p.statements, ∀ name, st.Names name → name ∉ entries → missing name) :
    Leaves missing entries (p.execute start s) := by
  rw [p.execute_eq_foldlM]
  exact .foldlM (fun st hst _ hs' => st.leaves_execute hstart hs' (h st hst)) hs

/-! ## Names collected ahead -/

theorem Expr.name?_eq_some_iff {e : Expr} {name : String} :
    e.name? = some name ↔ e = .variable name := by
  cases e <;> simp [Expr.name?]

/-- The names of an expression are those of the variables in it. -/
theorem Expr.mem_names_iff {e : Expr} {name : String} :
    name ∈ e.names ↔ .variable name ∈ e.subterms := by
  simp [Expr.names, Expr.name?_eq_some_iff]

/-- The names that a check collects from an action are those that its statements name. -/
theorem Program.mem_names_iff {p : Program} {name : String} :
    name ∈ p.names ↔ ∃ st ∈ p.statements, st.Names name := by
  simp only [Program.names, List.mem_eraseDups, List.mem_append, List.mem_filterMap,
    Expr.name?_eq_some_iff, Program.subterms, List.mem_flatMap]
  constructor
  · rintro (⟨st, hst, htarget⟩ | ⟨e, ⟨st, hst, he⟩, rfl⟩)
    · exact ⟨st, hst, .inl htarget⟩
    · exact ⟨st, hst, .inr he⟩
  · rintro ⟨st, hst, htarget | he⟩
    · exact .inl ⟨st, hst, htarget⟩
    · exact .inr ⟨_, ⟨st, hst, he⟩, rfl⟩

/-- Names of which nothing is found are declared. -/
theorem StateTable.contains_of_undeclared_eq_nil {t : StateTable} {source : String}
    {names : List String} (h : t.undeclared source names = []) :
    ∀ name ∈ names, t.contains name = true := by
  intro name hname
  have hkept := List.filter_eq_nil_iff.mp (List.map_eq_nil_iff.mp h) name hname
  simpa using hkept

end PageLang
