import PageLang.Action.Table
import PageLang.Template

/-!
# Sessions

A page in use: actions and edits change its state one at a time, and what fails changes nothing.

`Session` is `Runtime`: `perform` and `execute` are its `execute`, once with the session that it
leaves behind and once with its result alone; `run`, `bind` and `bindChecked` are `run`, `bind`
and `bind_checked`. The log is what `run` returns beside the session.
-/

namespace PageLang

/-- A page in use. -/
structure Session where
  template : Template
  actions : ActionTable
  /-- The state at the start, to which entries can be reset. -/
  start : State
  state : State

/-- An action that failed. -/
structure FailedAction where
  action : String
  error : ActionError
  deriving DecidableEq, Repr

namespace Session

/-- A page at its start. -/
def new (template : Template) (table : StateTable) (actions : ActionTable) : Session :=
  ⟨template, actions, State.initial table, State.initial table⟩

/-- The markup of the current state. -/
def render (s : Session) : String := s.template.render s.state

/-- The program of an action: that of the page, or else the text is parsed. -/
def program (s : Session) (source : String) : Except ActionError Program :=
  match s.actions.get? source with
  | some (.program p) => .ok p
  | some (.error message) => .error (.unparsed source message)
  | none =>
    match Program.parse source with
    | .ok p => .ok p
    | .error e => .error (.unparsed source e.message)

/-- The session after an action was carried out on its state, and the error if there was one. -/
def perform (s : Session) (action : String) : Session × Option ActionError :=
  match s.program (Text.trimmed action) with
  | .error e => (s, some e)
  | .ok p =>
    let (state, error) := p.commit s.start s.state
    ({ s with state }, error)

/-- The session after an action, or the error for which there is none. -/
def execute (s : Session) (action : String) : Except ActionError Session :=
  match s.perform action with
  | (s, none) => .ok s
  | (_, some e) => .error e

/-- The session after an action, and the failure if the action failed. -/
def run (s : Session) (action : String) : Session × Option FailedAction :=
  let (s, error) := s.perform action
  (s, error.map fun e => ⟨Text.trimmed action, e⟩)

/-- The value that an edit gives to an entry: an entry that is a number stays one while the edit
reads as one. -/
def edited (current : Option Value) (raw : String) : Value :=
  match current, Decimal.parse? (Text.trim raw.toList) with
  | some (.number _), some x => if x.isFinite then .number x else .text raw
  | _, _ => .text raw

/-- The session after a control bound to an entry was edited. -/
def bind (s : Session) (name raw : String) : Except ActionError Session := do
  return { s with state := ← s.state.set name (edited (s.state.get? name) raw) }

/-- The session after a box bound to an entry was ticked or cleared. -/
def bindChecked (s : Session) (name : String) (checked : Bool) : Except ActionError Session := do
  return { s with state := ← s.state.set name (.boolean checked) }

end Session

end PageLang
