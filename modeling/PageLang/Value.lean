import PageLang.Json.Reader
import PageLang.Node.Data
import PageLang.StateTable

/-!
# Values and state

While a page runs, every declared state entry has a current value: a truth value, a number or a
text. The entries themselves never change, only their values do.

`Value` and `State` are of those names, with `isTruthy` for `is_truthy` and `Value.display` for
the display of a value. `State.initial` is `initial_state`.
-/

namespace PageLang

/-- The value of a state entry or of an expression. -/
inductive Value where
  | boolean (value : Bool)
  | number (value : Float)
  | text (value : String)
  deriving DecidableEq, Repr, Inhabited

/-- The types of values. -/
inductive ValueType where
  | boolean
  | number
  | text
  deriving DecidableEq, Repr

/-- The name of a type. -/
def ValueType.name : ValueType → String
  | .boolean => "boolean"
  | .number => "number"
  | .text => "string"

namespace Value

/-- The type of a value. -/
def type : Value → ValueType
  | .boolean _ => .boolean
  | .number _ => .number
  | .text _ => .text

/-- Whether a value counts as true: all do but `false`, zero, what is no number, and the empty
text. -/
def isTruthy : Value → Bool
  | .boolean b => b
  | .number x => x != 0 && !x.isNaN
  | .text s => s ≠ ""

/-- How a value is shown. -/
def display : Value → String
  | .boolean b => if b then "true" else "false"
  | .number x => Decimal.display x
  | .text s => s

/-- Whether two values are equal: of the same type and equal in it. No number equals what is
none. -/
def same : Value → Value → Bool
  | .boolean a, .boolean b => a == b
  | .number x, .number y => x == y
  | .text s, .text t => s == t
  | _, _ => false

/-- The value that an entry has at the start. -/
def ofLiteral : Literal → Value
  | .number x => .number x
  | .text s => .text s

/-- A value as data. -/
def toJson : Value → Json
  | .boolean b => .bool b
  | .number x => .float x
  | .text s => .str s

/-- Reads a value. -/
def read : Json.Reader Value := fun depth d => do
  match ← d.toJson depth with
  | .bool b => .ok (.boolean b)
  | .int n => .ok (.number (Float.ofInt n))
  | .float x => .ok (.number x)
  | .str s => .ok (.text s)
  | _ => .error .mismatch

end Value

/-- The current values of the declared entries. -/
abbrev State := OrderedMap Value

namespace State

/-- The state at the start. -/
def initial (t : StateTable) : State := t.mapValues Value.ofLiteral

/-- A state as data. -/
def toJson (s : State) : Json := OrderedMap.toJson Value.toJson s

/-- Reads a state. -/
def read : Json.Reader State := Json.Draft.map Value.read

end State

end PageLang
