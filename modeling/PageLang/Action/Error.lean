import PageLang.Expr.Basic
import PageLang.Value

/-!
# Why an action fails

The causes for which an action or a condition cannot be carried out, and their wording.

`ActionError` is of that name, and `ActionError.message` is its display. What `mismatch` and
`arity` put into a text at once is kept apart here, as a `TypeClash` and an `Arity`.
-/

namespace PageLang

/-- A value of a type that an operation cannot take. -/
inductive TypeClash where
  /-- A number was wanted; the text names what wanted it. -/
  | noNumber (wanted : String) (found : ValueType)
  | noText (found : ValueType)
  | noStateName (function : String)
  | notAddable (left right : ValueType)
  | notComparable (left : ValueType) (operator : BinaryOp) (right : ValueType)
  deriving DecidableEq, Repr

/-- The wording of a type clash. -/
def TypeClash.text : TypeClash → String
  | .noNumber wanted found => wanted ++ " expects a number, got " ++ found.name
  | .noText found => "len expects a string, got " ++ found.name
  | .noStateName function => function ++ " expects a state name"
  | .notAddable left right => "cannot add " ++ left.name ++ " and " ++ right.name
  | .notComparable left operator right =>
    "cannot compare " ++ left.name ++ " " ++ operator.symbol ++ " " ++ right.name

/-- How many arguments a function takes. -/
inductive Arity where
  | one
  | atLeastOne
  deriving DecidableEq, Repr

/-- The wording of an arity. -/
def Arity.text : Arity → String
  | .one => "1"
  | .atLeastOne => "at least 1"

/-- Why an action fails. -/
inductive ActionError where
  /-- The text of the action does not parse. -/
  | unparsed (action reason : String)
  | unknownState (name : String)
  | typeClash (clash : TypeClash)
  | divisionByZero
  | unknownFunction (name : String)
  | arity (function : String) (expected : Arity) (found : Nat)
  deriving DecidableEq, Repr

/-- The wording of an error. -/
def ActionError.message : ActionError → String
  | .unparsed action reason => "Syntax error in action '" ++ action ++ "': " ++ reason
  | .unknownState name => "Unknown state '" ++ name ++ "'"
  | .typeClash clash => "Type mismatch: " ++ clash.text
  | .divisionByZero => "Division by zero"
  | .unknownFunction name => "Unknown function '" ++ name ++ "'"
  | .arity function expected found =>
    "Function '" ++ function ++ "' expects " ++ expected.text ++ " argument(s), got "
      ++ toString found

end PageLang
