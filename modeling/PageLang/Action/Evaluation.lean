import PageLang.Action.Error
import PageLang.Decimal.Remainder
import PageLang.Expr.Basic
import PageLang.Text.CaseMap

/-!
# Running actions

Expressions are evaluated in a state; statements change one. An action is carried out whole or not
at all: its statements change a copy of the state, and the copy takes the place of the state when
none of them has failed.

`Expr.evaluate`, `Statement.execute` and `State.call` are the interpreter's `evaluate`,
`execute_statement` and `execute_call`, and `Program.commit` is its `execute`, with
`Statement.scratch` for the loop over the clone of the state. What is changed in place there is
returned here.
-/

namespace PageLang

/-- The number that a value is, wanted by what `wanted` names. -/
def Value.asNumber (wanted : String) : Value → Except ActionError Float
  | .number x => .ok x
  | v => .error (.typeClash (.noNumber wanted v.type))

namespace State

/-- The value of an entry. -/
def value (s : State) (name : String) : Except ActionError Value :=
  match s.get? name with
  | some v => .ok v
  | none => .error (.unknownState name)

/-- The state after a declared entry got a value. -/
def set (s : State) (name : String) (v : Value) : Except ActionError State :=
  if s.contains name then .ok (s.insert name v) else .error (.unknownState name)

end State

/-- Whether an order operator holds of two things that compare as given. -/
def BinaryOp.holds (op : BinaryOp) (o : Ordering) : Bool :=
  match op with
  | .lessThan => o.isLT
  | .lessThanOrEqual => o.isLE
  | .greaterThan => o.isGT
  | _ => o.isGE

/-- How two numbers compare, if they do. -/
def Decimal.compare? (x y : Float) : Option Ordering :=
  if x < y then some .lt else if x == y then some .eq else if y < x then some .gt else none

/-- How two texts compare, character by character. -/
def Text.order (s t : String) : Ordering :=
  if s < t then .lt else if s = t then .eq else .gt

/-- The value of an operator on two values. -/
def BinaryOp.apply (op : BinaryOp) (l r : Value) : Except ActionError Value :=
  match op with
  | .add =>
    match l, r with
    | .number x, .number y => .ok (.number (x + y))
    | .text s, r => .ok (.text (s ++ r.display))
    | l, .text t => .ok (.text (l.display ++ t))
    | l, r => .error (.typeClash (.notAddable l.type r.type))
  | .subtract => do
    let x ← l.asNumber op.symbol
    let y ← r.asNumber op.symbol
    .ok (.number (x - y))
  | .multiply => do
    let x ← l.asNumber op.symbol
    let y ← r.asNumber op.symbol
    .ok (.number (x * y))
  | .divide => do
    let x ← l.asNumber op.symbol
    let y ← r.asNumber op.symbol
    if y == 0 then .error .divisionByZero else .ok (.number (x / y))
  | .remainder => do
    let x ← l.asNumber op.symbol
    let y ← r.asNumber op.symbol
    if y == 0 then .error .divisionByZero else .ok (.number (Decimal.remainder x y))
  | .equals => .ok (.boolean (l.same r))
  | .notEquals => .ok (.boolean (!l.same r))
  | .and => .ok (.boolean (l.isTruthy && r.isTruthy))
  | .or => .ok (.boolean (l.isTruthy || r.isTruthy))
  | op =>
    match l, r with
    | .number x, .number y =>
      .ok (.boolean (match Decimal.compare? x y with
        | some o => op.holds o
        | none => false))
    | .text s, .text t => .ok (.boolean (op.holds (Text.order s t)))
    | l, r => .error (.typeClash (.notComparable l.type op r.type))

/-- The only argument of a function. -/
def onlyArgument (function : String) : List Value → Except ActionError Value
  | [v] => .ok v
  | vs => .error (.arity function .one vs.length)

/-- Numbers combined from the left, the first of them alone being the start. -/
def foldNumbers (function : String) (f : Float → Float → Float) :
    List Value → Except ActionError Value
  | [] => .error (.arity function .atLeastOne 0)
  | v :: vs => do
    let x ← v.asNumber function
    let y ← vs.foldlM (fun acc v => do .ok (f acc (← v.asNumber function))) x
    .ok (.number y)

/-- The value of a function. -/
def callFunction (name : String) (vs : List Value) : Except ActionError Value :=
  match name with
  | "min" => foldNumbers name Decimal.smaller vs
  | "max" => foldNumbers name Decimal.larger vs
  | "abs" => do .ok (.number (← (← onlyArgument name vs).asNumber name).abs)
  | "round" => do
    let x ← (← onlyArgument name vs).asNumber name
    .ok (.number (x + 0.5).floor)
  | "len" => do
    match ← onlyArgument name vs with
    | .text s => .ok (.number (Float.ofNat s.length))
    | v => .error (.typeClash (.noText v.type))
  | "upper" => do
    .ok (.text (String.ofList (Text.upper (← onlyArgument name vs).display.toList)))
  | "lower" => do
    .ok (.text (String.ofList (Text.lower (← onlyArgument name vs).display.toList)))
  | _ => .error (.unknownFunction name)

mutual

/-- The value of an expression. The right operand of `&&` and `||` is evaluated only when the left
one does not decide. -/
def Expr.evaluate (s : State) : Expr → Except ActionError Value
  | .number x => .ok (.number x)
  | .string t => .ok (.text t)
  | .boolean b => .ok (.boolean b)
  | .variable name => s.value name
  | .unary op e => do
    let v ← e.evaluate s
    match op with
    | .not => .ok (.boolean (!v.isTruthy))
    | .negate => do .ok (.number (-(← v.asNumber "unary -")))
  | .binary l op r => do
    let v ← l.evaluate s
    match op with
    | .and =>
      if v.isTruthy then do .ok (.boolean (← r.evaluate s).isTruthy) else .ok (.boolean false)
    | .or =>
      if v.isTruthy then .ok (.boolean true) else do .ok (.boolean (← r.evaluate s).isTruthy)
    | op => do op.apply v (← r.evaluate s)
  | .call f es => do callFunction f (← Expr.evaluateAll s es)

/-- The values of expressions, from left to right. -/
def Expr.evaluateAll (s : State) : List Expr → Except ActionError (List Value)
  | [] => .ok []
  | e :: es => do
    let v ← e.evaluate s
    let vs ← Expr.evaluateAll s es
    .ok (v :: vs)

end

/-- The state after a number was added to an entry. -/
def State.step (s : State) (name : String) (delta : Float) : Except ActionError State := do
  let x ← (← s.value name).asNumber name
  s.set name (.number (x + delta))

/-- The state after a statement call: `toggle` turns an entry into the opposite truth value, and
`reset` gives it the value it had at the start. -/
def State.call (start s : State) (function : String) (arguments : List Expr) :
    Except ActionError State :=
  match arguments with
  | [.variable name] =>
    match function with
    | "toggle" => do s.set name (.boolean (!(← s.value name).isTruthy))
    | "reset" => do s.set name (← start.value name)
    | _ => .error (.unknownFunction function)
  | [_] => .error (.typeClash (.noStateName function))
  | es => .error (.arity function .one es.length)

/-- The state after a statement; `start` is the state at the start of the page. -/
def Statement.execute (start s : State) : Statement → Except ActionError State
  | .assign name e => do
    let _ ← s.value name
    s.set name (← e.evaluate s)
  | .compound name op e => do
    let current ← s.value name
    let v ← e.evaluate s
    s.set name (← op.apply current v)
  | .increment name => s.step name 1
  | .decrement name => s.step name (-1)
  | .call f es => State.call start s f es

/-- The copy of a state on which statements are carried out, when they stop: at the first that
fails, with its error, or after the last. -/
def Statement.scratch (start : State) : State → List Statement → State × Option ActionError
  | copy, [] => (copy, none)
  | copy, st :: sts =>
    match st.execute start copy with
    | .ok copy => scratch start copy sts
    | .error e => (copy, some e)

/-- The state after an action was carried out on it, with the error if there was one; `start` is
the state at the start of the page. The copy that the statements changed takes the place of the
state if none of them failed. -/
def Program.commit (start : State) (p : Program) (s : State) : State × Option ActionError :=
  match Statement.scratch start s p.statements with
  | (copy, none) => (copy, none)
  | (_, some e) => (s, some e)

/-- The state after an action, or the error for which there is none. -/
def Program.execute (start : State) (p : Program) (s : State) : Except ActionError State :=
  match p.commit start s with
  | (t, none) => .ok t
  | (_, some e) => .error e

end PageLang
