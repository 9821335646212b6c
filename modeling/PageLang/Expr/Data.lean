import PageLang.Expr.Basic
import PageLang.Json.Fields
import PageLang.Json.Reader

/-!
# Expressions and actions as data

The JSON form of expressions, statements and actions. A record of one of several kinds names its
kind in its first member, `type`.
-/

namespace PageLang

open Json (Draft Fault)

/-- The name of an operator. -/
def BinaryOp.name : BinaryOp → String
  | .add => "Add"
  | .subtract => "Subtract"
  | .multiply => "Multiply"
  | .divide => "Divide"
  | .remainder => "Remainder"
  | .equals => "Equals"
  | .notEquals => "NotEquals"
  | .lessThan => "LessThan"
  | .lessThanOrEqual => "LessThanOrEqual"
  | .greaterThan => "GreaterThan"
  | .greaterThanOrEqual => "GreaterThanOrEqual"
  | .and => "And"
  | .or => "Or"

/-- The operator of a name. -/
def BinaryOp.ofName? : String → Option BinaryOp
  | "Add" => some .add
  | "Subtract" => some .subtract
  | "Multiply" => some .multiply
  | "Divide" => some .divide
  | "Remainder" => some .remainder
  | "Equals" => some .equals
  | "NotEquals" => some .notEquals
  | "LessThan" => some .lessThan
  | "LessThanOrEqual" => some .lessThanOrEqual
  | "GreaterThan" => some .greaterThan
  | "GreaterThanOrEqual" => some .greaterThanOrEqual
  | "And" => some .and
  | "Or" => some .or
  | _ => none

/-- The name of a prefix operator. -/
def UnaryOp.name : UnaryOp → String
  | .not => "Not"
  | .negate => "Negate"

/-- The prefix operator of a name. -/
def UnaryOp.ofName? : String → Option UnaryOp
  | "Not" => some .not
  | "Negate" => some .negate
  | _ => none

/-- A record of a kind. -/
def Json.kinded (kind : String) (members : List (String × Json)) : Json :=
  .obj (("type", .str kind) :: members)

mutual

/-- An expression as data. -/
def Expr.toJson : Expr → Json
  | .number x => .kinded "Number" [("value", .float x)]
  | .string s => .kinded "String" [("value", .str s)]
  | .boolean b => .kinded "Boolean" [("value", .bool b)]
  | .variable name => .kinded "Variable" [("name", .str name)]
  | .unary op e => .kinded "Unary" [("operator", .str op.name), ("operand", e.toJson)]
  | .binary l op r =>
    .kinded "Binary" [("left", l.toJson), ("operator", .str op.name), ("right", r.toJson)]
  | .call f es => .kinded "Call" [("function", .str f), ("arguments", .arr (Expr.listToJson es))]

/-- Expressions as data. -/
def Expr.listToJson : List Expr → List Json
  | [] => []
  | e :: es => e.toJson :: Expr.listToJson es

end

/-- A statement as data. -/
def Statement.toJson : Statement → Json
  | .assign target e => .kinded "Assign" [("target", .str target), ("value", e.toJson)]
  | .compound target op e =>
    .kinded "Compound" [("target", .str target), ("operator", .str op.name), ("value", e.toJson)]
  | .increment target => .kinded "Increment" [("target", .str target)]
  | .decrement target => .kinded "Decrement" [("target", .str target)]
  | .call f es => .kinded "Call" [("function", .str f), ("arguments", .arr (Expr.listToJson es))]

/-- An action as data. -/
def Program.toJson (p : Program) : Json :=
  .obj [("source", .str p.source), ("statements", .arr (p.statements.map Statement.toJson))]

/-- The kinds of expressions. -/
def Expr.kinds : List String :=
  ["Number", "String", "Boolean", "Variable", "Unary", "Binary", "Call"]

/-- The expression that a value of bounded height stands for. -/
def Expr.ofJsonWithin? : Nat → Json → Option Expr
  | 0, _ => none
  | n + 1, j => do
    let (kind, record) ← j.tagged? Expr.kinds
    match kind with
    | "Number" => do
      let [value] ← record.fields? ["value"] | none
      return .number (← value.number?)
    | "String" => do
      let [value] ← record.fields? ["value"] | none
      return .string (← value.string?)
    | "Boolean" => do
      let [value] ← record.fields? ["value"] | none
      return .boolean (← value.bool?)
    | "Variable" => do
      let [name] ← record.fields? ["name"] | none
      return .variable (← name.string?)
    | "Unary" => do
      let [op, e] ← record.fields? ["operator", "operand"] | none
      return .unary (← op.alternative? UnaryOp.ofName?) (← Expr.ofJsonWithin? n e)
    | "Binary" => do
      let [l, op, r] ← record.fields? ["left", "operator", "right"] | none
      return .binary (← Expr.ofJsonWithin? n l) (← op.alternative? BinaryOp.ofName?)
        (← Expr.ofJsonWithin? n r)
    | "Call" => do
      let [f, es] ← record.fields? ["function", "arguments"] | none
      return .call (← f.string?) (← (← es.items?).mapM (Expr.ofJsonWithin? n))
    | _ => none

/-- The expression that a value stands for. -/
def Expr.ofJson? (j : Json) : Option Expr := Expr.ofJsonWithin? j.height j

/-- The kinds of statements. -/
def Statement.kinds : List String := ["Assign", "Compound", "Increment", "Decrement", "Call"]

/-- The statement of a kind with the given fields. -/
def Statement.ofRecord? (kind : String) (record : Json) : Option Statement :=
  match kind with
  | "Assign" => do
    let [target, e] ← record.fields? ["target", "value"] | none
    return .assign (← target.string?) (← Expr.ofJson? e)
  | "Compound" => do
    let [target, op, e] ← record.fields? ["target", "operator", "value"] | none
    return .compound (← target.string?) (← op.alternative? BinaryOp.ofName?) (← Expr.ofJson? e)
  | "Increment" => do
    let [target] ← record.fields? ["target"] | none
    return .increment (← target.string?)
  | "Decrement" => do
    let [target] ← record.fields? ["target"] | none
    return .decrement (← target.string?)
  | "Call" => do
    let [f, es] ← record.fields? ["function", "arguments"] | none
    return .call (← f.string?) (← (← es.items?).mapM Expr.ofJson?)
  | _ => none

/-- The shape was not the wanted one. -/
def Json.orMismatch {α : Type} : Option α → Except Fault α
  | some a => .ok a
  | none => .error .mismatch

/-- A name that must be one of several. -/
def Json.among (names : List String) (name : String) : Option String :=
  if name ∈ names then some name else none

/-- Reads a statement. -/
def Statement.read : Json.Reader Statement := fun depth d => do
  let (kind, record) ← d.tagged (Json.among Statement.kinds) depth
  Json.orMismatch (Statement.ofRecord? kind record)

/-- The fields of an action that have been read. -/
structure Program.Fields where
  source : Option String := none
  statements : Option (List Statement) := none

/-- Reads one field of an action. -/
def Program.readField (depth : Nat) (s : Program.Fields) (name : String) (d : Draft) :
    Except Fault Program.Fields :=
  match name with
  | "source" => do return { s with source := ← Draft.once s.source (Draft.string depth d) }
  | "statements" => do
    return { s with statements := ← Draft.once s.statements (Draft.list Statement.read depth d) }
  | _ => do
    d.skip
    return s

/-- Reads an action. -/
def Program.read : Json.Reader Program := fun depth d => do
  let s ← Draft.record ["source", "statements"] Program.readField {} depth d
  return ⟨← Draft.required s.source, ← Draft.required s.statements⟩

end PageLang
