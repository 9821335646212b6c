/-!
# Expressions and actions

An expression computes a value from the state of a page; an action is a sequence of statements that
change it.

`Expr`, `Statement` and `Program` are `Expression`, `Statement` and `Program`, and `subterms`
lists expressions in the order in which `walk_program` and `walk_expression` visit them.
-/

namespace PageLang

/-- An operator between two operands. -/
inductive BinaryOp where
  | add
  | subtract
  | multiply
  | divide
  | remainder
  | equals
  | notEquals
  | lessThan
  | lessThanOrEqual
  | greaterThan
  | greaterThanOrEqual
  | and
  | or
  deriving DecidableEq, Repr

/-- How an operator is written. -/
def BinaryOp.symbol : BinaryOp → String
  | .add => "+"
  | .subtract => "-"
  | .multiply => "*"
  | .divide => "/"
  | .remainder => "%"
  | .equals => "=="
  | .notEquals => "!="
  | .lessThan => "<"
  | .lessThanOrEqual => "<="
  | .greaterThan => ">"
  | .greaterThanOrEqual => ">="
  | .and => "&&"
  | .or => "||"

/-- An operator before its operand. -/
inductive UnaryOp where
  | not
  | negate
  deriving DecidableEq, Repr

/-- An expression. -/
inductive Expr where
  | number (value : Float)
  | string (value : String)
  | boolean (value : Bool)
  | variable (name : String)
  | unary (operator : UnaryOp) (operand : Expr)
  | binary (left : Expr) (operator : BinaryOp) (right : Expr)
  | call (function : String) (arguments : List Expr)
  deriving Repr, BEq, Inhabited

/-- A statement of an action. -/
inductive Statement where
  /-- Written `name = expression`. -/
  | assign (target : String) (value : Expr)
  /-- Written `name += expression`, or with another operator. -/
  | compound (target : String) (operator : BinaryOp) (value : Expr)
  /-- Written `name++` or `++name`. -/
  | increment (target : String)
  /-- Written `name--` or `--name`. -/
  | decrement (target : String)
  /-- Written `toggle(name)` or `reset(name)`. -/
  | call (function : String) (arguments : List Expr)
  deriving Repr, BEq, Inhabited

/-- An action: its text and its statements. -/
structure Program where
  source : String
  statements : List Statement
  deriving Repr, BEq, Inhabited

/-- The expressions that stand directly in a statement. -/
def Statement.operands : Statement → List Expr
  | .assign _ value => [value]
  | .compound _ _ value => [value]
  | .increment _ => []
  | .decrement _ => []
  | .call _ arguments => arguments

mutual

/-- An expression and all within it, the outer before the inner and from left to right. -/
def Expr.subterms : Expr → List Expr
  | e@(.unary _ operand) => e :: operand.subterms
  | e@(.binary left _ right) => e :: (left.subterms ++ right.subterms)
  | e@(.call _ arguments) => e :: Expr.subtermsOf arguments
  | e => [e]

/-- The subterms of several expressions one after the other. -/
def Expr.subtermsOf : List Expr → List Expr
  | [] => []
  | e :: es => e.subterms ++ Expr.subtermsOf es

end

/-- All expressions of an action, statement by statement. -/
def Program.subterms (p : Program) : List Expr :=
  p.statements.flatMap fun s => Expr.subtermsOf s.operands

end PageLang
