import PageLang.Decimal.Reader
import PageLang.Expr.Basic
import PageLang.ParseError
import PageLang.Text.Blank

/-!
# The grammar of expressions and actions

From the loosest to the tightest the operators are `||`, `&&`, equality, comparison, sums,
products and the two prefix operators; those between operands group to the left. `state.x` is
another way to write `x`, except that it cannot be called.

Nesting is limited. An expression in parentheses, an argument, the operand of a prefix operator
and every further operand of a chain of operators lie one level deeper than what they stand in. A
`Layer` is the part of the parser for one level, made from the part for the next deeper level.

`Program.parse` and `Expr.parse` are `parse_action` and `parse_expression`; `statements`,
`statement`, `target`, `primary`, `arguments` and `unescape` are `parse_program`,
`parse_statement`, `parse_target`, `parse_primary_expression`, `parse_arguments` and `unescape`.
Two things are arranged otherwise. `parse_or_expression` down to `parse_multiplicative_expression`
are one definition here, `operandAbove`, over the list of `levels`. And there is no depth that
`nest` counts up and that is set back to a mark after a chain: the depth of a `Layer` is its place
in `layer`, and `Layer.exhausted` is the refusal of `nest`.
-/

namespace PageLang

/-- A parser takes tokens off the front of a list. -/
abbrev Parser (α : Type) := List Lexeme → Except ParseError (α × List Lexeme)

namespace Parser

/-- The position of the next token; `eof` is the position where the text ends. -/
def position (eof : Nat) : List Lexeme → Nat
  | [] => eof
  | l :: _ => l.start

/-- The error of meeting the next token, or the end, where something else was expected. -/
def unexpected (eof : Nat) (expected : Expected) : List Lexeme → ParseError
  | [] => .unexpectedEnd eof expected
  | l :: _ => .unexpectedToken l.start expected l.token

/-- Takes a closing parenthesis. -/
def closingParen (eof : Nat) : List Lexeme → Except ParseError (List Lexeme)
  | ⟨.rightParen, _, _⟩ :: ts => .ok ts
  | ts => .error (unexpected eof .closingParen ts)

/-- Takes a name. -/
def identifier (eof : Nat) : Parser String
  | ⟨.ident name, _, _⟩ :: ts => .ok (name, ts)
  | ts => .error (unexpected eof .identifier ts)

/-- Takes the name of a state entry, and tells whether it was written `state.name`. -/
def target (eof : Nat) : Parser (String × Bool)
  | ⟨.ident "state", _, _⟩ :: ⟨.dot, _, _⟩ :: ts => do
    let (name, ts) ← identifier eof ts
    .ok ((name, true), ts)
  | ts => do
    let (name, ts) ← identifier eof ts
    .ok ((name, false), ts)

/-- Nothing may be left. -/
def endOfText (eof : Nat) : List Lexeme → Except ParseError Unit
  | [] => .ok ()
  | ts => .error (unexpected eof .endOfText ts)

/-- The text that the body of a string literal stands for. -/
def unescape : List Char → List Char
  | '\\' :: c :: rest =>
    (if c = 'n' then '\n' else if c = 't' then '\t' else c) :: unescape rest
  | c :: rest => c :: unescape rest
  | [] => []

/-! ## Operators -/

/-- The operators of one strength, by their tokens. -/
abbrev Level := Token → Option BinaryOp

/-- The operator `||`. -/
def disjunction : Level
  | .or => some .or
  | _ => none

/-- The operator `&&`. -/
def conjunction : Level
  | .and => some .and
  | _ => none

/-- The operators `==` and `!=`. -/
def equality : Level
  | .equal => some .equals
  | .notEqual => some .notEquals
  | _ => none

/-- The operators `<`, `<=`, `>` and `>=`. -/
def comparison : Level
  | .less => some .lessThan
  | .lessEqual => some .lessThanOrEqual
  | .greater => some .greaterThan
  | .greaterEqual => some .greaterThanOrEqual
  | _ => none

/-- The operators `+` and `-`. -/
def sum : Level
  | .plus => some .add
  | .minus => some .subtract
  | _ => none

/-- The operators `*`, `/` and `%`. -/
def product : Level
  | .star => some .multiply
  | .slash => some .divide
  | .percent => some .remainder
  | _ => none

/-- The levels from the loosest to the tightest. -/
def levels : List Level := [disjunction, conjunction, equality, comparison, sum, product]

/-- The prefix operators. -/
def prefixOp? : Token → Option UnaryOp
  | .bang => some .not
  | .minus => some .negate
  | _ => none

/-! ## Layers -/

/-- The parser at one level of nesting: an operand of a prefix operator, an expression built with
the operators of some levels, and the rest of a chain of operators of a level whose left side is
known. -/
structure Layer where
  unary : Parser Expr
  operand : List Level → Parser Expr
  chain : Level → List Level → Expr → Parser Expr

/-- Where no level is left, nothing parses. -/
def Layer.exhausted (eof : Nat) : Layer where
  unary ts := .error (.tooDeep (position eof ts))
  operand _ ts := .error (.tooDeep (position eof ts))
  chain _ _ _ ts := .error (.tooDeep (position eof ts))

/-- The arguments of a call up to its closing parenthesis, which a comma may precede. Each takes at
least one token. -/
def argumentsWith (expression : Parser Expr) : Nat → Parser (List Expr)
  | 0, ts => .ok ([], ts)
  | _ + 1, [] => .ok ([], [])
  | _ + 1, ⟨.rightParen, start, stop⟩ :: ts => .ok ([], ⟨.rightParen, start, stop⟩ :: ts)
  | fuel + 1, ts => do
    let (e, ts) ← expression ts
    match ts with
    | ⟨.comma, _, _⟩ :: ts =>
      let (es, ts) ← argumentsWith expression fuel ts
      .ok (e :: es, ts)
    | ts => .ok ([e], ts)

/-- The arguments of a call whose opening parenthesis has been taken. -/
def arguments (eof : Nat) (expression : Parser Expr) : Parser (List Expr) := fun ts => do
  let (es, ts) ← argumentsWith expression ts.length ts
  .ok (es, ← closingParen eof ts)

/-- A literal, a name, a call or an expression in parentheses; `expression` reads what is nested. -/
def primary (eof : Nat) (expression : Parser Expr) : Parser Expr
  | ⟨.number text, _, _⟩ :: ts => .ok (.number ((Decimal.parse? text.toList).getD 0), ts)
  | ⟨.string body, _, _⟩ :: ts => .ok (.string (String.ofList (unescape body.toList)), ts)
  | ⟨.trueWord, _, _⟩ :: ts => .ok (.boolean true, ts)
  | ⟨.falseWord, _, _⟩ :: ts => .ok (.boolean false, ts)
  | ⟨.leftParen, _, _⟩ :: ts => do
    let (e, ts) ← expression ts
    .ok (e, ← closingParen eof ts)
  | ⟨.ident name, start, stop⟩ :: ts => do
    let ((name, qualified), ts) ← target eof (⟨.ident name, start, stop⟩ :: ts)
    match qualified, ts with
    | false, ⟨.leftParen, _, _⟩ :: ts =>
      let (es, ts) ← arguments eof expression ts
      .ok (.call name es, ts)
    | _, ts => .ok (.variable name, ts)
  | ts => .error (unexpected eof .expression ts)

/-- An operand with the prefix operators before it. -/
def unaryAbove (eof : Nat) (below : Layer) : Parser Expr
  | [] => primary eof (below.operand levels) []
  | l :: ts =>
    match prefixOp? l.token with
    | none => primary eof (below.operand levels) (l :: ts)
    | some op => do
      let (e, ts) ← below.unary ts
      .ok (.unary op e, ts)

/-- The rest of a chain: each further operand lies one level deeper than the one before. -/
def chainAbove (below : Layer) (level : Level) (tighter : List Level) (left : Expr) : Parser Expr
  | [] => .ok (left, [])
  | l :: ts =>
    match level l.token with
    | none => .ok (left, l :: ts)
    | some op => do
      let (right, ts) ← below.operand tighter ts
      below.chain level tighter (.binary left op right) ts

/-- An expression built with the operators of the given levels. -/
def operandAbove (eof : Nat) (below : Layer) : List Level → Parser Expr
  | [] => unaryAbove eof below
  | level :: tighter => fun ts => do
    let (left, ts) ← operandAbove eof below tighter ts
    chainAbove below level tighter left ts

/-- The parser one level above another. -/
def Layer.above (eof : Nat) (below : Layer) : Layer where
  unary := unaryAbove eof below
  operand := operandAbove eof below
  chain := chainAbove below

/-- The parser with a number of levels left. -/
def layer (eof : Nat) : Nat → Layer
  | 0 => .exhausted eof
  | n + 1 => .above eof (layer eof n)

/-- An expression. -/
def expression (eof : Nat) : Parser Expr := (layer eof maxNesting).operand levels

/-! ## Statements -/

/-- The operator of a compound assignment. -/
def compoundOp? : Token → Option BinaryOp
  | .plusAssign => some .add
  | .minusAssign => some .subtract
  | .starAssign => some .multiply
  | .slashAssign => some .divide
  | _ => none

/-- What follows the target of a statement that began at `start`. -/
def afterTarget (eof start : Nat) (name : String) (qualified : Bool) : Parser Statement
  | [] => .error (.noStatement start name)
  | l :: ts =>
    match l.token, compoundOp? l.token with
    | _, some op => do
      let (e, ts) ← expression eof ts
      .ok (.compound name op e, ts)
    | .assign, none => do
      let (e, ts) ← expression eof ts
      .ok (.assign name e, ts)
    | .increment, none => .ok (.increment name, ts)
    | .decrement, none => .ok (.decrement name, ts)
    | .leftParen, none =>
      if qualified then .error (.noStatement start name)
      else do
        let (es, ts) ← arguments eof (expression eof) ts
        .ok (.call name es, ts)
    | _, none => .error (.noStatement start name)

/-- A statement. -/
def statement (eof : Nat) : Parser Statement
  | ⟨.increment, _, _⟩ :: ts => do
    let ((name, _), ts) ← target eof ts
    .ok (.increment name, ts)
  | ⟨.decrement, _, _⟩ :: ts => do
    let ((name, _), ts) ← target eof ts
    .ok (.decrement name, ts)
  | ts => do
    let ((name, qualified), rest) ← target eof ts
    afterTarget eof (position eof ts) name qualified rest

/-- Whether a token is a semicolon. -/
def isSemicolon (l : Lexeme) : Bool := l.token = .semicolon

/-- Statements with runs of semicolons between them. Each takes at least one token. -/
def statements (eof : Nat) : Nat → Parser (List Statement)
  | 0, ts => .ok ([], ts)
  | _ + 1, [] => .ok ([], [])
  | fuel + 1, ts => do
    let (s, ts) ← statement eof ts
    match ts with
    | ⟨.semicolon, _, _⟩ :: ts =>
      let (ss, ts) ← statements eof fuel (ts.dropWhile isSemicolon)
      .ok (s :: ss, ts)
    | ts => .ok ([s], ts)

/-- A whole action. -/
def program (eof : Nat) (ts : List Lexeme) : Except ParseError (List Statement) := do
  let (ss, ts) ← statements eof ts.length ts
  endOfText eof ts
  if ss.isEmpty then .error (.unexpectedEnd 0 .statement) else .ok ss

end Parser

/-- The action that a text spells. -/
def Program.parse (source : String) : Except ParseError Program := do
  let ts ← tokenize source
  let ss ← Parser.program (Text.byteLength source.toList) ts
  .ok ⟨Text.trimmed source, ss⟩

/-- The expression that a text spells. -/
def Expr.parse (source : String) : Except ParseError Expr := do
  let ts ← tokenize source
  let eof := Text.byteLength source.toList
  let (e, ts) ← Parser.expression eof ts
  Parser.endOfText eof ts
  .ok e

end PageLang
