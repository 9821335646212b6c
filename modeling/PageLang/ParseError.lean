import PageLang.Token

/-!
# Why a text does not parse

The causes for which a page, an action or a condition is refused, where they lie, and their wording.
Positions and spans count bytes.

`ParseError` is of that name, with `label` and `span`; `message` is its display. Positions are
those that `structural`, `unexpected_token`, `unexpected_eof`, `invalid_syntax` and `lexer_error`
are given.
-/

namespace PageLang

/-- What the expression grammar expected. -/
inductive Expected where
  | statement
  | identifier
  | expression
  | closingParen
  | endOfText
  deriving DecidableEq, Repr

/-- How an expectation is worded. -/
def Expected.text : Expected → String
  | .statement => "statement"
  | .identifier => "identifier"
  | .expression => "expression"
  | .closingParen => "')'"
  | .endOfText => "end of expression"

/-- Why a line cannot stand at its indentation. -/
inductive Misplacement where
  /-- It is deeper than a `state` line before it, which can have nothing below it. -/
  | belowState
  /-- It is not aligned with the lines that have the same parent. -/
  | unaligned (indent expected : Nat)
  deriving DecidableEq, Repr

/-- How a misplacement is worded. -/
def Misplacement.text : Misplacement → String
  | .belowState => "state declarations cannot have children"
  | .unaligned indent expected =>
    "indentation of " ++ toString indent ++ " does not match sibling indentation of "
      ++ toString expected

/-- How deep expressions may nest; the operators of a chain count too. -/
def maxNesting : Nat := 64

/-- Why a text does not parse. -/
inductive ParseError where
  /-- A line at an indentation that gives it no parent. -/
  | misplaced (line column start stop : Nat) (cause : Misplacement) (context : String)
  | unexpectedToken (pos : Nat) (expected : Expected) (found : Token)
  | unexpectedEnd (pos : Nat) (expected : Expected)
  /-- A name that starts no statement. -/
  | noStatement (pos : Nat) (target : String)
  /-- An expression nested deeper than `maxNesting`. -/
  | tooDeep (pos : Nat)
  /-- A character at which no token starts. -/
  | strayCharacter (pos : Nat)
  deriving DecidableEq, Repr

namespace ParseError

/-- The short text that is put beside the place of an error. -/
def label : ParseError → String
  | misplaced _ _ _ _ cause _ => cause.text
  | unexpectedToken _ expected _ => "expected " ++ expected.text
  | unexpectedEnd _ expected => "expected " ++ expected.text
  | noStatement _ target => "expected an assignment, increment or call on '" ++ target ++ "'"
  | tooDeep _ => "expression nested more than " ++ toString maxNesting ++ " levels deep"
  | strayCharacter _ => "unexpected character"

/-- The full message. -/
def message : ParseError → String
  | misplaced line column _ _ cause context =>
    "Structural error at line " ++ toString line ++ ", column " ++ toString column ++ ": "
      ++ cause.text
      ++ "\n  " ++ toString line ++ " | " ++ context
  | unexpectedToken pos expected found =>
    "Unexpected token at " ++ toString pos ++ ": expected " ++ expected.text ++ ", found "
      ++ found.describe
  | unexpectedEnd pos expected =>
    "Unexpected end of expression at " ++ toString pos ++ ": expected " ++ expected.text
  | e@(noStatement pos _) => "Invalid syntax at " ++ toString pos ++ ": " ++ e.label
  | e@(tooDeep pos) => "Invalid syntax at " ++ toString pos ++ ": " ++ e.label
  | strayCharacter pos => "Lexer error at " ++ toString pos ++ ": unexpected character"

/-- The bytes of the source that an error points at: first, and one past the last. -/
def span : ParseError → Nat × Nat
  | misplaced _ _ start stop _ _ => (start, stop)
  | unexpectedToken pos _ _ => (pos, pos + 1)
  | unexpectedEnd pos _ => (pos, pos + 1)
  | noStatement pos _ => (pos, pos + 1)
  | tooDeep pos => (pos, pos + 1)
  | strayCharacter pos => (pos, pos + 1)

end ParseError

/-- The tokens of a text. -/
def tokenize (source : String) : Except ParseError (List Lexeme) :=
  (Token.lexFrom 0 source.toList).mapError .strayCharacter

end PageLang
