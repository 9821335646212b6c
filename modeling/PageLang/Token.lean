import PageLang.Text.Letter
import PageLang.Text.Quoted
import PageLang.Text.Search

/-!
# Tokens of the expression language

A text is cut into tokens from the left; each token is the longest that fits, and a word is a
keyword rather than a name when it could be both. Blanks, tabs and line ends separate tokens.
Positions count bytes.

`lexFrom` is the lexer behind `tokenize`. There it is made from one pattern for each token; here
the first character tells which patterns can match, and `first?` measures how far they do.
-/

namespace PageLang

/-- A token. A number and a string keep their text; a string has lost its quotes only. -/
inductive Token where
  | trueWord
  | falseWord
  | ident (name : String)
  | number (text : String)
  | string (body : String)
  | increment
  | decrement
  | plusAssign
  | minusAssign
  | starAssign
  | slashAssign
  | plus
  | minus
  | star
  | slash
  | percent
  | assign
  | equal
  | notEqual
  | less
  | lessEqual
  | greater
  | greaterEqual
  | and
  | or
  | bang
  | leftParen
  | rightParen
  | comma
  | semicolon
  | dot
  deriving DecidableEq, Repr

/-- A token with the bytes it covers, from `start` up to but not including `stop`. -/
structure Lexeme where
  token : Token
  start : Nat
  stop : Nat
  deriving DecidableEq, Repr

namespace Token

/-- How a token is named in messages. -/
def describe : Token → String
  | trueWord => "True"
  | falseWord => "False"
  | ident name => "Ident(" ++ Text.quoted name ++ ")"
  | number text => "Number(" ++ Text.quoted text ++ ")"
  | string body => "String(" ++ Text.quoted body ++ ")"
  | increment => "Increment"
  | decrement => "Decrement"
  | plusAssign => "PlusAssign"
  | minusAssign => "MinusAssign"
  | starAssign => "StarAssign"
  | slashAssign => "SlashAssign"
  | plus => "Plus"
  | minus => "Minus"
  | star => "Star"
  | slash => "Slash"
  | percent => "Percent"
  | assign => "Assign"
  | equal => "EqEq"
  | notEqual => "NotEq"
  | less => "Lt"
  | lessEqual => "Lte"
  | greater => "Gt"
  | greaterEqual => "Gte"
  | and => "And"
  | or => "Or"
  | bang => "Bang"
  | leftParen => "LParen"
  | rightParen => "RParen"
  | comma => "Comma"
  | semicolon => "Semicolon"
  | dot => "Dot"

/-- The token that a word of name characters is. -/
def ofWord (word : List Char) : Token :=
  let name := String.ofList word
  if name = "true" then .trueWord
  else if name = "false" then .falseWord
  else .ident name

/-- How many characters the number at the start of a text has: its digits, and a point with further
digits if at least one follows it. -/
def numberLength (cs : List Char) : Nat :=
  let whole := (cs.takeWhile Char.isDigit).length
  match cs.drop whole with
  | '.' :: rest =>
    let fraction := (rest.takeWhile Char.isDigit).length
    if fraction = 0 then whole else whole + 1 + fraction
  | _ => whole

/-- The body of a string whose opening quote `q` has been read. A backslash takes the next character
into the body, whatever it is but a line feed. -/
def stringBody? (q : Char) : List Char → Option (List Char)
  | [] => none
  | '\\' :: [] => none
  | '\\' :: c :: rest => if c = '\n' then none else ('\\' :: c :: ·) <$> stringBody? q rest
  | c :: rest => if c = q then some [] else (c :: ·) <$> stringBody? q rest

/-- The operator or punctuation mark at the start of a text, with its length. -/
def mark? : List Char → Option (Token × Nat)
  | '+' :: '+' :: _ => some (.increment, 2)
  | '+' :: '=' :: _ => some (.plusAssign, 2)
  | '+' :: _ => some (.plus, 1)
  | '-' :: '-' :: _ => some (.decrement, 2)
  | '-' :: '=' :: _ => some (.minusAssign, 2)
  | '-' :: _ => some (.minus, 1)
  | '*' :: '=' :: _ => some (.starAssign, 2)
  | '*' :: _ => some (.star, 1)
  | '/' :: '=' :: _ => some (.slashAssign, 2)
  | '/' :: _ => some (.slash, 1)
  | '%' :: _ => some (.percent, 1)
  | '=' :: '=' :: _ => some (.equal, 2)
  | '=' :: _ => some (.assign, 1)
  | '!' :: '=' :: _ => some (.notEqual, 2)
  | '!' :: _ => some (.bang, 1)
  | '<' :: '=' :: _ => some (.lessEqual, 2)
  | '<' :: _ => some (.less, 1)
  | '>' :: '=' :: _ => some (.greaterEqual, 2)
  | '>' :: _ => some (.greater, 1)
  | '&' :: '&' :: _ => some (.and, 2)
  | '|' :: '|' :: _ => some (.or, 2)
  | '(' :: _ => some (.leftParen, 1)
  | ')' :: _ => some (.rightParen, 1)
  | ',' :: _ => some (.comma, 1)
  | ';' :: _ => some (.semicolon, 1)
  | '.' :: _ => some (.dot, 1)
  | _ => none

/-- The longest token at the start of a text, with the number of its characters. -/
def first? : List Char → Option (Token × Nat)
  | [] => none
  | c :: rest =>
    if Text.isNameStart c then
      let word := (c :: rest).takeWhile Text.isNameChar
      some (ofWord word, word.length)
    else if c.isDigit then
      let n := numberLength (c :: rest)
      some (.number (String.ofList ((c :: rest).take n)), n)
    else if c = '"' || c = '\x27' then
      (stringBody? c rest).map fun body => (.string (String.ofList body), body.length + 2)
    else mark? (c :: rest)

/-- The characters that only separate tokens. -/
def isGap (c : Char) : Bool := c = ' ' || c = '\t' || c = '\r' || c = '\n'

/-- The tokens of a text that starts at byte `pos`, or the position of the first character at
which no token starts. -/
def lexFrom (pos : Nat) : List Char → Except Nat (List Lexeme)
  | [] => .ok []
  | c :: rest =>
    if isGap c then lexFrom (pos + c.utf8Size) rest
    else
      match first? (c :: rest) with
      | none => .error pos
      | some (token, n) =>
        let stop := pos + Text.byteLength ((c :: rest).take n)
        (⟨token, pos, stop⟩ :: ·) <$> lexFrom stop (rest.drop (n - 1))
termination_by cs => cs.length
decreasing_by all_goals simp only [List.length_cons, List.length_drop]; omega

end Token

end PageLang
