import PageLang.Decimal.Format
import PageLang.Json.Basic

/-!
# JSON text

A value is written compactly, without any blank, or spread over lines with two more blanks of
indentation for every level. Of the characters in a string only the quote, the backslash and the
controls below U+0020 are escaped. Numbers that are not finite are written `null`.
-/

namespace PageLang.Json

/-- The two hexadecimal digits of a number below 256. -/
def hexPair (n : Nat) : List Char := [Nat.digitChar (n / 16 % 16), Nat.digitChar (n % 16)]

/-- One character inside a string. -/
def escapeChar (c : Char) : List Char :=
  if c = '"' then ['\\', '"']
  else if c = '\\' then ['\\', '\\']
  else if c = '\x08' then ['\\', 'b']
  else if c = '\t' then ['\\', 't']
  else if c = '\n' then ['\\', 'n']
  else if c = '\x0c' then ['\\', 'f']
  else if c = '\r' then ['\\', 'r']
  else if c.toNat < 0x20 then ['\\', 'u', '0', '0'] ++ hexPair c.toNat
  else [c]

/-- A string between its quotes. -/
def quote (s : String) : List Char := '"' :: s.toList.flatMap escapeChar ++ ['"']

/-- A fractional number. -/
def floatText (x : Float) : List Char :=
  if x.isFinite then Decimal.Format.data.finite x else "null".toList

/-- A whole number. -/
def intText (n : Int) : List Char :=
  (if n < 0 then ['-'] else []) ++ Decimal.digits n.natAbs

/-- How the parts of a container are set apart: what stands after the opening bracket and each
comma, what before the closing bracket, both for a container at a given depth, and what after the
colon. -/
structure Spacing where
  inner : Nat → List Char
  outer : Nat → List Char
  colon : List Char

/-- Nothing anywhere. -/
def Spacing.none : Spacing := ⟨fun _ => [], fun _ => [], []⟩

/-- Every part on a line of its own, two blanks deeper than the container. -/
def Spacing.lines : Spacing where
  inner depth := '\n' :: List.replicate (2 * (depth + 1)) ' '
  outer depth := '\n' :: List.replicate (2 * depth) ' '
  colon := [' ']

mutual

/-- The text of a value at a given depth, followed by `rest`. -/
def write (spacing : Spacing) (depth : Nat) (rest : List Char) : Json → List Char
  | .null => "null".toList ++ rest
  | .bool b => (if b then "true".toList else "false".toList) ++ rest
  | .int n => intText n ++ rest
  | .float x => floatText x ++ rest
  | .str s => quote s ++ rest
  | .arr [] => '[' :: ']' :: rest
  | .arr (item :: items) =>
    let rest := writeItems spacing depth (spacing.outer depth ++ ']' :: rest) items
    '[' :: spacing.inner depth ++ write spacing (depth + 1) rest item
  | .obj [] => '\x7b' :: '\x7d' :: rest
  | .obj ((key, value) :: members) =>
    let rest := writeMembers spacing depth (spacing.outer depth ++ '\x7d' :: rest) members
    '\x7b' :: spacing.inner depth ++ (quote key ++ ':' :: spacing.colon
      ++ write spacing (depth + 1) rest value)

/-- The items after the first, each with the comma before it, followed by `rest`. -/
def writeItems (spacing : Spacing) (depth : Nat) (rest : List Char) : List Json → List Char
  | [] => rest
  | item :: items =>
    ',' :: spacing.inner depth
      ++ write spacing (depth + 1) (writeItems spacing depth rest items) item

/-- The members after the first, each with the comma before it, followed by `rest`. -/
def writeMembers (spacing : Spacing) (depth : Nat) (rest : List Char) :
    List (String × Json) → List Char
  | [] => rest
  | (key, value) :: members =>
    ',' :: spacing.inner depth ++ (quote key ++ ':' :: spacing.colon
      ++ write spacing (depth + 1) (writeMembers spacing depth rest members) value)

end

/-- The text of a value on one line. -/
def compact (j : Json) : String := String.ofList (write .none 0 [] j)

/-- The text of a value spread over lines. -/
def pretty (j : Json) : String := String.ofList (write .lines 0 [] j)

end PageLang.Json
