import PageLang.Text.Visible

/-!
# Quoted text

How a text is shown between double quotes in a message: the quote and the backslash get a backslash,
line feed, return, tab and NUL have their letters, and every other character that one cannot see on
its own is written by its code point in hexadecimal.
-/

namespace PageLang.Text

/-- The letter by which a character is escaped, when it has one. -/
def escapeLetter? : Char → Option Char
  | '\x00' => some '0'
  | '\t' => some 't'
  | '\r' => some 'r'
  | '\n' => some 'n'
  | '"' => some '"'
  | '\\' => some '\\'
  | _ => none

/-- One character as it stands between the quotes. -/
def quotedChar (c : Char) : List Char :=
  match escapeLetter? c with
  | some letter => ['\\', letter]
  | none =>
    if isExtending c || isHidden c then
      ['\\', 'u', '\x7b'] ++ Nat.toDigits 16 c.toNat ++ ['\x7d']
    else [c]

/-- The text between double quotes. -/
def quoted (s : String) : String :=
  String.ofList ('"' :: s.toList.flatMap quotedChar ++ ['"'])

end PageLang.Text
