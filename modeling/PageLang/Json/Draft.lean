import PageLang.Text.Search

/-!
# Reading JSON text

A text is read from the left, and what is reported of a bad text is the first thing wrong with it:
a character that does not belong there, the end of the text, or a value of the wrong shape. To
find it, a text is first turned into a `Draft`: the value as far as it could be made out, with a
mark where the text stops making sense. Whoever wants a value of a certain shape then goes through
the draft in the order of the text.

Some tokens can be skipped but not read: a string with half a surrogate pair, a number too large
for a double. A draft keeps them, since members that nobody asks for are skipped.
-/

namespace PageLang.Json

/-- What can be wrong with a text. -/
inductive Fault where
  /-- A character that does not belong there. -/
  | malformed
  /-- The text ends too early. -/
  | truncated
  /-- A well-formed value of another shape than was asked for. -/
  | mismatch
  deriving DecidableEq, Repr

/-- The tokens that are values. -/
inductive TokenKind where
  | string
  | number
  /-- One of `null`, `true` and `false`. -/
  | word
  deriving DecidableEq, Repr

/-- A value as far as it could be made out. -/
inductive Draft where
  /-- No value starts here. -/
  | broken (fault : Fault)
  /-- A token that cannot be read. Skipping it may also fail, and then the text ends here. -/
  | unreadable (kind : TokenKind) (fault : Fault) (skipped : Option Fault)
  | null
  | bool (value : Bool)
  | int (value : Int)
  | float (value : Float)
  | str (value : String)
  /-- The items, and what went wrong where a comma or the closing bracket was due. -/
  | arr (items : List Draft) (cut : Option Fault)
  /-- The members, and what went wrong where a key, a comma or the closing brace was due. A key
  may be one that can only be skipped. -/
  | obj (members : List (Except Fault String × Draft)) (cut : Option Fault)

/-- What a token gives when it is read, and the text after it when it is skipped. -/
structure Scan (α : Type) where
  read : Except Fault α
  after : Except Fault (List Char)

namespace Scan

variable {α β : Type}

/-- The token is wrong either way. -/
def fail (fault : Fault) : Scan α := ⟨.error fault, .error fault⟩

/-- A function applied to what is read. -/
def map (f : α → β) (s : Scan α) : Scan β := ⟨f <$> s.read, s.after⟩

end Scan

/-! ## Strings -/

/-- The value of a hexadecimal digit. -/
def hexDigit? (c : Char) : Option Nat :=
  if c.isDigit then some (c.toNat - '0'.toNat)
  else if 'a' ≤ c && c ≤ 'f' then some (c.toNat - 'a'.toNat + 10)
  else if 'A' ≤ c && c ≤ 'F' then some (c.toNat - 'A'.toNat + 10)
  else none

/-- The number that four hexadecimal digits spell. -/
def hexFour? (a b c d : Char) : Option Nat := do
  return (← hexDigit? a) * 4096 + (← hexDigit? b) * 256 + (← hexDigit? c) * 16 + (← hexDigit? d)

/-- The first half of a surrogate pair. -/
def isHighHalf (n : Nat) : Bool := 0xD800 ≤ n && n ≤ 0xDBFF

/-- The second half of a surrogate pair. -/
def isLowHalf (n : Nat) : Bool := 0xDC00 ≤ n && n ≤ 0xDFFF

/-- The character that a surrogate pair stands for. -/
def joinHalves (high low : Nat) : Char :=
  Char.ofNat (0x10000 + (high - 0xD800) * 0x400 + (low - 0xDC00))

/-- What is wrong with fewer than four characters where four hexadecimal digits are due. -/
def shortHexFault (cs : List Char) : Fault :=
  if Text.byteLength cs < 4 then .truncated else .malformed

/-- The character that an escape letter stands for. -/
def unescape? : Char → Option Char
  | '"' => some '"'
  | '\\' => some '\\'
  | '/' => some '/'
  | 'b' => some '\x08'
  | 'f' => some '\x0c'
  | 'n' => some '\n'
  | 'r' => some '\r'
  | 't' => some '\t'
  | _ => none

/-- A character of a string, or the number that an escape with four digits gives. -/
inductive Piece where
  | char (c : Char)
  | unit (n : Nat)

/-- The rest of a string whose opening quote has been read: its pieces, and the text after it. -/
def scanPieces : List Char → List Piece × Except Fault (List Char)
  | [] => ([], .error .truncated)
  | '"' :: rest => ([], .ok rest)
  | '\\' :: 'u' :: a :: b :: c :: d :: rest =>
    match hexFour? a b c d with
    | none => ([], .error .malformed)
    | some n =>
      let (pieces, after) := scanPieces rest
      (.unit n :: pieces, after)
  | '\\' :: 'u' :: rest => ([], .error (shortHexFault rest))
  | ['\\'] => ([], .error .truncated)
  | '\\' :: letter :: rest =>
    match unescape? letter with
    | none => ([], .error .malformed)
    | some c =>
      let (pieces, after) := scanPieces rest
      (.char c :: pieces, after)
  | c :: rest =>
    if c.toNat < 0x20 then ([], .error .malformed)
    else
      let (pieces, after) := scanPieces rest
      (.char c :: pieces, after)

/-- The characters that the pieces of a string stand for: the two halves of a surrogate pair make
one, and a half on its own makes none. The pieces may end because the text has a fault. -/
def joinPieces (ending : Option Fault) : List Piece → Except Fault (List Char)
  | [] =>
    match ending with
    | none => .ok []
    | some f => .error f
  | .char c :: pieces => (c :: ·) <$> joinPieces ending pieces
  | .unit n :: pieces =>
    if isLowHalf n then .error .malformed
    else if isHighHalf n then
      match pieces with
      | [] => .error (ending.getD .malformed)
      | .unit m :: pieces =>
        if isLowHalf m then (joinHalves n m :: ·) <$> joinPieces ending pieces
        else .error .malformed
      | .char _ :: _ => .error .malformed
    else (Char.ofNat n :: ·) <$> joinPieces ending pieces

/-- The rest of a string whose opening quote has been read. -/
def scanString (cs : List Char) : Scan (List Char) :=
  let (pieces, after) := scanPieces cs
  let ending := match after with
    | .ok _ => none
    | .error f => some f
  ⟨joinPieces ending pieces, after⟩

/-! ## Numbers -/

/-- A number as it is read: whole numbers of 64 bits are kept exactly. -/
inductive Number where
  | int (value : Int)
  | float (value : Float)

/-- The largest number of 64 bits. -/
def maxWord : Nat := Nat.pow 2 64 - 1

/-- Appends digits to a number as long as it fits 64 bits: the number, how many digits went into
it, and those that did not. -/
def appendDigits (n : Nat) : List Char → Nat × Nat × List Char
  | [] => (n, 0, [])
  | d :: ds =>
    let m := n * 10 + (d.toNat - '0'.toNat)
    if maxWord < m then (n, 0, d :: ds)
    else
      let (k, used, left) := appendDigits m ds
      (k, used + 1, left)

/-- A power of ten as a double. -/
def tenTo (k : Nat) : Float := Float.ofScientific 1 false k

/-- The double `x` scaled by `10^e` in one multiplication or division; where no double is that
power of ten, it is first divided by `10^308` over and over. Nothing when the result would be
infinite. -/
def scaleTen? (x : Float) (e : Int) : Option Float :=
  if 0 ≤ e then
    if 308 < e then (if x == 0 then some x else none)
    else
      let y := x * tenTo e.natAbs
      if y.isInf then none else some y
  else if e < -308 then
    if x == 0 then some x else scaleTen? (x / tenTo 308) (e + 308)
  else some (x / tenTo e.natAbs)
termination_by e.natAbs
decreasing_by omega

/-- The largest exponent that is taken at its word. -/
def maxExponent : Nat := Nat.pow 2 31 - 1

/-- The parts of a written number: its sign, the digits before and after the point, and the
exponent. -/
structure Numeral where
  negative : Bool
  whole : List Char
  fraction : Option (List Char)
  exponent : Option (Bool × List Char)

/-- The number that a numeral is read as. A whole number of 64 bits is exact. Otherwise the leading
digits that fit 64 bits are made a double and scaled by the remaining power of ten. -/
def Numeral.value? (n : Numeral) : Option Number :=
  let (lead, _, cut) := appendDigits 0 n.whole
  match n.fraction, n.exponent, cut with
  | none, none, [] =>
    if !n.negative then some (.int lead)
    else if lead = 0 || Nat.pow 2 63 < lead then some (.float (-(Float.ofNat lead)))
    else some (.int (-(lead : Int)))
  | fraction, exponent, cut =>
    let (lead, used, _) := appendDigits lead (fraction.getD [])
    let shift := (cut.length : Int) - used
    let scaled : Option Float := match exponent with
      | none => scaleTen? (Float.ofNat lead) shift
      | some (down, ds) =>
        let e := ds.foldl (fun e d => e * 10 + (d.toNat - '0'.toNat)) 0
        if maxExponent < e then (if lead ≠ 0 && !down then none else some 0)
        else scaleTen? (Float.ofNat lead) (if down then shift - e else shift + e)
    scaled.map fun x => .float (if n.negative then -x else x)

/-- The exponent that may follow the digits of a number, and the text after it. -/
def scanExponent : List Char → Scan (Option (Bool × List Char))
  | [] => ⟨.ok none, .ok []⟩
  | c :: rest =>
    if c = 'e' || c = 'E' then
      let (down, ds) := match rest with
        | '-' :: ds => (true, ds)
        | '+' :: ds => (false, ds)
        | ds => (false, ds)
      match ds.span Char.isDigit with
      | ([], []) => ⟨.error .truncated, .error .malformed⟩
      | ([], _ :: _) => .fail .malformed
      | (ds, rest) => ⟨.ok (some (down, ds)), .ok rest⟩
    else ⟨.ok none, .ok (c :: rest)⟩

/-- The fraction and exponent that may follow the whole part of a number. -/
def scanFraction : List Char → Scan (Option (List Char) × Option (Bool × List Char))
  | '.' :: rest =>
    match rest.span Char.isDigit with
    | ([], []) => ⟨.error .truncated, .error .malformed⟩
    | ([], _ :: _) => .fail .malformed
    | (ds, rest) => (scanExponent rest).map (some ds, ·)
  | rest => (scanExponent rest).map (none, ·)

/-- A number from its first digit on, a sign having been read or not. -/
def scanUnsigned (negative : Bool) (cs : List Char) : Scan Number :=
  match cs.span Char.isDigit with
  | ([], []) => ⟨.error .truncated, .error .malformed⟩
  | ([], _ :: _) => .fail .malformed
  | ('0' :: _ :: _, _) => .fail .malformed
  | (whole, rest) =>
    let scan := scanFraction rest
    match scan.read with
    | .error f => ⟨.error f, scan.after⟩
    | .ok (fraction, exponent) =>
      match Numeral.value? ⟨negative, whole, fraction, exponent⟩ with
      | none => ⟨.error .malformed, scan.after⟩
      | some n => ⟨.ok n, scan.after⟩

/-- A number, from its sign or first digit on. -/
def scanNumber : List Char → Scan Number
  | '-' :: cs => scanUnsigned true cs
  | cs => scanUnsigned false cs

/-! ## Values -/

/-- The blanks between tokens. -/
def isSpacing (c : Char) : Bool := c = ' ' || c = '\n' || c = '\t' || c = '\r'

/-- The text from the next token on. -/
def skipSpacing (cs : List Char) : List Char := cs.dropWhile isSpacing

/-- The text after the letters that a word has to go on with. -/
def scanWord : (letters cs : List Char) → Except Fault (List Char)
  | [], cs => .ok cs
  | _ :: _, [] => .error .truncated
  | l :: letters, c :: cs => if l = c then scanWord letters cs else .error .malformed

/-- A word whose first letter has been read, as the value it stands for. -/
def draftWord (letters : List Char) (value : Draft) (cs : List Char) : Draft × Option (List Char) :=
  match scanWord letters cs with
  | .ok rest => (value, some rest)
  | .error f => (.unreadable .word f (some f), none)

/-- A scanned token as a draft, and the text after it if the text goes on. -/
def draftScan {α : Type} (kind : TokenKind) (value : α → Draft) (scan : Scan α) :
    Draft × Option (List Char) :=
  match scan.read, scan.after with
  | .ok a, .ok rest => (value a, some rest)
  | .ok _, .error f => (.unreadable kind f (some f), none)
  | .error f, .ok rest => (.unreadable kind f none, some rest)
  | .error f, .error g => (.unreadable kind f (some g), none)

/-- The value of a number. -/
def Number.draft : Number → Draft
  | .int n => .int n
  | .float x => .float x

mutual

/-- The value at the start of a text, and the text after it. A fault ends the text. -/
def draftValue : Nat → List Char → Draft × Option (List Char)
  | 0, _ => (.broken .truncated, none)
  | fuel + 1, cs =>
    match skipSpacing cs with
    | [] => (.broken .truncated, none)
    | '"' :: rest => draftScan .string (fun s => .str (String.ofList s)) (scanString rest)
    | '[' :: rest =>
      let (items, cut, rest) := draftItems fuel true rest
      (.arr items cut, rest)
    | '\x7b' :: rest =>
      let (members, cut, rest) := draftMembers fuel true rest
      (.obj members cut, rest)
    | 'n' :: rest => draftWord ['u', 'l', 'l'] .null rest
    | 't' :: rest => draftWord ['r', 'u', 'e'] (.bool true) rest
    | 'f' :: rest => draftWord ['a', 'l', 's', 'e'] (.bool false) rest
    | c :: rest =>
      if c = '-' || c.isDigit then draftScan .number Number.draft (scanNumber (c :: rest))
      else (.broken .malformed, none)

/-- The items from here to the closing bracket. -/
def draftItems : Nat → Bool → List Char → List Draft × Option Fault × Option (List Char)
  | 0, _, _ => ([], some .truncated, none)
  | fuel + 1, first, cs =>
    match skipSpacing cs with
    | [] => ([], some .truncated, none)
    | ']' :: rest => ([], none, some rest)
    | c :: rest =>
      if first then draftItem fuel (c :: rest)
      else if c = ',' then
        match skipSpacing rest with
        | ']' :: _ => ([], some .malformed, none)
        | rest => draftItem fuel rest
      else ([], some .malformed, none)

/-- An item and those after it. -/
def draftItem : Nat → List Char → List Draft × Option Fault × Option (List Char)
  | 0, _ => ([], some .truncated, none)
  | fuel + 1, cs =>
    match draftValue fuel cs with
    | (item, none) => ([item], none, none)
    | (item, some rest) =>
      let (items, cut, rest) := draftItems fuel false rest
      (item :: items, cut, rest)

/-- The members from here to the closing brace. -/
def draftMembers : Nat → Bool → List Char →
    List (Except Fault String × Draft) × Option Fault × Option (List Char)
  | 0, _, _ => ([], some .truncated, none)
  | fuel + 1, first, cs =>
    match skipSpacing cs with
    | [] => ([], some .truncated, none)
    | '\x7d' :: rest => ([], none, some rest)
    | '"' :: rest => if first then draftMember fuel rest else ([], some .malformed, none)
    | ',' :: rest =>
      if first then ([], some .malformed, none)
      else
        match skipSpacing rest with
        | [] => ([(.error .truncated, .broken .truncated)], none, none)
        | '"' :: rest => draftMember fuel rest
        | _ => ([], some .malformed, none)
    | _ => ([], some .malformed, none)

/-- A member whose key has been opened, and those after it. -/
def draftMember : Nat → List Char →
    List (Except Fault String × Draft) × Option Fault × Option (List Char)
  | 0, _ => ([], some .truncated, none)
  | fuel + 1, cs =>
    let scan := scanString cs
    let key : Except Fault String := String.ofList <$> scan.read
    match scan.after with
    | .error f => ([(key, .broken f)], none, none)
    | .ok rest =>
      match skipSpacing rest with
      | [] => ([(key, .broken .truncated)], none, none)
      | ':' :: rest =>
        match draftValue fuel rest with
        | (value, none) => ([(key, value)], none, none)
        | (value, some rest) =>
          let (members, cut, rest) := draftMembers fuel false rest
          ((key, value) :: members, cut, rest)
      | _ => ([(key, .broken .malformed)], none, none)

end

/-- The draft of a text and what follows the value. Every value, item and member takes at least one
character, so that three steps for each character are enough. -/
def draft (cs : List Char) : Draft × Option (List Char) := draftValue (3 * cs.length + 3) cs

end PageLang.Json
