/-!
# Reading numbers

A written number is digits, at most one point among or around them, and an optional power of ten. It
stands for the double nearest to it; past the largest double it is infinite.
-/

namespace PageLang.Decimal

/-- The natural number that a list of digits denotes. -/
def ofDigits (ds : List Char) : Nat :=
  ds.foldl (fun n d => n * 10 + (d.toNat - '0'.toNat)) 0

/-- The double nearest to `coefficient · 10^exponent`. A number whose leading digit stands at
`10^310` or beyond is infinite and one below `10^-330` is zero, whatever the size of its
exponent. -/
def nearest (coefficient : Nat) (exponent : Int) : Float :=
  let point := ((Nat.toDigits 10 coefficient).length : Int) + exponent
  if coefficient = 0 || point < -330 then 0
  else if 311 < point then Float.ofBits 0x7FF0000000000000
  else Float.ofScientific coefficient (exponent < 0) exponent.natAbs

/-- The double that a digit sequence with a fraction denotes: `whole.fraction · 10^exponent`. -/
def ofParts (whole fraction : List Char) (exponent : Int) : Float :=
  nearest (ofDigits (whole ++ fraction)) (exponent - fraction.length)

/-- A run of digits at the start of a text, with what follows. -/
def spanDigits (cs : List Char) : List Char × List Char := cs.span Char.isDigit

/-- The digits after a point, if the text starts with one. -/
def spanFraction : List Char → List Char × List Char
  | '.' :: rest => spanDigits rest
  | cs => ([], cs)

/-- The exponent that a whole text spells: nothing at all, or `e`, an optional sign and digits. -/
def exponent? : List Char → Option Int
  | [] => some 0
  | e :: rest =>
    if e = 'e' || e = 'E' then
      let (negative, ds) := match rest with
        | '-' :: ds => (true, ds)
        | '+' :: ds => (false, ds)
        | ds => (false, ds)
      if ds.isEmpty || !ds.all Char.isDigit then none
      else some (if negative then -(ofDigits ds : Int) else ofDigits ds)
    else none

/-- The double that a text without a sign spells. There is a digit before or after the point. -/
def unsigned? (cs : List Char) : Option Float :=
  let (whole, afterWhole) := spanDigits cs
  let (fraction, afterFraction) := spanFraction afterWhole
  if whole.isEmpty && fraction.isEmpty then none
  else (exponent? afterFraction).map (ofParts whole fraction)

/-- The double that a text spells, with an optional sign. -/
def parse? : List Char → Option Float
  | '-' :: cs => (unsigned? cs).map (- ·)
  | '+' :: cs => unsigned? cs
  | cs => unsigned? cs

/-- A plain numeral: digits, then perhaps a point and more digits. -/
def isNumeral (cs : List Char) : Bool :=
  let (whole, rest) := spanDigits cs
  !whole.isEmpty && match rest with
    | [] => true
    | '.' :: fraction => !fraction.isEmpty && fraction.all Char.isDigit
    | _ => false

end PageLang.Decimal
