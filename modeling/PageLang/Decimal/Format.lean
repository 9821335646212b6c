import PageLang.Decimal.Shortest

/-!
# Numbers as text

A `Format` says how a double is written: which way ties go, for which decimal exponents positional
notation is used, and whether a whole number keeps `.0`. The library writes numbers in two formats,
one for data and one for display.
-/

namespace PageLang.Decimal

/-- How finite doubles are written. -/
structure Format where
  tie : Tie
  /-- Whether a number whose leading digit has this decimal exponent is written without an
  exponent. -/
  positional : Int → Bool
  /-- Whether a whole number written positionally ends in `.0`. -/
  pointZero : Bool

/-- Every number in full: no exponent, no `.0`. -/
def Format.display : Format := ⟨.up, fun _ => true, false⟩

/-- Exponents from -5 to 15 positionally and with at least one decimal place; beyond them scientific
notation with a signed exponent. -/
def Format.data : Format := ⟨.even, fun e => -5 ≤ e && e < 16, true⟩

/-- The digits of a natural number. -/
def digits (n : Nat) : List Char := Nat.toDigits 10 n

/-- A decimal written without an exponent. -/
def Format.plain (f : Format) (d : Decimal) : List Char :=
  let ds := digits d.coefficient
  let point := (ds.length : Int) + d.exponent
  if 0 ≤ d.exponent then
    ds ++ List.replicate d.exponent.natAbs '0' ++ (if f.pointZero then ['.', '0'] else [])
  else if 0 < point then
    ds.take point.natAbs ++ '.' :: ds.drop point.natAbs
  else
    '0' :: '.' :: List.replicate point.natAbs '0' ++ ds

/-- A decimal written as a digit, further digits and a power of ten. -/
def scientific (d : Decimal) : List Char :=
  let ds := digits d.coefficient
  let e := (ds.length : Int) - 1 + d.exponent
  ds.take 1 ++ (if ds.length ≤ 1 then [] else '.' :: ds.drop 1)
    ++ 'e' :: (if e < 0 then '-' else '+') :: digits e.natAbs

/-- A nonnegative decimal as text. -/
def Format.decimal (f : Format) (d : Decimal) : List Char :=
  let leading := ((digits d.coefficient).length : Int) - 1 + d.exponent
  if f.positional leading then f.plain d else scientific d

/-- A finite double as text, with its sign. -/
def Format.finite (f : Format) (x : Float) : List Char :=
  (if isNegative x then ['-'] else []) ++ f.decimal (shortest f.tie (Magnitude.ofFloat x))

/-- How a number is shown to a reader: in full, zero without a sign, and the values that are not
finite by their names. -/
def display (x : Float) : String :=
  if x.isNaN then "NaN"
  else if x == 0 then "0"
  else if x.isInf then (if isNegative x then "-inf" else "inf")
  else String.ofList (Format.display.finite x)

end PageLang.Decimal
