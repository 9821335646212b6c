import PageLang.Decimal.Shortest

/-!
# Arithmetic on doubles

The operations of the expression language that the double type does not offer as such. The
remainder is exact: both numbers are whole multiples of one power of two.
-/

namespace PageLang.Decimal

/-- The double `n · 2^q`, for one that exists, with a sign. Zero keeps its sign. -/
def compose (negative : Bool) (n : Nat) (q : Int) : Float :=
  let magnitude := if q < 0 then Float.ofScientific (n * Nat.pow 5 q.natAbs) true q.natAbs
    else Float.ofNat (n * Nat.pow 2 q.natAbs)
  if negative then -magnitude else magnitude

/-- The remainder of a division whose quotient is rounded toward zero. It has the sign of the
dividend. -/
def remainder (x y : Float) : Float :=
  if !x.isFinite || y.isNaN || y == 0 then 0 / 0
  else if y.isInf then x
  else
    let m := Magnitude.ofFloat x
    let n := Magnitude.ofFloat y
    let q := min m.exponent n.exponent
    let a := m.mantissa * Nat.pow 2 (m.exponent - q).natAbs
    let b := n.mantissa * Nat.pow 2 (n.exponent - q).natAbs
    compose (isNegative x) (a % b) q

/-- The smaller of two numbers; one that is no number is ignored, and of two equal ones, such as
the two zeros, the second is taken. -/
def smaller (x y : Float) : Float := if y.isNaN || x < y then x else y

/-- The larger of two numbers; one that is no number is ignored, and of two equal ones, such as
the two zeros, the second is taken. -/
def larger (x y : Float) : Float := if y.isNaN || y < x then x else y

end PageLang.Decimal
