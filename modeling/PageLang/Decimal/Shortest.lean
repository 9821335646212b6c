/-!
# Shortest decimals

A finite double other than zero is `m · 2^q` for whole numbers `m` and `q`, and the reals that
round to it form an interval around it. `shortest` finds the decimal with the fewest digits in
that interval, and among those with equally few digits the one nearest to the double; `Tie` says
which of two equally near ones is taken. All arithmetic is exact.
-/

namespace PageLang

/-- The number `coefficient · 10^exponent`. -/
structure Decimal where
  coefficient : Nat
  exponent : Int
  deriving DecidableEq, Repr

namespace Decimal

/-- Which of two equally near decimals is taken. -/
inductive Tie where
  | up
  | even
  deriving DecidableEq, Repr

/-- The magnitude of a finite double: the integer `mantissa` times the power of two `exponent`. A
mantissa is `narrow` below when the next smaller double is only half as far away as the next larger
one. -/
structure Magnitude where
  mantissa : Nat
  exponent : Int
  narrow : Bool
  deriving DecidableEq, Repr

/-- The magnitude of a finite double, from the fields of its binary form. -/
def Magnitude.ofFloat (x : Float) : Magnitude :=
  let bits := x.toBits.toNat
  let fraction : Nat := bits % Nat.pow 2 52
  let field : Nat := bits / Nat.pow 2 52 % Nat.pow 2 11
  if field = 0 then ⟨fraction, -1074, false⟩
  else ⟨fraction + Nat.pow 2 52, (field : Int) - 1075, fraction == 0 && field > 1⟩

/-- The sign bit. -/
def isNegative (x : Float) : Bool := x.toBits.toNat / Nat.pow 2 63 == 1

/-- A quotient of two natural numbers. -/
structure Ratio where
  num : Nat
  den : Nat

/-- The number `n · 2^q` as a quotient. -/
def Ratio.scaleTwo (n : Nat) (q : Int) : Ratio :=
  if q < 0 then ⟨n, Nat.pow 2 q.natAbs⟩ else ⟨n * Nat.pow 2 q.natAbs, 1⟩

/-- The quotient divided by `10^k`. -/
def Ratio.overTen (r : Ratio) (k : Int) : Ratio :=
  if k < 0 then ⟨r.num * Nat.pow 10 k.natAbs, r.den⟩ else ⟨r.num, r.den * Nat.pow 10 k.natAbs⟩

/-- The decimal exponent of the leading digit of a positive quotient. -/
def Ratio.leadingExponent (r : Ratio) : Int :=
  if r.den ≤ r.num then ((Nat.toDigits 10 (r.num / r.den)).length : Int) - 1
  else -((Nat.toDigits 10 ((r.den - 1) / r.num)).length : Int)

/-- The interval of reals that round to a magnitude, in quarters of its last place: both ends and
the value itself, and whether the ends belong to it. -/
structure Interval where
  low : Nat
  value : Nat
  high : Nat
  closed : Bool

/-- The interval around a magnitude. -/
def Magnitude.interval (m : Magnitude) : Interval where
  low := 4 * m.mantissa - if m.narrow then 1 else 2
  value := 4 * m.mantissa
  high := 4 * m.mantissa + 2
  closed := m.mantissa % 2 == 0

/-- The decimal on the grid of multiples of `10^k` that stands for the magnitude, if one of the two
multiples next to it lies in its interval. -/
def onGrid? (tie : Tie) (m : Magnitude) (k : Int) : Option Decimal :=
  let i := m.interval
  let unit := (Ratio.scaleTwo 1 (m.exponent - 2)).overTen k
  let below := i.value * unit.num / unit.den
  let inside (n : Nat) : Bool :=
    let low := i.low * unit.num
    let high := i.high * unit.num
    let point := n * unit.den
    if i.closed then low ≤ point && point ≤ high else low < point && point < high
  let gap := i.value * unit.num - below * unit.den
  match inside below && below ≠ 0, inside (below + 1) with
  | true, true =>
    let upward : Bool := match tie with
      | .up => unit.den ≤ 2 * gap
      | .even => unit.den < 2 * gap || (unit.den == 2 * gap && below % 2 == 1)
    some ⟨if upward then below + 1 else below, k⟩
  | true, false => some ⟨below, k⟩
  | false, true => some ⟨below + 1, k⟩
  | false, false => none

/-- The decimal without trailing zeros in its coefficient, of which `fuel` are looked for. -/
def dropZeros : Nat → Decimal → Decimal
  | 0, d => d
  | fuel + 1, d =>
    if d.coefficient ≠ 0 && d.coefficient % 10 == 0 then
      dropZeros fuel ⟨d.coefficient / 10, d.exponent + 1⟩
    else d

/-- The shortest decimal that reads back as the magnitude. Seventeen digits always suffice. -/
def shortest (tie : Tie) (m : Magnitude) : Decimal :=
  let top := (Ratio.scaleTwo m.mantissa m.exponent).leadingExponent
  match (List.range 17).findSome? fun n => onGrid? tie m (top - (n : Nat)) with
  | some d => d.dropZeros 17
  | none => ⟨0, 0⟩

end Decimal

end PageLang
