import PageLang.Json.Draft
import PageLang.Json.Printer
import PageLang.Proofs.Decimal.Digits

/-!
# Numbers in JSON text

Every number is written as a numeral: an optional sign, digits without a needless zero in front,
perhaps a point and more digits, perhaps an exponent (`exists_numeral_floatText`,
`text_intNumeral`). A numeral ends where something follows that cannot go on with it:

> what is read of a numeral does not depend on what follows it (`scanNumber_text`).

Natural numbers of 64 bits are read as what they are (`read_intNumeral`).
-/

namespace PageLang.Json

open Decimal (digits)

/-- The text goes on with something that is no part of a number. -/
def EndsNumber (rest : List Char) : Prop :=
  ∀ c ∈ rest.head?, c.isDigit = false ∧ c ≠ '.' ∧ c ≠ 'e' ∧ c ≠ 'E'

theorem endsNumber_nil : EndsNumber [] := fun _ h => nomatch h

/-- A number ends before a character that cannot go on with it. -/
theorem endsNumber_cons {c : Char} {rest : List Char} (hdigit : c.isDigit = false)
    (hpoint : c ≠ '.') (he : c ≠ 'e') (hE : c ≠ 'E') : EndsNumber (c :: rest) := by
  intro d hd
  cases hd
  exact ⟨hdigit, hpoint, he, hE⟩

/-! ## Numerals -/

/-- At least one digit and nothing else. -/
structure Digits (ds : List Char) : Prop where
  ne_nil : ds ≠ []
  isDigit : ∀ c ∈ ds, c.isDigit = true

theorem digits_digits (n : Nat) : Digits (digits n) :=
  ⟨Decimal.digits_ne_nil n, fun _ => Decimal.isDigit_of_mem_digits⟩

/-- Zeros may be written behind digits. -/
theorem Digits.append_zeros {ds : List Char} (h : Digits ds) (k : Nat) :
    Digits (ds ++ List.replicate k '0') where
  ne_nil := List.append_ne_nil_of_left_ne_nil h.ne_nil _
  isDigit c hc := by
    rcases List.mem_append.mp hc with hc | hc
    · exact h.isDigit c hc
    · rw [List.eq_of_mem_replicate hc]
      rfl

/-- Zeros may be written before digits. -/
theorem Digits.zeros_append {ds : List Char} (h : Digits ds) (k : Nat) :
    Digits (List.replicate k '0' ++ ds) where
  ne_nil := List.append_ne_nil_of_right_ne_nil _ h.ne_nil
  isDigit c hc := by
    rcases List.mem_append.mp hc with hc | hc
    · rw [List.eq_of_mem_replicate hc]
      rfl
    · exact h.isDigit c hc

/-- A run of digits is read up to what follows it. -/
theorem Digits.span_append {ds rest : List Char} (h : Digits ds)
    (hrest : ∀ c ∈ rest.head?, c.isDigit = false) :
    (ds ++ rest).span Char.isDigit = (ds, rest) :=
  spanDigits_append h.isDigit hrest

/-- A fraction as it is written. -/
def fractionText : Option (List Char) → List Char
  | none => []
  | some ds => '.' :: ds

/-- An exponent as it is written, always with a sign. -/
def exponentText : Option (Bool × List Char) → List Char
  | none => []
  | some (down, ds) => 'e' :: (if down then '-' else '+') :: ds

/-- A numeral as it is written. -/
def Numeral.text (n : Numeral) : List Char :=
  (if n.negative then ['-'] else [])
    ++ (n.whole ++ (fractionText n.fraction ++ exponentText n.exponent))

/-- The parts of a numeral are digits, and no zero stands before others. -/
structure Numeral.WellFormed (n : Numeral) : Prop where
  whole : Digits n.whole
  leading : ∀ ds, n.whole = '0' :: ds → ds = []
  fraction : ∀ ds ∈ n.fraction, Digits ds
  exponent : ∀ e ∈ n.exponent, Digits e.2

variable {rest : List Char}

/-- An exponent is scanned back from its text. -/
theorem scanExponent_text {e : Option (Bool × List Char)} (he : ∀ x ∈ e, Digits x.2)
    (hrest : EndsNumber rest) : scanExponent (exponentText e ++ rest) = ⟨.ok e, .ok rest⟩ := by
  match e with
  | none =>
    show scanExponent rest = _
    cases rest with
    | nil => rfl
    | cons c rest =>
      obtain ⟨-, -, hlower, hupper⟩ := hrest c rfl
      have hno : ¬ (c = 'e' || c = 'E') = true := by simp [hlower, hupper]
      unfold scanExponent
      exact if_neg hno
  | some (down, ds) =>
    have hds : Digits ds := he (down, ds) rfl
    have hspan : (ds ++ rest).span Char.isDigit = (ds, rest) :=
      hds.span_append fun c hc => (hrest c hc).1
    obtain ⟨d, tail, rfl⟩ := List.exists_cons_of_ne_nil hds.ne_nil
    cases down with
    | true =>
      show scanExponent ('e' :: '-' :: ((d :: tail) ++ rest)) = _
      rw [scanExponent]
      simp only [decide_true, Bool.true_or, if_true, hspan]
    | false =>
      show scanExponent ('e' :: '+' :: ((d :: tail) ++ rest)) = _
      rw [scanExponent]
      simp only [decide_true, Bool.true_or, if_true, hspan]

/-- An exponent or what follows it goes on with no digit and no point. -/
theorem head?_exponentText (e : Option (Bool × List Char)) (hrest : EndsNumber rest) :
    ∀ c ∈ (exponentText e ++ rest).head?, c.isDigit = false ∧ c ≠ '.' := by
  match e with
  | none => exact fun c hc => ⟨(hrest c hc).1, (hrest c hc).2.1⟩
  | some (down, ds) =>
    intro c hc
    cases hc
    decide

/-- So are a fraction and the exponent behind it. -/
theorem scanFraction_text {f : Option (List Char)} {e : Option (Bool × List Char)}
    (hf : ∀ x ∈ f, Digits x) (he : ∀ x ∈ e, Digits x.2) (hrest : EndsNumber rest) :
    scanFraction (fractionText f ++ (exponentText e ++ rest)) = ⟨.ok (f, e), .ok rest⟩ := by
  have hexponent := scanExponent_text he hrest
  have hhead := head?_exponentText e hrest
  match f with
  | none =>
    show scanFraction (exponentText e ++ rest) = _
    unfold scanFraction
    split
    · next tail htext =>
      rw [htext] at hhead
      exact absurd rfl (hhead '.' rfl).2
    · rw [hexponent]
      rfl
  | some ds =>
    have hds : Digits ds := hf ds rfl
    have hspan : (ds ++ (exponentText e ++ rest)).span Char.isDigit
        = (ds, exponentText e ++ rest) :=
      hds.span_append fun c hc => (hhead c hc).1
    obtain ⟨d, tail, rfl⟩ := List.exists_cons_of_ne_nil hds.ne_nil
    show scanFraction ('.' :: ((d :: tail) ++ (exponentText e ++ rest))) = _
    rw [scanFraction, hspan]
    show (scanExponent (exponentText e ++ rest)).map (some (d :: tail), ·) = _
    rw [hexponent]
    rfl

/-- What a numeral gives when it is read. -/
def Numeral.read (n : Numeral) : Except Fault Number :=
  match n.value? with
  | some x => .ok x
  | none => .error .malformed

/-- **A numeral is read up to its end.** -/
theorem scanNumber_text {n : Numeral} (h : n.WellFormed) (hrest : EndsNumber rest) :
    scanNumber (n.text ++ rest) = ⟨n.read, .ok rest⟩ := by
  have hfraction := scanFraction_text h.fraction h.exponent hrest
  obtain ⟨negative, whole, f, e⟩ := n
  have htail : ∀ c ∈ (fractionText f ++ (exponentText e ++ rest)).head?, c.isDigit = false := by
    match f with
    | none => exact fun c hc => (head?_exponentText e hrest c hc).1
    | some ds =>
      intro c hc
      cases hc
      decide
  have hspan : (whole ++ (fractionText f ++ (exponentText e ++ rest))).span Char.isDigit
      = (whole, fractionText f ++ (exponentText e ++ rest)) := h.whole.span_append htail
  obtain ⟨d, ds, rfl⟩ := List.exists_cons_of_ne_nil h.whole.ne_nil
  have hd : d.isDigit = true := h.whole.isDigit d (List.mem_cons_self ..)
  have hunsigned : scanUnsigned negative ((d :: ds) ++ (fractionText f ++ (exponentText e ++ rest)))
      = ⟨Numeral.read ⟨negative, d :: ds, f, e⟩, .ok rest⟩ := by
    unfold scanUnsigned
    rw [hspan]
    split
    · next heq => cases heq
    · next heq => cases heq
    · next heq =>
      obtain ⟨hwhole, -⟩ := Prod.mk.inj heq
      cases h.leading _ hwhole
    · next heq =>
      obtain ⟨rfl, rfl⟩ := Prod.mk.inj heq
      rw [hfraction]
      dsimp only
      unfold Numeral.read
      cases Numeral.value? ⟨negative, d :: ds, f, e⟩ <;> rfl
  rw [Numeral.text, List.append_assoc, List.append_assoc, List.append_assoc]
  cases negative with
  | true => exact hunsigned
  | false =>
    unfold scanNumber
    split
    · next cs hcs =>
      -- The first character is a digit and no sign.
      obtain ⟨rfl, -⟩ := List.cons.inj hcs
      cases hd
    · exact hunsigned

/-- The text of a numeral is read as the numeral. -/
theorem read_scanNumber {n : Numeral} (hn : n.WellFormed) : (scanNumber n.text).read = n.read := by
  have halone := scanNumber_text hn endsNumber_nil
  rw [List.append_nil] at halone
  rw [halone]

/-! ## Characters of numerals -/

/-- A character that a number may start with. -/
def startsNumber (c : Char) : Bool := c = '-' || c.isDigit

/-- A character that a written number may have. -/
def isNumeralChar (c : Char) : Bool := c.isDigit || ['-', '+', '.', 'e'].contains c

theorem isNumeralChar_of_isDigit {c : Char} (h : c.isDigit = true) : isNumeralChar c = true := by
  rw [isNumeralChar, h, Bool.true_or]

/-- The text of a numeral has only characters of numbers. -/
theorem isNumeralChar_of_mem_text {n : Numeral} (hn : n.WellFormed) {c : Char} (hc : c ∈ n.text) :
    isNumeralChar c = true := by
  obtain ⟨negative, whole, fraction, exponent⟩ := n
  rcases List.mem_append.mp hc with hsign | hc
  · cases negative with
    | true =>
      rw [List.mem_singleton.mp hsign]
      rfl
    | false => cases hsign
  rcases List.mem_append.mp hc with hwhole | hc
  · exact isNumeralChar_of_isDigit (hn.whole.isDigit c hwhole)
  rcases List.mem_append.mp hc with hfraction | hexponent
  · match fraction with
    | none => cases hfraction
    | some ds =>
      rcases List.mem_cons.mp hfraction with rfl | hds
      · rfl
      · exact isNumeralChar_of_isDigit ((hn.fraction ds rfl).isDigit c hds)
  · match exponent with
    | none => cases hexponent
    | some (down, ds) =>
      rcases List.mem_cons.mp hexponent with rfl | hexponent
      · rfl
      rcases List.mem_cons.mp hexponent with rfl | hds
      · cases down <;> rfl
      · exact isNumeralChar_of_isDigit ((hn.exponent (down, ds) rfl).isDigit c hds)

/-- It starts like a number. -/
theorem exists_cons_text {n : Numeral} (hn : n.WellFormed) :
    ∃ c cs, n.text = c :: cs ∧ startsNumber c = true := by
  obtain ⟨negative, whole, fraction, exponent⟩ := n
  cases negative with
  | true => exact ⟨'-', _, rfl, rfl⟩
  | false =>
    obtain ⟨d, ds, hds⟩ := List.exists_cons_of_ne_nil hn.whole.ne_nil
    have hdigit : d.isDigit = true := hn.whole.isDigit d (hds ▸ List.mem_cons_self)
    refine ⟨d, ds ++ (fractionText fraction ++ exponentText exponent), ?_, ?_⟩
    · show whole ++ _ = _
      rw [show whole = d :: ds from hds, List.cons_append]
    · rw [startsNumber, hdigit, Bool.or_true]

/-! ## Fractional numbers -/

/-- The first digits of digits are digits. -/
theorem Digits.take {ds : List Char} (h : Digits ds) {k : Nat} (hk : 0 < k) :
    Digits (ds.take k) where
  ne_nil := by
    rw [Ne, List.take_eq_nil_iff, not_or]
    exact ⟨Nat.ne_of_gt hk, h.ne_nil⟩
  isDigit c hc := h.isDigit c (List.mem_of_mem_take hc)

/-- So are the others. -/
theorem Digits.drop {ds : List Char} (h : Digits ds) {k : Nat} (hk : k < ds.length) :
    Digits (ds.drop k) where
  ne_nil := by
    rw [Ne, List.drop_eq_nil_iff]
    omega
  isDigit c hc := h.isDigit c (List.mem_of_mem_drop hc)

/-- The digits of a number have a zero in front only if they are just this zero. -/
theorem eq_nil_of_digits_eq_cons {n : Nat} {ds : List Char} (h : digits n = '0' :: ds) :
    ds = [] := by
  have hzero := Decimal.eq_zero_of_digits_eq_cons h
  rw [hzero, Decimal.digits_zero] at h
  exact (List.cons.inj h).2.symm

/-- Zero is the only number written with a leading zero. -/
theorem eq_zero_of_head?_digits {n : Nat} (h : (digits n).head? = some '0') : n = 0 := by
  cases hds : digits n with
  | nil => exact absurd hds (Decimal.digits_ne_nil n)
  | cons d ds =>
    rw [hds] at h
    cases h
    exact Decimal.eq_zero_of_digits_eq_cons hds

/-- A decimal written positionally is a numeral. -/
theorem exists_numeral_plain {d : Decimal} (h : d.coefficient = 0 → d.exponent = 0) :
    ∃ whole fraction, Digits whole ∧ (∀ ds, whole = '0' :: ds → ds = []) ∧ Digits fraction
      ∧ Decimal.Format.data.plain d = whole ++ '.' :: fraction := by
  have hdigits := digits_digits d.coefficient
  have hzero : Digits ['0'] := Decimal.digits_zero ▸ digits_digits 0
  unfold Decimal.Format.plain
  dsimp only
  split
  · next hexponent =>
    refine ⟨digits d.coefficient ++ List.replicate d.exponent.natAbs '0', ['0'],
      hdigits.append_zeros _, fun ds hds => ?_, hzero, rfl⟩
    -- A zero in front is the whole coefficient, and then there are no zeros behind it.
    have hhead : (digits d.coefficient).head? = some '0' := by
      obtain ⟨c, cs, hcs⟩ := List.exists_cons_of_ne_nil hdigits.ne_nil
      rw [hcs] at hds ⊢
      exact congrArg some (List.cons.inj hds).1
    have hcoefficient := eq_zero_of_head?_digits hhead
    rw [hcoefficient, h hcoefficient, Decimal.digits_zero] at hds
    exact (List.cons.inj hds).2.symm
  · next hexponent =>
    split
    · next hpoint =>
      have hpos : 0 < ((digits d.coefficient).length + d.exponent).natAbs := by omega
      have hlt :
          ((digits d.coefficient).length + d.exponent).natAbs < (digits d.coefficient).length := by
            omega
      refine ⟨_, _, hdigits.take hpos, fun ds hds => ?_, hdigits.drop hlt, rfl⟩
      have hhead : (digits d.coefficient).head? = some '0' := by
        have hfirst := congrArg List.head? hds
        rwa [List.head?_take, if_neg (Nat.ne_of_gt hpos)] at hfirst
      exact absurd (h (eq_zero_of_head?_digits hhead)) (by omega)
    · exact ⟨['0'], _, hzero, fun ds hds => (List.cons.inj hds).2.symm, hdigits.zeros_append _, rfl⟩

/-- A decimal written with a power of ten is a numeral. -/
theorem exists_numeral_scientific (d : Decimal) (negative : Bool) :
    ∃ n : Numeral, n.WellFormed
      ∧ n.text = (if negative then ['-'] else []) ++ Decimal.scientific d := by
  have hdigits := digits_digits d.coefficient
  have hleading : ∀ ds, (digits d.coefficient).take 1 = '0' :: ds → ds = [] := by
    intro ds hds
    have hlength := congrArg List.length hds
    rw [List.length_take, List.length_cons] at hlength
    exact List.eq_nil_of_length_eq_zero (by omega)
  unfold Decimal.scientific
  dsimp only
  generalize ((digits d.coefficient).length : Int) - 1 + d.exponent = e
  have hexponent : ∀ x ∈ some (decide (e < 0), digits e.natAbs), Digits x.2 := by
    rintro x ⟨⟩
    exact digits_digits _
  by_cases hlength : (digits d.coefficient).length ≤ 1
  · refine ⟨⟨negative, (digits d.coefficient).take 1, none, some (decide (e < 0), digits e.natAbs)⟩,
      ⟨hdigits.take Nat.one_pos, hleading, nofun, hexponent⟩, ?_⟩
    rw [if_pos hlength]
    simp [Numeral.text, fractionText, exponentText]
  · have hfraction : ∀ ds ∈ some ((digits d.coefficient).drop 1), Digits ds := by
      rintro ds ⟨⟩
      exact hdigits.drop (by omega)
    refine ⟨⟨negative, (digits d.coefficient).take 1, some ((digits d.coefficient).drop 1),
      some (decide (e < 0), digits e.natAbs)⟩,
      ⟨hdigits.take Nat.one_pos, hleading, hfraction, hexponent⟩, ?_⟩
    rw [if_neg hlength]
    simp [Numeral.text, fractionText, exponentText]

/-- A decimal is written as a numeral. -/
theorem exists_numeral_decimal {d : Decimal} (h : d.coefficient = 0 → d.exponent = 0)
    (negative : Bool) : ∃ n : Numeral, n.WellFormed
      ∧ n.text = (if negative then ['-'] else []) ++ Decimal.Format.data.decimal d := by
  rw [Decimal.Format.decimal]
  by_cases hpositional :
      Decimal.Format.data.positional ((digits d.coefficient).length - 1 + d.exponent) = true
  · rw [if_pos hpositional]
    obtain ⟨whole, fraction, hwhole, hleading, hfraction, hplain⟩ := exists_numeral_plain h
    refine ⟨⟨negative, whole, some fraction, none⟩, ⟨hwhole, hleading, ?_, nofun⟩, ?_⟩
    · rintro ds ⟨⟩
      exact hfraction
    · rw [hplain, Numeral.text, exponentText, List.append_nil]
      rfl
  · rw [if_neg hpositional]
    exact exists_numeral_scientific d negative

/-- A finite number is written as a numeral. -/
theorem exists_numeral_floatText {x : Float} (hx : x.isFinite = true) :
    ∃ n : Numeral, n.WellFormed ∧ n.text = floatText x := by
  rw [floatText, if_pos hx]
  exact exists_numeral_decimal Decimal.exponent_shortest_eq_zero (Decimal.isNegative x)

/-! ## Whole numbers -/

/-- A whole number as a numeral. -/
def intNumeral (n : Int) : Numeral := ⟨decide (n < 0), digits n.natAbs, none, none⟩

/-- An integer is a numeral with neither a fraction nor an exponent. -/
theorem wellFormed_intNumeral (n : Int) : (intNumeral n).WellFormed where
  whole := digits_digits n.natAbs
  leading _ := eq_nil_of_digits_eq_cons
  fraction := nofun
  exponent := nofun

theorem text_intNumeral (n : Int) : (intNumeral n).text = intText n := by
  simp [Numeral.text, intNumeral, intText, fractionText, exponentText]

/-- Reading on does not make the number smaller. -/
theorem le_ofDigitChars (ds : List Char) (n : Nat) : n ≤ Nat.ofDigitChars 10 ds n := by
  induction ds generalizing n with
  | nil => exact Nat.le_refl n
  | cons d ds ih =>
    rw [Nat.ofDigitChars_cons]
    exact Nat.le_trans (by omega) (ih _)

/-- Digits of a number that fits 64 bits all go into it. -/
theorem appendDigits_eq {ds : List Char} {n : Nat} (h : Nat.ofDigitChars 10 ds n ≤ maxWord) :
    appendDigits n ds = (Nat.ofDigitChars 10 ds n, ds.length, []) := by
  induction ds generalizing n with
  | nil => rfl
  | cons d ds ih =>
    rw [Nat.ofDigitChars_cons, Nat.mul_comm] at h ⊢
    have hfits : ¬ maxWord < n * 10 + (d.toNat - '0'.toNat) :=
      Nat.not_lt.mpr (Nat.le_trans (le_ofDigitChars ds _) h)
    unfold appendDigits
    dsimp only
    rw [if_neg hfits, ih h]
    rfl

/-- A natural number that fits 64 bits is read as itself. -/
theorem read_intNumeral {n : Nat} (h : n ≤ maxWord) : (intNumeral n).read = .ok (.int n) := by
  have hvalue : Nat.ofDigitChars 10 (digits n) 0 = n := Nat.ofDigitChars_ten_toDigits
  have hdigits : appendDigits 0 (digits n) = (n, (digits n).length, []) := by
    rw [appendDigits_eq (hvalue.symm ▸ h), hvalue]
  have hpositive : decide ((n : Int) < 0) = false := by simp
  have hnumeral : intNumeral n = ⟨false, digits n, none, none⟩ := by
    rw [intNumeral, hpositive, Int.natAbs_natCast]
  rw [Numeral.read, hnumeral, Numeral.value?]
  dsimp only
  rw [hdigits]
  rfl

end PageLang.Json
