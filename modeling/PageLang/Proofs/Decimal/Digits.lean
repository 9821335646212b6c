import Mathlib.Data.List.TakeDrop
import Mathlib.Data.List.TakeWhile
import PageLang.Decimal.Format
import PageLang.Decimal.Reader
import PageLang.Proofs.Text.Trim

/-!
# Runs of digits

Where a run of digits ends is decided by what follows it, and the digits of a number form such a
run, which starts with a zero only for zero itself.
-/

namespace PageLang

/-- Digits are read up to the first other character. -/
theorem spanDigits_append {ds rest : List Char} (hds : ∀ c ∈ ds, c.isDigit = true)
    (hrest : ∀ c ∈ rest.head?, c.isDigit = false) :
    Decimal.spanDigits (ds ++ rest) = (ds, rest) := by
  unfold Decimal.spanDigits
  rw [List.span_eq_takeWhile_dropWhile, Text.takeWhile_append_of_stop hds hrest,
    List.dropWhile_append_of_pos hds]
  cases rest with
  | nil => rfl
  | cons c rest => rw [List.dropWhile_cons_of_neg (by simp [hrest c rfl])]

namespace Decimal

theorem digits_ne_nil (n : Nat) : digits n ≠ [] := Nat.toDigits_ne_nil

theorem isDigit_of_mem_digits {n : Nat} {c : Char} (h : c ∈ digits n) : c.isDigit = true :=
  Nat.isDigit_of_mem_toDigits (by decide) (by decide) h

theorem digits_zero : digits 0 = ['0'] := rfl

/-- Only zero is written as a zero. -/
theorem eq_zero_of_digitChar : ∀ n < 10, n.digitChar = '0' → n = 0 := by decide

/-- The digits of a number start with a zero only if it is zero. -/
theorem eq_zero_of_digits_eq_cons {n : Nat} {ds : List Char} (h : digits n = '0' :: ds) :
    n = 0 := by
  induction n using Nat.strongRecOn generalizing ds with
  | ind n ih =>
    by_cases hn : n < 10
    · have hsingle : digits n = [n.digitChar] := Nat.toDigits_of_lt_base hn
      exact eq_zero_of_digitChar n hn (List.cons.inj (hsingle.symm.trans h)).1
    · have hle : 10 ≤ n := Nat.le_of_not_lt hn
      have hsplit : digits n = digits (n / 10) ++ [(n % 10).digitChar] :=
        Nat.toDigits_of_base_le (by decide) hle
      -- The first digit is that of the tenth part, which is smaller and not zero.
      obtain ⟨d, rest, hd⟩ := List.exists_cons_of_ne_nil (digits_ne_nil (n / 10))
      rw [hsplit, hd, List.cons_append] at h
      have hzero : n / 10 = 0 := ih (n / 10) (by omega) ((List.cons.inj h).1 ▸ hd)
      omega

/-! ## Shortest decimals -/

/-- Dropping zeros makes no number zero. -/
theorem coefficient_dropZeros_ne_zero (fuel : Nat) {d : Decimal} (h : d.coefficient ≠ 0) :
    (dropZeros fuel d).coefficient ≠ 0 := by
  induction fuel generalizing d with
  | zero => exact h
  | succ fuel ih =>
    unfold dropZeros
    split
    · next hzero =>
      rw [Bool.and_eq_true, beq_iff_eq] at hzero
      refine ih ?_
      show d.coefficient / 10 ≠ 0
      omega
    · exact h

/-- What is found on a grid is not zero. -/
theorem coefficient_of_onGrid? {tie : Tie} {m : Magnitude} {k : Int} {d : Decimal}
    (h : onGrid? tie m k = some d) : d.coefficient ≠ 0 := by
  have hrounded {upward : Bool} {n : Nat} (hn : n ≠ 0) : (if upward then n + 1 else n) ≠ 0 := by
    split
    · exact Nat.succ_ne_zero n
    · exact hn
  unfold onGrid? at h
  dsimp only at h
  split at h
  · next hbelow _ =>
    rw [Bool.and_eq_true, decide_eq_true_eq] at hbelow
    cases h
    exact hrounded hbelow.2
  · next hbelow _ =>
    rw [Bool.and_eq_true, decide_eq_true_eq] at hbelow
    cases h
    exact hbelow.2
  · cases h
    exact Nat.succ_ne_zero _
  · cases h

/-- The shortest decimal is zero only in the form `0 · 10^0`. -/
theorem exponent_shortest_eq_zero {tie : Tie} {m : Magnitude}
    (h : (shortest tie m).coefficient = 0) : (shortest tie m).exponent = 0 := by
  unfold shortest at h ⊢
  dsimp only at h ⊢
  split at h
  · next d hd =>
    obtain ⟨n, -, hgrid⟩ := List.exists_of_findSome?_eq_some hd
    exact absurd h (coefficient_dropZeros_ne_zero 17 (coefficient_of_onGrid? hgrid))
  · rfl

end Decimal

end PageLang
