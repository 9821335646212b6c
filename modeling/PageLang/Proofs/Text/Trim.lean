import Mathlib.Data.List.TakeWhile
import PageLang.Text.Blank
import PageLang.Text.Letter

/-!
# Blanks and trimmed texts

Blanks are apart from letters and numerals. A text is left alone by `trim` exactly when neither
its first nor its last character is a blank, and blanks put before or behind a text do not matter.
-/

namespace PageLang.Text

/-- Two classes of characters have nothing in common if their ranges lie apart. -/
theorem inRanges_eq_false_of_apart {rs ss : List (Nat × Nat)}
    (h : (rs.all fun r => ss.all fun s => r.2 < s.1 || s.2 < r.1) = true) {c : Char}
    (hc : inRanges rs c = true) : inRanges ss c = false := by
  obtain ⟨r, hr, hin⟩ := List.any_eq_true.mp hc
  rw [Bool.and_eq_true, decide_eq_true_eq, decide_eq_true_eq] at hin
  refine List.any_eq_false.mpr fun s hs => ?_
  have hapart := List.all_eq_true.mp (List.all_eq_true.mp h r hr) s hs
  rw [Bool.or_eq_true, decide_eq_true_eq, decide_eq_true_eq] at hapart
  rw [Bool.and_eq_true, decide_eq_true_eq, decide_eq_true_eq]
  omega

theorem inRanges_of_mem {rs : List (Nat × Nat)} {r : Nat × Nat} (hr : r ∈ rs) {c : Char}
    (hc : r.1 ≤ c.toNat ∧ c.toNat ≤ r.2) : inRanges rs c = true :=
  List.any_eq_true.mpr ⟨r, hr, by simpa using hc⟩

theorem inRanges_of_isDigit {c : Char} (h : c.isDigit = true) : inRanges [(0x30, 0x39)] c = true :=
  inRanges_of_mem (List.mem_singleton_self _) (Char.isDigit_iff_toNat.mp h)

/-- The letters and digits of ASCII, by their code points. -/
theorem inRanges_of_isAlphanum {c : Char} (h : c.isAlphanum = true) :
    inRanges [(0x30, 0x39), (0x41, 0x5A), (0x61, 0x7A)] c = true := by
  rcases Bool.or_eq_true_iff.mp h with halpha | hdigit
  · rcases Bool.or_eq_true_iff.mp halpha with hupper | hlower
    · have hrange : 0x41 ≤ c.toNat ∧ c.toNat ≤ 0x5A := of_decide_eq_true hupper
      exact inRanges_of_mem (.tail _ (.head _)) hrange
    · have hrange : 0x61 ≤ c.toNat ∧ c.toNat ≤ 0x7A :=
        (Bool.and_eq_true_iff.mp hlower).imp of_decide_eq_true of_decide_eq_true
      exact inRanges_of_mem (.tail _ (.tail _ (.head _))) hrange
  · exact inRanges_of_mem (.head _) (Char.isDigit_iff_toNat.mp hdigit)

/-- The letters and numerals in ASCII are the letters and digits of ASCII. -/
theorem inRanges_of_isAlphanumeric {c : Char} (hascii : c.toNat < 0x80)
    (h : isAlphanumeric c = true) :
    inRanges [(0x30, 0x39), (0x41, 0x5A), (0x61, 0x7A)] c = true := by
  have hsmall {rs : List (Nat × Nat)}
      (hrs :
        (rs.all fun r => 0x80 ≤ r.1 || [(0x30, 0x39), (0x41, 0x5A), (0x61, 0x7A)].contains r)
          = true)
      (hc : inRanges rs c = true) : inRanges [(0x30, 0x39), (0x41, 0x5A), (0x61, 0x7A)] c
          = true := by
    obtain ⟨r, hr, hin⟩ := List.any_eq_true.mp hc
    rw [Bool.and_eq_true, decide_eq_true_eq, decide_eq_true_eq] at hin
    rcases Bool.or_eq_true_iff.mp (List.all_eq_true.mp hrs r hr) with hlarge | hmem
    · have := of_decide_eq_true hlarge
      omega
    · exact inRanges_of_mem (List.contains_iff_mem.mp hmem) hin
  rcases Bool.or_eq_true_iff.mp h with hletter | hnumeral
  · exact hsmall (by decide +kernel) hletter
  · exact hsmall (by decide +kernel) hnumeral

/-- No letter and no numeral is a blank. -/
theorem isBlank_of_isAlphanumeric {c : Char} (h : isAlphanumeric c = true) : isBlank c = false := by
  rcases Bool.or_eq_true_iff.mp h with hletter | hnumeral
  · exact inRanges_eq_false_of_apart (by decide +kernel) hletter
  · exact inRanges_eq_false_of_apart (by decide +kernel) hnumeral

/-- The longest run at the start of a text ends where the class of its characters does. -/
theorem takeWhile_append_of_stop {α : Type} {p : α → Bool} {xs ys : List α}
    (hxs : ∀ x ∈ xs, p x = true) (hys : ∀ y ∈ ys.head?, p y = false) :
    (xs ++ ys).takeWhile p = xs := by
  rw [List.takeWhile_append_of_pos hxs]
  cases ys with
  | nil => simp
  | cons y ys => simp [hys y rfl]

/-- There is nothing to trim if the last character is no blank. -/
theorem trimEnd_eq_self {cs : List Char} (h : ∀ c ∈ cs.getLast?, isBlank c = false) :
    trimEnd cs = cs := by
  have hrev : trimStart cs.reverse = cs.reverse :=
    trimStart_eq_self (by rwa [List.head?_reverse])
  rw [trimEnd]
  exact (congrArg List.reverse hrev).trans (List.reverse_reverse cs)

/-- There is nothing to trim if neither end is a blank. -/
theorem trim_eq_self {cs : List Char} (hhead : ∀ c ∈ cs.head?, isBlank c = false)
    (hlast : ∀ c ∈ cs.getLast?, isBlank c = false) : trim cs = cs := by
  rw [trim, trimStart_eq_self hhead, trimEnd_eq_self hlast]

/-- A trimmed text does not start with a blank. -/
theorem isBlank_head?_trim (cs : List Char) : ∀ c ∈ (trim cs).head?, isBlank c = false := by
  rw [trim, ← trimStart_trimEnd_trimStart]
  exact isBlank_head?_trimStart _

/-- It does not end with one either. -/
theorem isBlank_getLast?_trim (cs : List Char) : ∀ c ∈ (trim cs).getLast?, isBlank c = false := by
  rw [trim, trimEnd, List.getLast?_reverse]
  exact isBlank_head?_trimStart _

/-- A trimmed text is one that begins and ends with no blank. -/
theorem trim_eq_self_iff {cs : List Char} :
    trim cs = cs ↔ (∀ c ∈ cs.head?, isBlank c = false) ∧ ∀ c ∈ cs.getLast?, isBlank c = false := by
  refine ⟨fun h => ?_, fun h => trim_eq_self h.1 h.2⟩
  rw [← h]
  exact ⟨isBlank_head?_trim cs, isBlank_getLast?_trim cs⟩

theorem trimStart_blank_cons (cs : List Char) : trimStart (' ' :: cs) = trimStart cs :=
  List.dropWhile_cons_of_pos (by decide)

theorem trim_blank_cons (cs : List Char) : trim (' ' :: cs) = trim cs :=
  congrArg trimEnd (trimStart_blank_cons cs)

/-- Blanks at the end do not matter. -/
theorem trimEnd_append_of_blank {cs es : List Char} (h : ∀ e ∈ es, isBlank e = true) :
    trimEnd (cs ++ es) = trimEnd cs := by
  rw [trimEnd, List.reverse_append, trimEnd,
    List.dropWhile_append_of_pos fun e he => h e (List.mem_reverse.mp he)]

/-- Blanks behind a text do not matter, not even where there is nothing but blanks before them. -/
theorem trim_append_of_blank {cs es : List Char} (h : ∀ e ∈ es, isBlank e = true) :
    trim (cs ++ es) = trim cs := by
  have hes : trimStart es = [] := List.dropWhile_eq_nil_iff.mpr h
  rw [trim, trim, trimStart, List.dropWhile_append]
  split
  · next hempty =>
    rw [trimStart, List.isEmpty_iff.mp hempty]
    exact congrArg trimEnd hes
  · exact trimEnd_append_of_blank h

/-- The end of a text is trimmed in its last part, if what comes before ends with no blank. -/
theorem trimEnd_append {xs ys : List Char} (h : ∀ c ∈ xs.getLast?, isBlank c = false) :
    trimEnd (xs ++ ys) = xs ++ trimEnd ys := by
  have hrev : trimStart xs.reverse = xs.reverse := trimStart_eq_self (by rwa [List.head?_reverse])
  rw [trimEnd, trimEnd, List.reverse_append, List.dropWhile_append]
  split
  · next hempty =>
    rw [List.isEmpty_iff.mp hempty, List.reverse_nil, List.append_nil]
    exact (congrArg List.reverse hrev).trans (List.reverse_reverse xs)
  · rw [List.reverse_append, List.reverse_reverse]

/-- Nothing is trimmed before a character that is no blank. -/
theorem trimEnd_append_cons {d : Char} (hd : isBlank d = false) (xs ys : List Char) :
    trimEnd (xs ++ d :: ys) = xs ++ d :: trimEnd ys := by
  have hlast : ∀ c ∈ (xs ++ [d]).getLast?, isBlank c = false := by
    rw [List.getLast?_concat]
    rintro c ⟨⟩
    exact hd
  rw [List.append_cons, trimEnd_append hlast, ← List.append_cons]

/-- At the end of a text that is not all blank, the blanks it starts with are not touched. -/
theorem trimEnd_eq_append_trim {cs : List Char} (h : trim cs ≠ []) :
    trimEnd cs = cs.takeWhile isBlank ++ trim cs := by
  have hcut : cs.takeWhile isBlank ++ trimStart cs = cs := List.takeWhile_append_dropWhile
  have hhead := isBlank_head?_trimStart cs
  rw [trim] at h ⊢
  cases hstart : trimStart cs with
  | nil =>
    rw [hstart] at h
    exact absurd rfl h
  | cons d ds =>
    rw [hstart] at hcut hhead
    have hd : isBlank d = false := hhead d rfl
    have htail : trimEnd (d :: ds) = d :: trimEnd ds := trimEnd_append_cons hd [] ds
    rw [htail, ← trimEnd_append_cons hd, hcut]

/-- A text is its trimmed form with blanks behind it. -/
theorem exists_eq_trimEnd_append (cs : List Char) :
    ∃ es, cs = trimEnd cs ++ es ∧ ∀ e ∈ es, isBlank e = true := by
  refine ⟨(cs.reverse.takeWhile isBlank).reverse, ?_, fun e he => ?_⟩
  · rw [trimEnd, ← List.reverse_append, List.takeWhile_append_dropWhile, List.reverse_reverse]
  · exact List.mem_takeWhile_imp (List.mem_reverse.mp he)

/-- Trimming the end first makes no difference. -/
theorem trim_trimEnd (cs : List Char) : trim (trimEnd cs) = trim cs := by
  obtain ⟨es, hcs, hes⟩ := exists_eq_trimEnd_append cs
  calc trim (trimEnd cs) = trim (trimEnd cs ++ es) := (trim_append_of_blank hes).symm
    _ = trim cs := by rw [← hcs]

theorem length_trimEnd_le (cs : List Char) : (trimEnd cs).length ≤ cs.length := by
  rw [trimEnd, List.length_reverse]
  exact (length_trimStart_le _).trans_eq List.length_reverse

/-- Trimming makes no text longer. -/
theorem length_trim_le (cs : List Char) : (trim cs).length ≤ cs.length :=
  (length_trimEnd_le _).trans (length_trimStart_le cs)

end PageLang.Text
