import PageLang.Text.Ranges
import PageLang.Text.Search

/-!
# White space

`isBlank` is the White_Space property of Unicode. Trimming drops the blanks at the ends of a text.
-/

namespace PageLang.Text

/-- The code points with the property White_Space. -/
def blankRanges : List (Nat × Nat) := [
  (0x9, 0xD), (0x20, 0x20), (0x85, 0x85), (0xA0, 0xA0), (0x1680, 0x1680),
  (0x2000, 0x200A), (0x2028, 0x2029), (0x202F, 0x202F), (0x205F, 0x205F), (0x3000, 0x3000)]

/-- Whether `c` is white space. -/
def isBlank (c : Char) : Bool := inRanges blankRanges c

/-- The text without the blanks it starts with. -/
def trimStart (cs : List Char) : List Char := cs.dropWhile isBlank

theorem length_trimStart_le (cs : List Char) : (trimStart cs).length ≤ cs.length :=
  (List.dropWhile_suffix isBlank).length_le

/-- The text without the blanks it ends with. -/
def trimEnd (cs : List Char) : List Char := (cs.reverse.dropWhile isBlank).reverse

/-- The text without the blanks around it. -/
def trim (cs : List Char) : List Char := trimEnd (trimStart cs)

/-- The string without the blanks around it. -/
def trimmed (s : String) : String := String.ofList (trim s.toList)

/-- What is stored of the text of a value: the text without the blanks around it, and then without
the quotes around it if there are any. -/
def stored (value : List Char) : List Char := (stripQuotes? (trim value)).getD (trim value)

theorem trimStart_eq_self {cs : List Char} (h : ∀ c ∈ cs.head?, isBlank c = false) :
    trimStart cs = cs := by
  cases cs with
  | nil => rfl
  | cons c cs => rw [trimStart, List.dropWhile_cons, h c rfl, if_neg Bool.false_ne_true]

theorem isBlank_head?_trimStart (cs : List Char) :
    ∀ c ∈ (trimStart cs).head?, isBlank c = false := by
  intro c hc
  have hnot := List.head?_dropWhile_not isBlank cs
  rw [trimStart] at hc
  rw [Option.mem_def.mp hc] at hnot
  exact hnot

/-- Trimming the end leaves the start as it is. -/
theorem trimStart_trimEnd_trimStart (cs : List Char) :
    trimStart (trimEnd (trimStart cs)) = trimEnd (trimStart cs) := by
  have hpre : trimEnd (trimStart cs) <+: trimStart cs := by
    have hsuffix := List.dropWhile_suffix isBlank (l := (trimStart cs).reverse)
    rw [← List.reverse_prefix, List.reverse_reverse] at hsuffix
    exact hsuffix
  obtain ⟨rest, hrest⟩ := hpre
  refine trimStart_eq_self fun c hc => isBlank_head?_trimStart cs c ?_
  rw [← hrest, List.head?_append, Option.mem_def.mp hc]
  rfl

/-- What has been trimmed is not trimmed further. -/
theorem trimmed_trimmed (s : String) : trimmed (trimmed s) = trimmed s := by
  have hend (cs : List Char) : trimEnd (trimEnd cs) = trimEnd cs := by
    rw [trimEnd, trimEnd, List.reverse_reverse]
    exact congrArg List.reverse (trimStart_eq_self (isBlank_head?_trimStart cs.reverse))
  rw [trimmed, trimmed, String.toList_ofList, trim, trim, trimStart_trimEnd_trimStart, hend]

end PageLang.Text
