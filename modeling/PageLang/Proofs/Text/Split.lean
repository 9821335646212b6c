import PageLang.Text.Search

/-!
# Texts in pieces

A text is cut at its separators into pieces that have none. Put together again, with the separator
between them, they are the text; and pieces without the separator are found again in what they are
put together to:

> `splitBy_intercalate`: cutting undoes joining.
-/

namespace PageLang.Text

theorem splitBy_ne_nil (sep : Char → Bool) (cs : List Char) : splitBy sep cs ≠ [] := by
  cases cs with
  | nil => exact List.cons_ne_nil _ _
  | cons c cs =>
    rw [splitBy]
    split
    · exact List.cons_ne_nil _ _
    · split <;> exact List.cons_ne_nil _ _

theorem splitBy_append_cons {sep : Char → Bool} {c : Char} (hc : sep c = true) (xs ys : List Char) :
    splitBy sep (xs ++ c :: ys) = splitBy sep xs ++ splitBy sep ys := by
  induction xs with
  | nil => simp [splitBy, hc]
  | cons x xs ih =>
    rw [List.cons_append, splitBy, splitBy, ih]
    obtain ⟨piece, pieces, hpieces⟩ := List.exists_cons_of_ne_nil (splitBy_ne_nil sep xs)
    rw [hpieces, List.cons_append]
    split <;> rfl

theorem splitBy_of_forall {sep : Char → Bool} {cs : List Char} (h : ∀ c ∈ cs, sep c = false) :
    splitBy sep cs = [cs] := by
  induction cs with
  | nil => rfl
  | cons c cs ih =>
    rw [splitBy, h c (List.mem_cons_self ..), if_neg Bool.false_ne_true,
      ih fun d hd => h d (List.mem_cons_of_mem _ hd)]

/-- No piece has a separator in it. -/
theorem forall_of_mem_splitBy {sep : Char → Bool} {cs piece : List Char}
    (h : piece ∈ splitBy sep cs) : ∀ c ∈ piece, sep c = false := by
  induction cs generalizing piece with
  | nil =>
    obtain rfl := List.mem_singleton.mp h
    intro c hc
    cases hc
  | cons d cs ih =>
    rw [splitBy] at h
    split at h
    · rcases List.mem_cons.mp h with rfl | h
      · intro c hc
        cases hc
      · exact ih h
    · next hd =>
      obtain ⟨first, pieces, hpieces⟩ := List.exists_cons_of_ne_nil (splitBy_ne_nil sep cs)
      rw [hpieces] at h ih
      rcases List.mem_cons.mp h with rfl | h
      · have hfirst := ih (List.mem_cons_self ..)
        exact List.forall_mem_cons.mpr ⟨by simpa using hd, hfirst⟩
      · exact ih (List.mem_cons_of_mem _ h)

/-- **Cutting undoes joining.** -/
theorem splitBy_intercalate {sep : Char → Bool} {c : Char} (hc : sep c = true)
    {pieces : List (List Char)} (hne : pieces ≠ [])
    (h : ∀ piece ∈ pieces, ∀ d ∈ piece, sep d = false) :
    splitBy sep ([c].intercalate pieces) = pieces := by
  induction pieces with
  | nil => exact absurd rfl hne
  | cons piece pieces ih =>
    obtain ⟨hpiece, hpieces⟩ := List.forall_mem_cons.mp h
    cases pieces with
    | nil =>
      rw [List.intercalate_singleton]
      exact splitBy_of_forall hpiece
    | cons next pieces =>
      rw [List.intercalate_cons_cons, List.append_assoc, List.singleton_append,
        splitBy_append_cons hc, splitBy_of_forall hpiece, ih (List.cons_ne_nil _ _) hpieces]
      rfl

/-- The pieces of a text with a separator behind each of them are the text with a separator behind
it. -/
theorem flatMap_splitBy (c : Char) (cs : List Char) :
    (splitBy (· = c) cs).flatMap (· ++ [c]) = cs ++ [c] := by
  induction cs with
  | nil => rfl
  | cons d cs ih =>
    rw [splitBy]
    by_cases hd : d = c
    · rw [if_pos (decide_eq_true hd), List.flatMap_cons, ih, hd]
      rfl
    · rw [if_neg (by simpa using hd)]
      cases hpieces : splitBy (· = c) cs with
      | nil =>
        rw [hpieces] at ih
        exact absurd ih (by simp)
      | cons piece pieces =>
        rw [hpieces, List.flatMap_cons] at ih
        rw [List.flatMap_cons, List.cons_append, List.cons_append, ih, List.cons_append]

/-- A piece stands in the text behind the pieces before it, each with its separator. -/
theorem exists_eq_of_splitBy {c : Char} {cs raw : List Char} {before after : List (List Char)}
    (h : splitBy (· = c) cs = before ++ raw :: after) :
    ∃ rest, cs = before.flatMap (· ++ [c]) ++ (raw ++ rest) := by
  have hjoined := flatMap_splitBy c cs
  rw [h, List.flatMap_append, List.flatMap_cons, List.append_assoc raw,
    ← List.append_assoc] at hjoined
  have hlast := congrArg List.dropLast hjoined
  rw [List.singleton_append, List.dropLast_append_cons, List.dropLast_concat] at hlast
  exact ⟨_, hlast.symm.trans (List.append_assoc ..)⟩

end PageLang.Text
