/-!
# Searching and replacing

Cutting a text at separators and replacing every occurrence of a part, on lists of characters.
-/

namespace PageLang.Text

/-- The text with every occurrence of `part`, found from the left and not overlapping, replaced by
`value`. An empty part has no occurrences. -/
def replaceAll (part value : List Char) : List Char → List Char
  | [] => []
  | c :: rest =>
    if part ≠ [] ∧ part.isPrefixOf (c :: rest) then
      value ++ replaceAll part value (rest.drop (part.length - 1))
    else c :: replaceAll part value rest
termination_by cs => cs.length
decreasing_by all_goals simp only [List.length_cons, List.length_drop]; omega

/-- The text with every `c` replaced by `value`. -/
def replaceChar (c : Char) (value : List Char) (cs : List Char) : List Char :=
  cs.flatMap fun d => if d = c then value else [d]

/-- The pieces of a text between the characters that `sep` marks. There is one more piece than there
are separators. -/
def splitBy (sep : Char → Bool) : List Char → List (List Char)
  | [] => [[]]
  | c :: rest =>
    if sep c then [] :: splitBy sep rest
    else match splitBy sep rest with
      | [] => [[c]]
      | piece :: pieces => (c :: piece) :: pieces

/-- A single or a double quote. -/
def isQuote (c : Char) : Bool := c = '"' || c = '\x27'

/-- The text between its first and last character, when these are the same quote. -/
def stripQuotes? : List Char → Option (List Char)
  | [] => none
  | q :: rest => if isQuote q && rest.getLast? = some q then some rest.dropLast else none

/-- How many bytes the text takes in UTF-8. -/
def byteLength (cs : List Char) : Nat := cs.foldl (fun n c => n + c.utf8Size) 0

theorem byteLength_cons (c : Char) (cs : List Char) :
    byteLength (c :: cs) = c.utf8Size + byteLength cs := by
  have hstart : ∀ n : Nat, cs.foldl (fun n c => n + c.utf8Size) n = n + byteLength cs := by
    unfold byteLength
    induction cs with
    | nil => exact fun n => rfl
    | cons d ds ih =>
      intro n
      rw [List.foldl_cons, List.foldl_cons, ih, ih (0 + _)]
      omega
  rw [byteLength, List.foldl_cons, hstart]
  omega

theorem byteLength_append (xs ys : List Char) :
    byteLength (xs ++ ys) = byteLength xs + byteLength ys := by
  induction xs with
  | nil => exact (Nat.zero_add _).symm
  | cons x xs ih => rw [List.cons_append, byteLength_cons, byteLength_cons, ih, Nat.add_assoc]

/-- What is left of a text behind its first `n` bytes. There is nothing to give when these end
inside a character or when the text is shorter. -/
def fromByte? : (n : Nat) → List Char → Option (List Char)
  | 0, cs => some cs
  | _ + 1, [] => none
  | n + 1, c :: cs => if c.utf8Size ≤ n + 1 then fromByte? (n + 1 - c.utf8Size) cs else none

/-- Behind at least one byte there is less of the text. -/
theorem length_fromByte?_lt {n : Nat} {cs rest : List Char} (h : fromByte? (n + 1) cs = some rest) :
    rest.length < cs.length := by
  induction cs generalizing n with
  | nil => cases h
  | cons c cs ih =>
    rw [fromByte?] at h
    split at h
    · next hsize =>
      rw [List.length_cons]
      cases hleft : n + 1 - c.utf8Size with
      | zero =>
        rw [hleft, fromByte?, Option.some.injEq] at h
        rw [h]
        exact Nat.lt_succ_self _
      | succ m =>
        rw [hleft] at h
        exact Nat.lt_succ_of_lt (ih h)
    · cases h

/-- Bytes that are passed with whole characters. -/
theorem fromByte?_append (xs ys : List Char) (n : Nat) :
    fromByte? (byteLength xs + n) (xs ++ ys) = fromByte? n ys := by
  induction xs with
  | nil => rw [byteLength, List.foldl_nil, Nat.zero_add, List.nil_append]
  | cons x xs ih =>
    have hpos := x.utf8Size_pos
    obtain ⟨m, hm⟩ : ∃ m, byteLength (x :: xs) + n = m + 1 :=
      ⟨x.utf8Size - 1 + byteLength xs + n, by rw [byteLength_cons]; omega⟩
    have hleft : m + 1 - x.utf8Size = byteLength xs + n := by
      rw [← hm, byteLength_cons]
      omega
    rw [hm, List.cons_append, fromByte?, if_pos (by rw [byteLength_cons] at hm; omega), hleft, ih]

/-- One byte further than the start of a character there is a boundary only if the character takes
one byte. -/
theorem fromByte?_one (c : Char) (cs : List Char) :
    fromByte? 1 (c :: cs) = if c.utf8Size = 1 then some cs else none := by
  have hpos := c.utf8Size_pos
  rw [fromByte?]
  by_cases h : c.utf8Size = 1
  · rw [if_pos (Nat.le_of_eq h), if_pos h, h]
    exact fromByte?.eq_1 cs
  · rw [if_neg (by omega), if_neg h]

end PageLang.Text
