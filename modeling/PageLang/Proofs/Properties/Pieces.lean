import PageLang.Proofs.Properties.Scan
import PageLang.Proofs.Text.Bytes

/-!
# Pieces between separators

A text is taken to pieces by searching for a separator, and searching again behind it as if
nothing had come before. That forgets nothing: a separator is found where no quote and no bracket
is open, so the new search starts as the old one would have gone on. One scan over the whole text
sees the same separators:

> `pieces?_eq_cut_seen`: the pieces are the text cut at all places where a scan of it sees the
> separator.

Quotes and brackets are taken for what they are before they are compared with the separator, so
that no text is cut at one of them. The search goes on one byte behind the start of the separator:
all this is so for a comma, and for any other separator of one byte, while a wider one is found
and then not passed.
-/

namespace PageLang.Properties

open Text (isQuote trim byteLength)
open Scan (isInert)

/-! ## What a scan sees -/

/-- Whether a character is taken for the separator. -/
def separates (separator c : Char) : Bool := isInert c && c = separator

/-- The places where one scan of the text sees the separator while nothing is open. -/
def seen (separator : Char) (cs : List Char) : List Nat :=
  (List.range cs.length).filter fun p =>
    cs[p]?.any (separates separator) && ({} : Scan).after (cs.take p) = {}

theorem separators_separates (separator : Char) : Separators (separates separator) :=
  fun _ hc => (Bool.and_eq_true_iff.mp hc).1

/-- The search does not stop at quotes and brackets, even if it is asked to. -/
theorem findFrom_eq_separates (separator : Char) (cs : List Char) (depth : Nat)
    (quote : Option Char) :
    findFrom (· = separator) depth quote cs = findFrom (separates separator) depth quote cs := by
  induction cs generalizing depth quote with
  | nil => rw [findFrom, findFrom]
  | cons c cs ih =>
    cases quote with
    | some q => rw [findFrom, findFrom, ih]
    | none =>
      rw [findFrom, findFrom]
      simp only [ih]
      split
      · rfl
      · split
        · rfl
        · split
          · rfl
          · next hquote hopen hclose =>
            -- Only what is neither a quote nor a bracket comes so far as to be compared.
            have hinert : isInert c = true := by simp [isInert, hquote, hopen, hclose]
            rw [separates, hinert, Bool.true_and]

theorem find?_eq_separates (separator : Char) (cs : List Char) :
    find? (· = separator) cs = find? (separates separator) cs :=
  findFrom_eq_separates separator cs 0 none

section Seen

variable {separator : Char} {xs ys : List Char}

/-- After a text that closes what it opens the scan goes on as it began. -/
theorem seen_append (h : ({} : Scan).after xs = {}) :
    seen separator (xs ++ ys) = seen separator xs ++ (seen separator ys).map (xs.length + ·) := by
  unfold seen
  rw [List.length_append, List.range_add, List.filter_append, List.filter_map]
  congr 1
  · refine List.filter_congr fun p hp => ?_
    have hlt := List.mem_range.mp hp
    rw [List.getElem?_append_left hlt, List.take_append_of_le_length (Nat.le_of_lt hlt)]
  · refine congrArg _ (List.filter_congr fun p _ => ?_)
    have hget : (xs ++ ys)[xs.length + p]? = ys[p]? := by
      rw [List.getElem?_append_right (Nat.le_add_right _ _), Nat.add_sub_cancel_left]
    rw [Function.comp_apply, hget, List.take_length_add_append, Scan.after_append, h]

/-- No separator is seen in a text that has none outside quotes and brackets. -/
theorem seen_eq_nil {cs : List Char} (h : ({} : Scan).passes (separates separator) cs = true) :
    seen separator cs = [] := by
  refine List.filter_eq_nil_iff.mpr fun p hp => ?_
  have hlt := List.mem_range.mp hp
  rw [← List.take_append_drop p cs, List.drop_eq_getElem_cons hlt, Scan.passes_append,
    Scan.passes] at h
  simp only [Bool.and_eq_true, Bool.not_eq_true', Bool.and_eq_false_iff,
    decide_eq_false_iff_not] at h
  rw [List.getElem?_eq_getElem hlt, Option.any_some, Bool.and_eq_true, decide_eq_true_eq]
  rintro ⟨hsep, hopen⟩
  rcases h.2.1 with hstate | hnone
  · exact hstate hopen
  · rw [hsep] at hnone
    cases hnone

/-- The first separator that is seen is the one after a sealed text, and behind it the scan starts
anew. -/
theorem seen_append_cons (hx : Sealed (separates separator) xs)
    (hsep : separates separator separator = true) : seen separator (xs ++ separator :: ys)
      = xs.length :: (seen separator ys).map ((xs.length + 1) + ·) := by
  have hinert : isInert separator = true := separators_separates separator separator hsep
  have hclosed : ({} : Scan).after [separator] = {} := Scan.step_of_isInert hinert 0
  have hself : seen separator [separator] = [0] := by simp [seen, hsep, Scan.after]
  rw [seen_append hx.closed, seen_eq_nil hx.passes, ← List.singleton_append,
    seen_append hclosed, hself]
  simp [Nat.add_assoc, Function.comp_def]

end Seen

/-! ## Cutting -/

/-- What is left of a text from `start` on, cut at the places given in ascending order. The
characters at these places are left out. -/
def cutFrom (cs : List Char) : (start : Nat) → (places : List Nat) → List (List Char)
  | start, [] => [cs.drop start]
  | start, p :: places => (cs.take p).drop start :: cutFrom cs (p + 1) places

/-- A text cut at places given in ascending order. -/
def cut (cs : List Char) (places : List Nat) : List (List Char) := cutFrom cs 0 places

theorem length_cut (cs : List Char) (places : List Nat) :
    (cut cs places).length = places.length + 1 := by
  unfold cut
  generalize 0 = start
  induction places generalizing start with
  | nil => rfl
  | cons p places ih => rw [cutFrom, List.length_cons, ih, List.length_cons]

theorem cutFrom_append (xs ys : List Char) (start : Nat) (places : List Nat) :
    cutFrom (xs ++ ys) (xs.length + start) (places.map (xs.length + ·))
      = cutFrom ys start places := by
  induction places generalizing start with
  | nil => rw [List.map_nil, cutFrom, cutFrom, List.drop_length_add_append]
  | cons p places ih =>
    rw [List.map_cons, cutFrom, cutFrom, List.take_length_add_append, List.drop_length_add_append,
      Nat.add_assoc, ih]

theorem cut_append_cons (xs ys : List Char) (c : Char) (places : List Nat) :
    cut (xs ++ c :: ys) (xs.length :: places.map ((xs.length + 1) + ·)) = xs :: cut ys places := by
  have hrest := cutFrom_append (xs ++ [c]) ys 0 places
  rw [List.append_assoc, List.singleton_append, List.length_append, List.length_singleton,
    Nat.add_zero] at hrest
  rw [cut, cutFrom, List.take_left, List.drop_zero, hrest, cut]

/-! ## Pieces -/

section Pieces

variable {separator : Char} {xs ys : List Char}

/-- A text without separators is one piece. -/
theorem pieces?_of_find?_eq_none (h : find? (separates separator) xs = none) :
    pieces? separator xs = some [trim xs] := by
  rw [pieces?, find?_eq_separates, h]

/-- The first piece ends at the first separator, and behind it the text is taken to pieces anew,
unless the place one byte behind its start is inside of it. -/
theorem pieces?_append_cons (hx : Sealed (separates separator) xs)
    (hsep : separates separator separator = true) : pieces? separator (xs ++ separator :: ys)
      = if separator.utf8Size = 1 then (pieces? separator ys).map (trim xs :: ·) else none := by
  have hfind := find?_append_cons (separators_separates separator) hx hsep ys
  have htake : (xs ++ separator :: ys).take xs.length = xs := List.take_left
  have hrest :=
    (Text.fromByte?_append xs (separator :: ys) 1).trans (Text.fromByte?_one separator ys)
  rw [pieces?, find?_eq_separates, hfind]
  dsimp only
  rw [htake]
  by_cases hsize : separator.utf8Size = 1
  · rw [if_pos hsize] at hrest ⊢
    split
    · next hnone => rw [hrest] at hnone; cases hnone
    · next rest hsome => rw [hrest, Option.some.injEq] at hsome; rw [hsome]
  · rw [if_neg hsize] at hrest ⊢
    split
    · rfl
    · next rest hsome => rw [hrest] at hsome; cases hsome

/-- A text is taken to pieces where one scan of it sees a separator of one byte. -/
theorem pieces?_eq_some (hsize : separator.utf8Size = 1) (cs : List Char) :
    pieces? separator cs = some ((cut cs (seen separator cs)).map trim) := by
  -- On the length: both sides take off the text up to the first separator, and what is behind it
  -- is shorter.
  induction hlength : cs.length using Nat.strong_induction_on generalizing cs with
  | _ n ih =>
    cases hfind : find? (separates separator) cs with
    | none =>
      have hpasses := (find?_eq_none_iff (separators_separates separator)).mp hfind
      rw [pieces?_of_find?_eq_none hfind, seen_eq_nil hpasses, cut, cutFrom, List.drop_zero]
      rfl
    | some found =>
      obtain ⟨k, c⟩ := found
      obtain ⟨hsealed, hc, -, ys, hcs⟩ := sealed_of_find? (separators_separates separator) hfind
      obtain rfl : c = separator := of_decide_eq_true (Bool.and_eq_true_iff.mp hc).2
      generalize cs.take k = xs at hsealed hcs
      have hshorter : ys.length < n := by
        rw [← hlength, hcs, List.length_append, List.length_cons]
        omega
      rw [hcs, pieces?_append_cons hsealed hc, if_pos hsize, seen_append_cons hsealed hc,
        cut_append_cons, List.map_cons, ih ys.length hshorter ys rfl, Option.map_some]

/-- A wider separator can be searched for, but no text is cut at it. -/
theorem pieces?_of_wide (hsize : separator.utf8Size ≠ 1) (cs : List Char) :
    pieces? separator cs = if seen separator cs = [] then some [trim cs] else none := by
  cases hfind : find? (separates separator) cs with
  | none =>
    have hpasses := (find?_eq_none_iff (separators_separates separator)).mp hfind
    rw [pieces?_of_find?_eq_none hfind, if_pos (seen_eq_nil hpasses)]
  | some found =>
    obtain ⟨k, c⟩ := found
    obtain ⟨hsealed, hc, -, ys, hcs⟩ := sealed_of_find? (separators_separates separator) hfind
    obtain rfl : c = separator := of_decide_eq_true (Bool.and_eq_true_iff.mp hc).2
    have hseen : seen c cs ≠ [] := by
      rw [hcs, seen_append_cons hsealed hc]
      exact List.cons_ne_nil _ _
    rw [if_neg hseen, hcs, pieces?_append_cons hsealed hc, if_neg hsize]

/-- A separator that is seen starts where a character starts, and one byte further is a boundary
exactly if it takes one byte. -/
theorem isValid_of_mem_seen {text : String} {p : Nat} (hp : p ∈ seen separator text.toList) :
    String.Pos.Raw.IsValid text ⟨byteLength (text.toList.take p)⟩
      ∧ (String.Pos.Raw.IsValid text ⟨byteLength (text.toList.take p) + 1⟩
        ↔ separator.utf8Size = 1) := by
  refine ⟨Text.isValid_byteLength_take text p, ?_⟩
  obtain ⟨hmem, hseen⟩ := List.mem_filter.mp hp
  have hlt := List.mem_range.mp hmem
  rw [List.getElem?_eq_getElem hlt, Option.any_some, Bool.and_eq_true] at hseen
  have hget : text.toList[p] = separator := of_decide_eq_true (Bool.and_eq_true_iff.mp hseen.1).2
  have htext : text.toList = text.toList.take p ++ separator :: text.toList.drop (p + 1) := by
    rw [← hget, ← List.drop_eq_getElem_cons hlt, List.take_append_drop]
  have hrest := (Text.fromByte?_append (text.toList.take p) _ 1).trans
    (Text.fromByte?_one separator (text.toList.drop (p + 1)))
  rw [← htext] at hrest
  rw [← Text.isSome_fromByte?_iff, hrest]
  by_cases hsize : separator.utf8Size = 1 <;> simp [hsize]

end Pieces

/-- **Starting the search anew behind every separator does no harm**, if the separator takes one
byte. The pieces of a text are then what is left of it, trimmed, when it is cut wherever one scan
of the whole text sees the separator while no quote and no bracket is open; there is one more of
them than there are such places, and every cut falls between characters. A separator of more bytes
is found at the same places, but one byte further is inside of it: a text in which the scan sees
it has no pieces. -/
theorem pieces?_eq_cut_seen (separator : Char) (text : String) :
    let cs := text.toList
    let places := seen separator cs
    (separator.utf8Size = 1 → ∃ pieces, pieces? separator cs = some pieces
        ∧ pieces = (cut cs places).map trim
        ∧ pieces.length = places.length + 1
        ∧ ∀ p ∈ places, String.Pos.Raw.IsValid text ⟨byteLength (cs.take p)⟩
            ∧ String.Pos.Raw.IsValid text ⟨byteLength (cs.take p) + 1⟩)
      ∧ (separator.utf8Size ≠ 1 →
        pieces? separator cs = (if places = [] then some [trim cs] else none)
        ∧ ∀ p ∈ places, String.Pos.Raw.IsValid text ⟨byteLength (cs.take p)⟩
            ∧ ¬ String.Pos.Raw.IsValid text ⟨byteLength (cs.take p) + 1⟩) := by
  intro cs places
  constructor
  · intro hsize
    refine ⟨_, pieces?_eq_some hsize cs, rfl, by rw [List.length_map, length_cut], fun p hp => ?_⟩
    obtain ⟨hstart, hnext⟩ := isValid_of_mem_seen hp
    exact ⟨hstart, hnext.mpr hsize⟩
  · intro hsize
    refine ⟨pieces?_of_wide hsize cs, fun p hp => ?_⟩
    obtain ⟨hstart, hnext⟩ := isValid_of_mem_seen hp
    exact ⟨hstart, fun hvalid => hsize (hnext.mp hvalid)⟩

/-- A letter of two bytes, a bracket that closes nothing, a pair of different brackets, a quoted
text, and a quote that is never closed. -/
theorem pieces?_eq_cut_seen_mixed :
    let text := "ä), (b, c], \"d, e\", it\x27s, f"
    ','.utf8Size = 1
      ∧ seen ',' text.toList = [2, 10, 18]
      ∧ pieces? ',' text.toList
          = some ["ä)".toList, "(b, c]".toList, "\"d, e\"".toList, "it\x27s, f".toList]
      ∧ String.Pos.Raw.IsValid text ⟨11⟩ ∧ String.Pos.Raw.IsValid text ⟨12⟩ := by
  intro text
  have hseen : seen ',' text.toList = [2, 10, 18] := by decide
  have hcut : (cut text.toList [2, 10, 18]).map trim
      = ["ä)".toList, "(b, c]".toList, "\"d, e\"".toList, "it\x27s, f".toList] := by decide
  have hbefore : byteLength (text.toList.take 10) = 11 := by decide
  obtain ⟨pieces, hpieces, hcuts, -, hbytes⟩ := (pieces?_eq_cut_seen ',' text).1 (by decide)
  obtain ⟨hstart, hstop⟩ := hbytes 10 (by rw [hseen]; decide)
  rw [hseen, hcut] at hcuts
  rw [hbefore] at hstart hstop
  exact ⟨by decide, hseen, hpieces.trans (congrArg some hcuts), hstart, hstop⟩

/-- A letter of two bytes as the separator: the scan sees it between two pieces, but the text is
not taken to pieces, since the byte at which the search would go on is inside the letter. -/
theorem pieces?_wide_separator :
    seen 'é' "aéb".toList = [1]
      ∧ (cut "aéb".toList [1]).map trim = ["a".toList, "b".toList]
      ∧ pieces? 'é' "aéb".toList = none
      ∧ pieces? 'é' "aéb".toList ≠ some ((cut "aéb".toList (seen 'é' "aéb".toList)).map trim)
      ∧ ¬ String.Pos.Raw.IsValid "aéb" ⟨byteLength ("aéb".toList.take 1) + 1⟩ := by
  have hseen : seen 'é' "aéb".toList = [1] := by decide
  have hnone : pieces? 'é' "aéb".toList = none := by
    rw [pieces?_of_wide (by decide), hseen]
    rfl
  have hwide := (isValid_of_mem_seen (by rw [hseen]; exact List.mem_singleton_self 1)).2.not.mpr
    (show 'é'.utf8Size ≠ 1 by decide)
  exact ⟨hseen, by decide, hnone, by rw [hnone]; exact (Option.some_ne_none _).symm, hwide⟩

end PageLang.Properties
