import Mathlib.Data.List.Basic
import PageLang.Document.Line
import PageLang.Proofs.Text.Trim

/-!
# The lines of a source text

`Line.ofSource` is `scan_lines`. It goes through the pieces between line feeds and carries the
number and the first byte of each along. Here its result is told piece by piece:

> `Line.map_ofSource`: the lines are the pieces that are neither blank nor comments, each with its
> number, its leading blanks and its trimmed text.

> `Line.numbered_ofSource`: they stand in the order of their numbers.

A carriage return at the end of a piece is a blank like others, so nothing strips it first.
-/

namespace PageLang

/-- The lines stand in the order of their numbers, and no number occurs twice. -/
def Numbered (lines : List Line) : Prop := lines.Pairwise fun x y => x.number < y.number

/-- A number stands for at most one line. -/
theorem Numbered.number_inj {lines : List Line} (h : Numbered lines) {x y : Line} (hx : x ∈ lines)
    (hy : y ∈ lines) (hxy : x.number = y.number) : x = y := by
  induction lines with
  | nil => exact absurd hx List.not_mem_nil
  | cons l rest ih =>
    rcases List.mem_cons.mp hx with rfl | hxr <;> rcases List.mem_cons.mp hy with rfl | hyr
    · rfl
    · exact absurd hxy (Nat.ne_of_lt (List.rel_of_pairwise_cons h hyr))
    · exact absurd hxy.symm (Nat.ne_of_lt (List.rel_of_pairwise_cons h hxr))
    · exact ih h.of_cons hxr hyr

namespace Line

open Text (trim trimStart isBlank splitBy byteLength)

/-- Whether a piece of a source says nothing: it is blank, or `#` comes after its blanks. -/
def isSilent (raw : List Char) : Bool := raw.all isBlank || (trimStart raw).head? = some '#'

/-- Every piece gives a line unless it is silent. -/
theorem ofRaw?_eq (number start : Nat) (raw : List Char) :
    ofRaw? number start raw =
      if isSilent raw then none
      else some ⟨number, (raw.takeWhile isBlank).length,
        start + byteLength (raw.takeWhile isBlank), trim raw⟩ := by
  unfold ofRaw? isSilent
  cases hstart : trimStart raw with
  | nil =>
    have hblank : raw.all isBlank = true := by
      rw [List.all_eq_true]
      exact List.dropWhile_eq_nil_iff.mp hstart
    have htrim : trim raw = [] := congrArg Text.trimEnd hstart
    simp [hblank, htrim]
  | cons c rest =>
    have hc : isBlank c = false := Text.isBlank_head?_trimStart raw c (by rw [hstart]; rfl)
    have hblank : raw.all isBlank = false := by
      rw [← Bool.not_eq_true, List.all_eq_true]
      intro hall
      rw [trimStart, List.dropWhile_eq_nil_iff.mpr hall] at hstart
      cases hstart
    have htrim : trim raw = c :: Text.trimEnd rest :=
      (congrArg Text.trimEnd hstart).trans (Text.trimEnd_append_cons hc [] rest)
    by_cases hcomment : c = '#'
    · simp [htrim, hcomment]
    · simp [htrim, hcomment, hblank]

theorem ofRaw?_eq_some {number start : Nat} {raw : List Char} {l : Line}
    (h : ofRaw? number start raw = some l) :
    l = ⟨number, (raw.takeWhile isBlank).length, start + byteLength (raw.takeWhile isBlank),
      trim raw⟩ := by
  rw [ofRaw?_eq] at h
  split at h
  · cases h
  · exact (Option.some.inj h).symm

/-- Numbers go on from the one of the first piece. -/
theorem le_number_of_mem_ofPieces {pieces : List (List Char)} :
    ∀ {number start : Nat} {l : Line}, l ∈ ofPieces number start pieces → number ≤ l.number := by
  induction pieces with
  | nil =>
    intro number start l hl
    exact absurd hl List.not_mem_nil
  | cons raw pieces ih =>
    intro number start l hl
    rw [ofPieces] at hl
    split at hl
    · next first hfirst =>
      rcases List.mem_cons.mp hl with rfl | hrest
      · rw [ofRaw?_eq_some hfirst]
      · exact Nat.le_of_succ_le (ih hrest)
    · exact Nat.le_of_succ_le (ih hl)

theorem numbered_ofPieces (pieces : List (List Char)) :
    ∀ number start : Nat, Numbered (ofPieces number start pieces) := by
  induction pieces with
  | nil =>
    intro number start
    exact List.Pairwise.nil
  | cons raw pieces ih =>
    intro number start
    rw [ofPieces]
    split
    · next first hfirst =>
      refine List.Pairwise.cons (fun l hl => ?_) (ih _ _)
      rw [ofRaw?_eq_some hfirst]
      exact le_number_of_mem_ofPieces hl
    · exact ih _ _

/-- **The lines of a source text stand in the order of their numbers.** -/
theorem numbered_ofSource (source : String) : Numbered (ofSource source) :=
  numbered_ofPieces _ 1 0

/-- The number, the indentation and the text of the line that a piece gives, if it gives one. -/
def reading? (raw : List Char) (number : Nat) : Option (Nat × Nat × List Char) :=
  if isSilent raw then none else some (number, (raw.takeWhile isBlank).length, trim raw)

theorem map_ofPieces (pieces : List (List Char)) : ∀ number start : Nat,
    (ofPieces number start pieces).map (fun l => (l.number, l.indent, l.text))
      = (pieces.zipIdx number).filterMap fun piece => reading? piece.1 piece.2 := by
  induction pieces with
  | nil =>
    intro number start
    rfl
  | cons raw pieces ih =>
    intro number start
    rw [ofPieces, ofRaw?_eq, List.zipIdx_cons, List.filterMap_cons, reading?]
    cases isSilent raw with
    | true => exact ih _ _
    | false => exact congrArg (_ :: ·) (ih _ _)

/-- **The lines of a source text are the pieces between line feeds that are neither blank nor
comments**, each with its number, its leading blanks and its trimmed text. -/
theorem map_ofSource (source : String) :
    (ofSource source).map (fun l => (l.number, l.indent, l.text))
      = ((splitBy (· = '\n') source.toList).zipIdx 1).filterMap fun piece =>
        reading? piece.1 piece.2 :=
  map_ofPieces _ 1 0

end Line

end PageLang
