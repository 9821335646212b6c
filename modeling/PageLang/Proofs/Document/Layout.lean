import Mathlib.Algebra.Order.Ring.Nat
import PageLang.Proofs.Document.Moving
import PageLang.Proofs.Document.Parsing
import PageLang.Proofs.Text.Split
import PageLang.Proofs.Text.Trim

/-!
# Sources laid out differently

A source can be laid out in other ways without saying anything else: blank lines and comments may
be put in between any two lines, indented as one likes, and all lines may be moved to the right
together. The lines that say something are then the same, at other places (`Line.ofSource_padded`,
`Line.ofSource_indented`), and what a source gives depends on its lines alone:

> `Document.parse_layout`: a source laid out differently gives the same document under the new
> line numbers, or is refused for the same line, at its new place.
-/

namespace PageLang

open Text (trim trimStart trimEnd isBlank splitBy byteLength byteLength_cons byteLength_append)

theorem Text.byteLength_replicate_blank (k : Nat) : byteLength (List.replicate k ' ') = k := by
  induction k with
  | zero => rfl
  | succ k ih =>
    rw [List.replicate_succ, byteLength_cons, ih]
    exact Nat.add_comm 1 k

/-! ## Lines at other places -/

section Shift

variable (f : Nat → Nat) (k : Nat) (bytes : Nat → Nat)

/-- The line under another number, `k` blanks to the right, and later in the source by as many
bytes as belong to its number. -/
def Line.shift (l : Line) : Line := ⟨f l.number, l.indent + k, l.offset + bytes l.number, l.text⟩

/-- The error for a line at another place. -/
def ParseError.shift : ParseError → ParseError
  | .misplaced line column start stop cause context =>
    .misplaced (f line) (column + k) (start + bytes line) (stop + bytes line) (cause.move k) context
  | e => e

theorem Line.moves_shift : Line.Moves f k (Line.shift f k bytes) :=
  ⟨fun _ => rfl, fun _ => rfl, fun _ => rfl⟩

/-- A line that is moved is reported where it is now. -/
theorem Misplaced.error_move (m : Misplaced) :
    (m.move k (Line.shift f k bytes)).error = m.error.shift f k bytes := by
  unfold Misplaced.error Misplaced.move Line.shift ParseError.shift
  dsimp only
  rw [Nat.add_right_comm m.line.indent, Nat.add_right_comm m.line.offset]

variable {f k bytes}

/-- **What a source gives depends on its lines alone.** Lines at other places, in the same order,
give the same document under the new numbers, or the same error at the new place. -/
theorem Document.parse_of_shift {source moved : String} (hf : StrictMono f) (hzero : f 0 = 0)
    (h : Line.ofSource moved = (Line.ofSource source).map (Line.shift f k bytes)) :
    Document.parse moved
      = ((Document.parse source).map (Document.renumber f)).mapError
        (ParseError.shift f k bytes) := by
  have hmoves := Line.moves_shift f k bytes
  have hmoved := Entry.moved_ofLines hmoves (Line.ofSource source)
  rw [← h] at hmoved
  rw [Document.parse_eq, Document.parse_eq, Entry.document, Entry.document]
  rw [hmoved.misplacedIn?_eq hmoves hf, hmoved.report_eq hmoves, hmoved.nodes_eq hmoves,
    hmoved.components_eq hmoves]
  cases Entry.misplacedIn? (Entry.ofLines (Line.ofSource source)) with
  | some m => exact congrArg Except.error (m.error_move f k bytes)
  | none =>
    refine congrArg Except.ok ?_
    rw [Document.renumber, Node.renumber_eq]
    simp only [Node.page, hzero]

end Shift

/-! ## Lines that say nothing -/

/-- A line that says nothing: it is blank, or a comment after any blanks. -/
structure SilentLine where
  raw : List Char
  oneLine : '\n' ∉ raw
  silent : (∀ c ∈ raw, isBlank c = true)
    ∨ ∃ indent comment, raw = indent ++ '#' :: comment ∧ ∀ c ∈ indent, isBlank c = true

/-- A silent line gives no line. -/
theorem SilentLine.ofRaw?_eq_none (l : SilentLine) (number start : Nat) :
    Line.ofRaw? number start l.raw = none := by
  unfold Line.ofRaw?
  dsimp only
  rcases l.silent with hblank | ⟨indent, comment, hraw, hindent⟩
  · have hstart : trimStart l.raw = [] := List.dropWhile_eq_nil_iff.mpr hblank
    have htrim : trim l.raw = [] := congrArg trimEnd hstart
    rw [htrim]
  · have hstart : trimStart l.raw = '#' :: comment := by
      rw [hraw, trimStart, List.dropWhile_append_of_pos hindent]
      exact List.dropWhile_cons_of_neg (by decide)
    have htrim : trim l.raw = '#' :: trimEnd comment :=
      (congrArg trimEnd hstart).trans (Text.trimEnd_append_cons (by decide) [] comment)
    rw [htrim]
    rfl

/-- Lines that say nothing only put off those after them. -/
theorem Line.ofPieces_silent (silent : List SilentLine) (rest : List (List Char))
    (number start : Nat) : ofPieces number start (silent.map SilentLine.raw ++ rest)
      = ofPieces (number + silent.length) (start + (silent.map fun l => byteLength l.raw + 1).sum)
        rest := by
  induction silent generalizing number start with
  | nil => rfl
  | cons l silent ih =>
    have hnumber : number + 1 + silent.length = number + (l :: silent).length := by
      rw [List.length_cons]
      omega
    have hstart : start + byteLength l.raw + 1 + (silent.map fun l => byteLength l.raw + 1).sum
        = start + ((l :: silent).map fun l => byteLength l.raw + 1).sum := by
      rw [List.map_cons, List.sum_cons]
      omega
    rw [List.map_cons, List.cons_append, ofPieces, l.ofRaw?_eq_none, ← hnumber, ← hstart]
    exact ih (number + 1) (start + byteLength l.raw + 1)

/-! ## Lines put in between -/

namespace Source

/-- The pieces of a text between line feeds. -/
def pieces (source : String) : List (List Char) := splitBy (· = '\n') source.toList

/-- The text that has these pieces. -/
def ofPieces (pieces : List (List Char)) : String := String.ofList (['\n'].intercalate pieces)

variable (extra : Nat → List SilentLine)

/-- The pieces that follow the first `i` ones, with further lines put in between: those of
`extra i` stand behind the first `i` pieces, whatever else follows. -/
def insertFrom (i : Nat) : List (List Char) → List (List Char)
  | [] => (extra i).map SilentLine.raw
  | raw :: rest => (extra i).map SilentLine.raw ++ raw :: insertFrom (i + 1) rest

/-- The source with the lines of `extra i` put in behind line `i`. Lines are counted from one, so
that those of `extra 0` come first. -/
def padded (source : String) : String := ofPieces (insertFrom extra 0 (pieces source))

/-- The number that line `n` has after lines were put in. -/
def newNumber : Nat → Nat
  | 0 => 0
  | n + 1 => newNumber n + (extra n).length + 1

/-- How many bytes were put in before line `n`. -/
def newBytes : Nat → Nat
  | 0 => 0
  | n + 1 => newBytes n + ((extra n).map fun l => byteLength l.raw + 1).sum

/-- The source with `k` blanks before every line. -/
def indented (k : Nat) (source : String) : String :=
  ofPieces ((pieces source).map (List.replicate k ' ' ++ ·))

/-- Inserting lines keeps the order of the others. -/
theorem strictMono_newNumber : StrictMono (newNumber extra) :=
  strictMono_nat_of_lt_succ fun n => by rw [newNumber]; omega

/-- A source has the pieces it is put together from. -/
theorem pieces_ofPieces {ps : List (List Char)} (hne : ps ≠ []) (h : ∀ p ∈ ps, '\n' ∉ p) :
    pieces (ofPieces ps) = ps := by
  rw [pieces, ofPieces, String.toList_ofList]
  refine Text.splitBy_intercalate (by decide) hne fun p hp c hc => decide_eq_false ?_
  rintro rfl
  exact h p hp hc

theorem not_mem_of_mem_pieces {source : String} {p : List Char} (h : p ∈ pieces source) :
    '\n' ∉ p := by
  intro hmem
  have hnot := Text.forall_of_mem_splitBy h '\n' hmem
  simp at hnot

theorem insertFrom_ne_nil {ps : List (List Char)} (h : ps ≠ []) (i : Nat) :
    insertFrom extra i ps ≠ [] := by
  cases ps with
  | nil => exact absurd rfl h
  | cons p ps => simp [insertFrom]

theorem not_mem_of_mem_insertFrom {ps : List (List Char)} (h : ∀ p ∈ ps, '\n' ∉ p) (i : Nat) :
    ∀ p ∈ insertFrom extra i ps, '\n' ∉ p := by
  have hextra (i : Nat) : ∀ p ∈ (extra i).map SilentLine.raw, '\n' ∉ p := by
    intro p hp
    obtain ⟨l, -, rfl⟩ := List.mem_map.mp hp
    exact l.oneLine
  induction ps generalizing i with
  | nil => exact hextra i
  | cons q ps ih =>
    obtain ⟨hq, hps⟩ := List.forall_mem_cons.mp h
    rw [insertFrom, List.forall_mem_append, List.forall_mem_cons]
    exact ⟨hextra i, hq, ih hps (i + 1)⟩

end Source

namespace Line

variable (extra : Nat → List SilentLine)

/-- A piece after `k` more blanks, at another place, gives the same line there. -/
theorem ofRaw?_shift {f bytes : Nat → Nat} {k before number : Nat} (h : before + k = bytes number)
    (start : Nat) (raw : List Char) :
    ofRaw? (f number) (start + before) (List.replicate k ' ' ++ raw)
      = (ofRaw? number start raw).map (shift f k bytes) := by
  have hblank : ∀ c ∈ List.replicate k ' ', isBlank c = true := by
    intro c hc
    rw [List.eq_of_mem_replicate hc]
    decide
  have hleading : (List.replicate k ' ' ++ raw).takeWhile isBlank = List.replicate k ' '
      ++ raw.takeWhile isBlank :=
    List.takeWhile_append_of_pos hblank
  have htrim : trim (List.replicate k ' ' ++ raw) = trim raw :=
    congrArg trimEnd (List.dropWhile_append_of_pos hblank)
  have hindent : (List.replicate k ' ' ++ raw.takeWhile isBlank).length
      = (raw.takeWhile isBlank).length + k := by
    rw [List.length_append, List.length_replicate, Nat.add_comm]
  have hoffset : start + before + byteLength (List.replicate k ' ' ++ raw.takeWhile isBlank)
      = start + byteLength (raw.takeWhile isBlank) + bytes number := by
    rw [byteLength_append, Text.byteLength_replicate_blank]
    omega
  unfold ofRaw?
  dsimp only
  rw [hleading, htrim, hindent, hoffset]
  split <;> rfl

/-- The lines after line `i` are those that they were, under their new numbers. -/
theorem ofPieces_insertFrom (ps : List (List Char)) (i start : Nat) :
    ofPieces (Source.newNumber extra i + 1) (start + Source.newBytes extra i)
      (Source.insertFrom extra i ps)
      = (ofPieces (i + 1) start ps).map
        (shift (Source.newNumber extra) 0 (Source.newBytes extra)) := by
  induction ps generalizing i start with
  | nil =>
    have hsilent :=
      ofPieces_silent (extra i) [] (Source.newNumber extra i + 1) (start + Source.newBytes extra i)
    rw [List.append_nil] at hsilent
    rw [Source.insertFrom, hsilent]
    rfl
  | cons raw ps ih =>
    have hnumber : Source.newNumber extra i + 1 + (extra i).length = Source.newNumber extra
        (i + 1) := by
      rw [Source.newNumber]
      omega
    have hbytes :
        start + Source.newBytes extra i + ((extra i).map fun l => byteLength l.raw + 1).sum
        = start + Source.newBytes extra (i + 1) := by rw [Source.newBytes, Nat.add_assoc]
    have hstart : start + Source.newBytes extra (i + 1) + byteLength raw + 1
        = start + byteLength raw + 1 + Source.newBytes extra (i + 1) := by omega
    have hline : ofRaw? (Source.newNumber extra (i + 1)) (start + Source.newBytes extra (i + 1)) raw
        = (ofRaw? (i + 1) start raw).map
            (shift (Source.newNumber extra) 0 (Source.newBytes extra)) :=
      ofRaw?_shift (Nat.add_zero _) start raw
    rw [Source.insertFrom, ofPieces_silent, hnumber, hbytes, ofPieces, ofPieces, hstart, ih, hline]
    cases ofRaw? (i + 1) start raw <;> rfl

/-- **Lines that say nothing do not change the lines of a source but for their places.** -/
theorem ofSource_padded (source : String) : ofSource (Source.padded extra source)
    = (ofSource source).map (shift (Source.newNumber extra) 0 (Source.newBytes extra)) := by
  have hpieces : Source.pieces (Source.padded extra source) = Source.insertFrom extra 0
      (Source.pieces source) :=
    Source.pieces_ofPieces (Source.insertFrom_ne_nil extra (Text.splitBy_ne_nil _ _) 0)
      (Source.not_mem_of_mem_insertFrom extra (fun _ => Source.not_mem_of_mem_pieces) 0)
  show ofPieces 1 0 (Source.pieces (Source.padded extra source)) = _
  rw [hpieces]
  exact ofPieces_insertFrom extra (Source.pieces source) 0 0

/-- Indenting every piece shifts every line. -/
theorem ofPieces_indented (k : Nat) (ps : List (List Char)) (n start : Nat) :
    ofPieces (n + 1) (start + k * n) (ps.map (List.replicate k ' ' ++ ·))
      = (ofPieces (n + 1) start ps).map (shift id k (k * ·)) := by
  induction ps generalizing n start with
  | nil => rfl
  | cons raw ps ih =>
    have hstart : start + k * n + byteLength (List.replicate k ' ' ++ raw) + 1
        = start + byteLength raw + 1 + k * (n + 1) := by
      rw [byteLength_append, Text.byteLength_replicate_blank, Nat.mul_succ]
      omega
    have hline : ofRaw? (n + 1) (start + k * n) (List.replicate k ' ' ++ raw)
        = (ofRaw? (n + 1) start raw).map (shift id k (k * ·)) :=
      ofRaw?_shift (f := id) (Nat.mul_succ k n).symm start raw
    rw [List.map_cons, ofPieces, ofPieces, hstart, ih, hline]
    cases ofRaw? (n + 1) start raw <;> rfl

/-- **Blanks before all lines move them to the right together.** -/
theorem ofSource_indented (k : Nat) (source : String) :
    ofSource (Source.indented k source) = (ofSource source).map (shift id k (k * ·)) := by
  have hpieces : Source.pieces (Source.indented k source)
      = (Source.pieces source).map (List.replicate k ' ' ++ ·) := by
    refine Source.pieces_ofPieces (mt List.map_eq_nil_iff.mp (Text.splitBy_ne_nil _ _)) fun p hp =>
      ?_
    obtain ⟨raw, hraw, rfl⟩ := List.mem_map.mp hp
    rw [List.mem_append, not_or]
    exact ⟨fun hmem => absurd (List.eq_of_mem_replicate hmem) (by decide),
      Source.not_mem_of_mem_pieces hraw⟩
  show ofPieces 1 0 (Source.pieces (Source.indented k source)) = _
  rw [hpieces]
  exact ofPieces_indented k (Source.pieces source) 0 0

end Line

/-- **The layout of a source does not matter.** (a) Blank lines and comments put in at any places
and at any indentation, and (b) any number of blanks put before all lines, keep whether a source
is accepted. An accepted source gives the same document, in (a) under the new line numbers. A
refused one is refused for the same reason and the same line, which (a) has its new number and (b)
stands further to the right. -/
theorem Document.parse_layout (source : String) :
    (∀ extra : Nat → List SilentLine,
      Document.parse (Source.padded extra source)
        = ((Document.parse source).map (Document.renumber (Source.newNumber extra))).mapError
          (ParseError.shift (Source.newNumber extra) 0 (Source.newBytes extra)))
      ∧ ∀ k, Document.parse (Source.indented k source)
        = (Document.parse source).mapError (ParseError.shift id k (k * ·)) := by
  constructor
  · exact fun extra =>
      Document.parse_of_shift (Source.strictMono_newNumber extra)
        rfl (Line.ofSource_padded extra source)
  · intro k
    have hid : (Document.parse source).map (Document.renumber id) = Document.parse source := by
      cases Document.parse source with
      | error e => rfl
      | ok d => exact congrArg Except.ok d.renumber_id
    rw [Document.parse_of_shift strictMono_id rfl (Line.ofSource_indented k source), hid]

end PageLang
