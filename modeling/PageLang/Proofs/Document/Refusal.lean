import PageLang.Proofs.Document.Misplaced
import PageLang.Proofs.Document.Position

/-!
# Why a source is refused

The error for a source that does not parse is about one line. Here it is said which line that is,
in terms of parents and blocks, where the error places it in the source, and which of the two
reasons is given.

> `Document.parse_error_first_offender`: the error names the first line that offends, its column
> and its bytes, and its reason is right.
-/

namespace PageLang

open Text (trim isBlank splitBy)

instance (block : List Line) (y : Line) : Decidable (Offends block y) :=
  decidable_of_iff
    ((∃ x ∈ parent? block y, x.declaresState = true)
      ∨ ∃ z ∈ block, z.number < y.number ∧ parent? block z = parent? block y
        ∧ z.indent ≠ y.indent) Iff.rfl

/-- The first line of a source that offends in its block. -/
structure FirstOffender (lines : List Line) (y : Line) : Prop where
  mem : y ∈ lines
  isNode : y.node?.isSome = true
  offends : Offends (nodesOf lines (owner? lines y)) y
  first : ∀ z ∈ lines, z.node?.isSome = true → Offends (nodesOf lines (owner? lines z)) z →
    y.number ≤ z.number

instance (lines : List Line) (y : Line) : Decidable (FirstOffender lines y) :=
  decidable_of_iff
    (y ∈ lines ∧ y.node?.isSome = true ∧ Offends (nodesOf lines (owner? lines y)) y
      ∧ ∀ z ∈ lines, z.node?.isSome = true → Offends (nodesOf lines (owner? lines z)) z →
        y.number ≤ z.number)
    ⟨fun ⟨hmem, hnode, hoffends, hfirst⟩ => ⟨hmem, hnode, hoffends, hfirst⟩,
      fun h => ⟨h.mem, h.isNode, h.offends, h.first⟩⟩

/-- Every line belongs to a block. -/
theorem owner?_mem_blocks (lines : List Line) (y : Line) : owner? lines y ∈ blocks lines := by
  unfold blocks
  cases hc : owner? lines y with
  | none => exact List.mem_cons_self ..
  | some c =>
    obtain ⟨hmem, hheader, -⟩ := mem_of_owner?_eq hc
    exact List.mem_cons_of_mem _ (List.mem_map_of_mem (List.mem_filter.mpr ⟨hmem, hheader⟩))

/-- What is found in all blocks is the first line that offends, and the first of its own block. -/
theorem Entry.of_misplacedIn?_eq_some {lines : List Line} (hn : Numbered lines) {m : Misplaced}
    (h : misplacedIn? (ofLines lines) = some m) :
    FirstOffender lines m.line ∧ m.First (nodesOf lines (owner? lines m.line)) := by
  obtain ⟨⟨b, -, hb⟩, hle⟩ := (earliest_misplacedIn? lines hn).some m h
  have hfirst := first_of_blockMisplaced? hn hb
  obtain ⟨hmem, howner, hnode⟩ := mem_nodesOf.mp hfirst.mem
  rw [← howner] at hfirst
  refine ⟨⟨hmem, hnode, hfirst.offends, fun z hz hznode hoffends => ?_⟩, hfirst⟩
  have hzmem : z ∈ nodesOf lines (owner? lines z) := mem_nodesOf.mpr ⟨hz, rfl, hznode⟩
  -- The block of a line that offends has a first one, which is not after it.
  cases hblock : blockMisplaced? lines (owner? lines z) with
  | none =>
    have haligned := (blockMisplaced?_eq_none_iff hn).mp hblock
    exact absurd hoffends (haligned.not_offends hzmem)
  | some m' =>
    have hfirst' :=
      (first_of_blockMisplaced? hn hblock).le_of_offends (numbered_nodesOf hn _) hzmem hoffends
    exact (hle m' ⟨_, owner?_mem_blocks lines z, hblock⟩).trans hfirst'

/-- A source with a line that is the first to offend is refused for it. -/
theorem Document.parse_of_firstOffender {source : String} {y : Line}
    (h : FirstOffender (Line.ofSource source) y) :
    ∃ cause, Document.parse source = .error (Misplaced.error ⟨y, cause⟩) := by
  have hn := Line.numbered_ofSource source
  have hmem : y ∈ nodesOf (Line.ofSource source) (owner? (Line.ofSource source) y) :=
    mem_nodesOf.mpr ⟨h.mem, rfl, h.isNode⟩
  cases hm : Entry.misplacedIn? (Entry.ofLines (Line.ofSource source)) with
  | none =>
    have haligned := (Entry.misplacedIn?_ofLines_eq_none_iff _ hn).mp hm _ (owner?_mem_blocks _ y)
    exact absurd h.offends (haligned.not_offends hmem)
  | some m =>
    obtain ⟨hoffender, -⟩ := Entry.of_misplacedIn?_eq_some hn hm
    have hle := hoffender.first y h.mem h.isNode h.offends
    have hge := h.first m.line hoffender.mem hoffender.isNode hoffender.offends
    obtain rfl := hn.number_inj hoffender.mem h.mem (Nat.le_antisymm hle hge)
    exact ⟨m.cause, Document.parse_eq_error_iff.mpr ⟨m, hm, rfl⟩⟩

/-- The two reasons are worded differently. -/
theorem Misplacement.text_unaligned_ne (indent k : Nat) :
    (Misplacement.unaligned indent k).text ≠ "state declarations cannot have children" := by
  intro h
  have hhead := congrArg (fun s : String => s.toList.head?) h
  unfold Misplacement.text at hhead
  simp at hhead

/-- **The error for a refused source points at the right line with the right reason.** The line is
the first one that hangs below a state line of its block or that is not aligned with an earlier
line with the same parent. The column is one more than the number of blanks that it starts with,
the span holds the bytes of its trimmed text, and this text is the context. Earlier lines make it
expected at an indentation `k`. The error says that state declarations cannot have children
exactly if the line is deeper, which is the case exactly if it hangs below a state line; otherwise
it is shallower, and the error names both indentations. -/
theorem Document.parse_error_first_offender (source : String) (err : ParseError)
    (h : Document.parse source = .error err) :
    let lines := Line.ofSource source
    ∃ y raw start stop cause k,
      let block := nodesOf lines (owner? lines y)
      FirstOffender lines y
      ∧ (splitBy (· = '\n') source.toList)[y.number - 1]? = some raw
      ∧ err = .misplaced y.number (1 + (raw.takeWhile isBlank).length) start stop cause
        (String.ofList (trim raw))
      ∧ stop ≤ source.utf8ByteSize
      ∧ source.toByteArray.extract start stop = (String.ofList (trim raw)).toByteArray
      ∧ Expects block y k
      ∧ (err.label = "state declarations cannot have children" ↔ k < y.indent)
      ∧ (k < y.indent ↔ ∃ x, parent? block y = some x ∧ x.declaresState = true)
      ∧ (err.label = "indentation of " ++ toString y.indent
        ++ " does not match sibling indentation of " ++ toString k
        ↔ y.indent < k)
      ∧ y.indent ≠ k := by
  intro lines
  obtain ⟨m, hm, rfl⟩ := Document.parse_eq_error_iff.mp h
  have hn := Line.numbered_ofSource source
  obtain ⟨hoffender, hfirst⟩ := Entry.of_misplacedIn?_eq_some hn hm
  obtain ⟨k, hexpects, hside⟩ := hfirst.exists_expects (numbered_nodesOf hn _)
  obtain ⟨raw, hraw, hindent, htext⟩ := Line.exists_raw_of_mem_ofSource hoffender.mem
  obtain ⟨hrange, hbytes⟩ := Line.extract_toByteArray hoffender.mem
  have herror :
      m.error = .misplaced m.line.number (1 + (raw.takeWhile isBlank).length) m.line.offset
      (m.line.offset + Text.byteLength m.line.text) m.cause (String.ofList (trim raw)) := by
    rw [Misplaced.error, hindent, htext, Nat.add_comm]
  have hlabel : m.error.label = m.cause.text := rfl
  refine ⟨m.line, raw, _, _, _, k, hoffender, hraw, herror, hrange, htext ▸ hbytes, hexpects, ?_⟩
  rw [hlabel]
  rcases hside with ⟨hcause, hdeeper, hstate⟩ | ⟨hcause, hshallower, hplain⟩
  · rw [hcause]
    refine ⟨iff_of_true rfl hdeeper, iff_of_true hdeeper hstate,
      iff_of_false (fun htext => ?_) (by omega), by omega⟩
    exact Misplacement.text_unaligned_ne _ _ htext.symm
  · rw [hcause]
    refine ⟨iff_of_false (Misplacement.text_unaligned_ne _ _) (by omega),
      iff_of_false (by omega) ?_, iff_of_true rfl hshallower, by omega⟩
    rintro ⟨x, hx, hstate⟩
    rw [hplain x hx] at hstate
    cases hstate

theorem Document.exists_parse_eq_error (source : String)
    (h : ¬ ∀ b ∈ blocks (Line.ofSource source), Aligned (nodesOf (Line.ofSource source) b)) :
    ∃ err, Document.parse source = .error err := by
  cases hparse : Document.parse source with
  | error err => exact ⟨err, rfl⟩
  | ok d =>
    have hnone := (Document.exists_parse_eq_ok_iff source).mp ⟨d, hparse⟩
    exact absurd
      ((Entry.misplacedIn?_ofLines_eq_none_iff _ (Line.numbered_ofSource source)).mp hnone) h

/-- Wide blanks, a tab, carriage returns, a skipped line and letters of several bytes before and
in the line that is refused. -/
def wideSource : String := "box\r\n\u3000state x: 1\r\n# ä\r\n\u00a0\ttext: ä \r\n  text\n"

theorem Document.parse_error_first_offender_wide :
    ∃ err start stop cause, Document.parse wideSource = .error err
      ∧ err = .misplaced 4 3 start stop cause "text: ä"
      ∧ wideSource.toByteArray.extract start stop = "text: ä".toByteArray
      ∧ err.label = "state declarations cannot have children" := by
  obtain ⟨err, herr⟩ := Document.exists_parse_eq_error wideSource (by decide +kernel)
  have hoffender : ∀ y ∈ Line.ofSource wideSource, FirstOffender (Line.ofSource wideSource) y →
      y.number = 4
        ∧ ∃ x ∈ parent?
          (nodesOf (Line.ofSource wideSource) (owner? (Line.ofSource wideSource) y)) y,
        x.declaresState = true := by decide +kernel
  have hpiece : (splitBy (· = '\n') wideSource.toList)[3]? = some "\u00a0\ttext: ä \r".toList := by
    decide +kernel
  have hlead : ("\u00a0\ttext: ä \r".toList.takeWhile isBlank).length = 2 := by decide +kernel
  have htext : String.ofList (trim "\u00a0\ttext: ä \r".toList) = "text: ä" := by decide +kernel
  obtain ⟨y, raw, start, stop, cause, k, hfirst, hraw, heq, -, hbytes, -, hlabel, hdeeper, -⟩ :=
    Document.parse_error_first_offender wideSource err herr
  obtain ⟨hnumber, hstate⟩ := hoffender y hfirst.mem hfirst
  rw [hnumber, hpiece] at hraw
  rw [← Option.some.inj hraw, hnumber, hlead, htext] at heq
  rw [← Option.some.inj hraw, htext] at hbytes
  exact ⟨err, start, stop, cause, herr, heq, hbytes, hlabel.mpr (hdeeper.mpr hstate)⟩

end PageLang
