import PageLang.Proofs.Document.Refusal
import PageLang.Report

/-!
# What a report underlines

The report of a refused source underlines the part of it that a span selects. The error counts the
bytes before the line that is refused, and the report takes them for characters. So the line is
underlined where it stands only if nothing up to its end takes more than one byte; otherwise the
marks lie further right by one place for every byte too many before the line, and they are longer
by one for every byte too many in it.

> `Document.report_span_eq_iff`: the span of the report is the place of the line exactly if all up
> to its end is ASCII.
-/

namespace PageLang

open Text (byteLength byteLength_append)

namespace Report

/-- The characters of a source between two places, both counted in characters. -/
def selected (source : String) (span : Nat × Nat) : List Char :=
  (source.toList.drop span.1).take (span.2 - span.1)

section Selected

variable {source : String} {before text after : List Char}
  (h : source.toList = before ++ (text ++ after))

include h

/-- What a span selects that starts some characters behind a part of the source. -/
theorem selected_append (k n : Nat) :
    selected source (before.length + k, before.length + k + n)
      = ((text ++ after).drop k).take n := by
  rw [selected, h, List.drop_length_add_append, Nat.add_sub_cancel_left]

/-- Bytes taken for characters select too much, and too far to the right. -/
theorem selected_bytes :
    selected source (byteLength before, byteLength before + byteLength text)
      = ((text ++ after).drop (byteLength before - before.length)).take (byteLength text) := by
  have hle := Text.length_le_byteLength before
  have hselected := selected_append h (byteLength before - before.length) (byteLength text)
  rwa [Nat.add_sub_cancel' hle] at hselected

/-- A part that is not followed by itself is selected by its bytes exactly if these are as many as
its characters, and those before it too. -/
theorem selected_bytes_eq_iff (hafter : after ≠ [])
    (honce : ∀ k, text <+: (text ++ after).drop k → k = 0) :
    selected source (byteLength before, byteLength before + byteLength text) = text
      ↔ ∀ c ∈ before ++ text, c.toNat < 0x80 := by
  rw [selected_bytes h, ← Text.byteLength_eq_length_iff, byteLength_append, List.length_append]
  have hbefore := Text.length_le_byteLength before
  have htext := Text.length_le_byteLength text
  constructor
  · intro hsame
    have hstart : byteLength before - before.length = 0 := by
      have hpre :=
        List.take_prefix (byteLength text)
          ((text ++ after).drop (byteLength before - before.length))
      rw [hsame] at hpre
      exact honce _ hpre
    have hlength := congrArg List.length hsame
    have hpos := List.length_pos_iff.mpr hafter
    rw [hstart, List.drop_zero, List.length_take, List.length_append] at hlength
    omega
  · intro hascii
    have hstart : byteLength before - before.length = 0 := by omega
    have hlength : byteLength text = text.length := by omega
    rw [hstart, hlength, List.drop_zero, List.take_left]

end Selected

/-- A span that lies in the source is not cut. -/
theorem span_eq {err : ParseError} {source : String} {start n : Nat}
    (h : err.span = (start, start + n)) (hstop : start + n ≤ source.utf8ByteSize) :
    span err source = (start, start + n) := by
  rw [span, h, Nat.min_eq_left hstop, Nat.min_eq_left (Nat.le_add_right start n)]

end Report

open Report (selected)

/-- **The report of a refused source underlines the line that is refused exactly if all up to its
end is ASCII.** The line stands in the source behind `before`, where the error says. The span that
the report is given starts after as many characters as `before` has bytes, and it is as long as
the line has bytes. It is the place of the line exactly if no character of `before` and of the
line takes more than one byte; then the context is selected. Otherwise, unless the same text comes
once more, something else is. -/
theorem Document.report_span_eq_iff (source : String) (err : ParseError)
    (h : Document.parse source = .error err) :
    ∃ line column start stop cause context before after,
      err = .misplaced line column start stop cause context
      ∧ source.toList = before ++ (context.toList ++ after)
      ∧ before.count '\n' + 1 = line
      ∧ (before.reverse.takeWhile (· ≠ '\n')).length + 1 = column
      ∧ Report.span err source = (byteLength before, byteLength before + byteLength context.toList)
      ∧ (Report.span err source = (before.length, before.length + context.toList.length)
        ↔ ∀ c ∈ before ++ context.toList, c.toNat < 0x80)
      ∧ selected source (Report.span err source)
        = ((context.toList ++ after).drop (byteLength before - before.length)).take
          (byteLength context.toList)
      ∧ ((∀ c ∈ before ++ context.toList, c.toNat < 0x80)
        → selected source (Report.span err source) = context.toList)
      ∧ (after ≠ [] → (∀ k, context.toList <+: (context.toList ++ after).drop k → k = 0) →
        (selected source (Report.span err source) = context.toList
          ↔ ∀ c ∈ before ++ context.toList, c.toNat < 0x80)) := by
  obtain ⟨m, hm, rfl⟩ := Document.parse_eq_error_iff.mp h
  obtain ⟨hoffender, -⟩ := Entry.of_misplacedIn?_eq_some (Line.numbered_ofSource source) hm
  obtain ⟨before, after, hplace⟩ := Line.exists_place hoffender.mem
  obtain ⟨hrange, -⟩ := Line.extract_toByteArray hoffender.mem
  have hspan :
      Report.span m.error source
          = (byteLength before, byteLength before + byteLength m.line.text) := by
    rw [hplace.offset]
    exact Report.span_eq rfl hrange
  have hascii : Report.span m.error source = (before.length, before.length + m.line.text.length)
      ↔ ∀ c ∈ before ++ m.line.text, c.toNat < 0x80 := by
    have hbefore := Text.length_le_byteLength before
    have htext := Text.length_le_byteLength m.line.text
    rw [hspan, Prod.mk.injEq, ← Text.byteLength_eq_length_iff, byteLength_append,
      List.length_append]
    omega
  refine ⟨_, _, _, _, _, _, before, after, rfl, ?_⟩
  rw [String.toList_ofList]
  refine ⟨hplace.text, hplace.number, congrArg (· + 1) hplace.indent, hspan, hascii, ?_,
    fun hall => ?_, fun hafter honce => ?_⟩
  · rw [hspan, Report.selected_bytes hplace.text]
  · rw [hascii.mpr hall]
    exact (Report.selected_append hplace.text 0 _).trans (by rw [List.drop_zero, List.take_left])
  · rw [hspan, Report.selected_bytes_eq_iff hplace.text hafter honce]

/-- A letter of two bytes behind the line that is refused does not move the marks. -/
theorem Document.report_span_eq_iff_comment :
    let source := "box\n    text: a\n  text: b\n# ä\n"
    ∃ err, Document.parse source = .error err ∧ Report.span err source = (18, 25)
      ∧ selected source (Report.span err source) = "text: b".toList := by
  intro source
  have hoffender : FirstOffender (Line.ofSource source) ⟨3, 2, 18, "text: b".toList⟩ := by
    decide +kernel
  obtain ⟨cause, hparse⟩ := Document.parse_of_firstOffender hoffender
  have hplace : Report.span (Misplaced.error ⟨⟨3, 2, 18, "text: b".toList⟩, cause⟩) source
      = (18, 18 + 7) :=
    Report.span_eq rfl (by decide +kernel)
  obtain ⟨line, column, start, stop, _, context, before, after, herr, hsource, -, -, hspan, -, -,
      hselected, -⟩ :=
    Document.report_span_eq_iff source _ hparse
  obtain ⟨-, -, -, -, -, hcontext⟩ := ParseError.misplaced.inj herr
  obtain rfl : context = "text: b" := hcontext.symm
  have hall : (source.toList.take 18).all (·.toNat < 0x80) = true := by decide +kernel
  have htext : "text: b".toList.all (·.toNat < 0x80) = true := by decide
  have hbytes : byteLength before = 18 := congrArg Prod.fst (hspan.symm.trans hplace)
  have hbefore : before <+: source.toList.take 18 := by
    -- There are at most as many characters before the line as bytes.
    have hle := Text.length_le_byteLength before
    exact List.prefix_take_iff.mpr ⟨⟨_, hsource.symm⟩, by omega⟩
  refine ⟨_, hparse, hplace, hselected fun c hc => ?_⟩
  rcases List.mem_append.mp hc with hc | hc
  · exact of_decide_eq_true (List.all_eq_true.mp hall c (hbefore.subset hc))
  · exact of_decide_eq_true (List.all_eq_true.mp htext c hc)

/-- **One letter of two bytes in a comment moves the marks.** The line `text: b` is refused, which
has 22 characters before it. The report selects from the next character on, up to the line
feed. -/
theorem Document.report_span_moved :
    let source := "# ä\nbox\n    text: a\n  text: b\n"
    ∃ cause, Document.parse source = .error (.misplaced 4 3 23 30 cause "text: b")
      ∧ Report.span (.misplaced 4 3 23 30 cause "text: b") source = (23, 30)
      ∧ selected source (23, 30) = "ext: b\n".toList
      ∧ selected source (23, 30) ≠ "text: b".toList
      ∧ selected source (22, 29) = "text: b".toList := by
  intro source
  have hoffender : FirstOffender (Line.ofSource source) ⟨4, 2, 23, "text: b".toList⟩ := by
    decide +kernel
  obtain ⟨cause, hparse⟩ := Document.parse_of_firstOffender hoffender
  have hplace : Report.span (.misplaced 4 3 23 30 cause "text: b") source = (23, 23 + 7) :=
    Report.span_eq rfl (by decide +kernel)
  exact ⟨cause, hparse, hplace, by decide +kernel, by decide +kernel, by decide +kernel⟩

end PageLang
