import PageLang.Proofs.Document.Lines
import PageLang.Proofs.Text.Bytes
import PageLang.Proofs.Text.Split

/-!
# Where a line stands in its source

A line knows its number, its indentation and the byte at which its text starts. Here these are
tied to the source text: the pieces between line feeds put together again are the source, and a
line is read from one of them.

> `Line.exists_raw_of_mem_ofSource`: a line is numbered, indented and trimmed as the piece that it
> is read from.

> `Line.exists_place`: number, indentation and offset of a line can be counted off what comes
> before it.

> `Line.extract_toByteArray`: the bytes of the source from the offset of a line on are those of
> its text.
-/

namespace PageLang

namespace Text

/-- A text is what is left of it when it is trimmed, between blanks. -/
theorem exists_eq_append_trim (cs : List Char) :
    ∃ es, cs = cs.takeWhile isBlank ++ (trim cs ++ es) := by
  obtain ⟨es, hes, -⟩ := exists_eq_trimEnd_append (trimStart cs)
  refine ⟨es, ?_⟩
  rw [trim, ← hes, trimStart, List.takeWhile_append_dropWhile]

end Text

namespace Line

open Text (trim isBlank splitBy byteLength byteLength_append)

/-- A line is read from one of the pieces, behind the others before it. -/
theorem exists_of_mem_ofPieces {pieces : List (List Char)} {number start : Nat} {l : Line}
    (h : l ∈ ofPieces number start pieces) :
    ∃ before raw after, pieces = before ++ raw :: after
      ∧ ofRaw? (number + before.length) (start + byteLength (before.flatMap (· ++ ['\n'])))
        raw = some l := by
  induction pieces generalizing number start with
  | nil => exact absurd h List.not_mem_nil
  | cons raw pieces ih =>
    have hlater : l ∈ ofPieces (number + 1) (start + byteLength raw + 1) pieces →
        ∃ before raw' after, raw :: pieces = before ++ raw' :: after
          ∧ ofRaw? (number + before.length) (start + byteLength (before.flatMap (· ++ ['\n'])))
              raw' = some l := by
      intro hl
      obtain ⟨before, raw', after, rfl, hraw⟩ := ih hl
      refine ⟨raw :: before, raw', after, rfl, ?_⟩
      have hbytes : start + byteLength ((raw :: before).flatMap (· ++ ['\n']))
          = start + byteLength raw + 1 + byteLength (before.flatMap (· ++ ['\n'])) := by
        rw [List.flatMap_cons, byteLength_append, byteLength_append]
        show start + (byteLength raw + 1 + _) = _
        omega
      rwa [hbytes, List.length_cons, ← Nat.add_assoc number, Nat.add_right_comm number]
    rw [ofPieces] at h
    split at h
    · next first hfirst =>
      rcases List.mem_cons.mp h with rfl | h
      · exact ⟨[], raw, pieces, rfl, hfirst⟩
      · exact hlater h
    · exact hlater h

/-- **A line is numbered, indented and trimmed as the piece of the source that it is read from.** -/
theorem exists_raw_of_mem_ofSource {source : String} {l : Line} (h : l ∈ ofSource source) :
    ∃ raw, (splitBy (· = '\n') source.toList)[l.number - 1]? = some raw
      ∧ l.indent = (raw.takeWhile isBlank).length ∧ l.text = trim raw := by
  obtain ⟨before, raw, after, hpieces, hraw⟩ := exists_of_mem_ofPieces h
  obtain rfl := ofRaw?_eq_some hraw
  refine ⟨raw, ?_, rfl, rfl⟩
  rw [hpieces, Nat.add_sub_cancel_left, List.getElem?_append_right (Nat.le_refl _), Nat.sub_self]
  rfl

/-- A line stands in its source: what comes before its text, and what comes behind. -/
structure Place (source : String) (l : Line) (before after : List Char) : Prop where
  text : source.toList = before ++ (l.text ++ after)
  number : before.count '\n' + 1 = l.number
  indent : (before.reverse.takeWhile (· ≠ '\n')).length = l.indent
  offset : byteLength before = l.offset

/-- Behind pieces that end with line feeds a line starts anew. -/
theorem count_lineFeed_pieces {pieces : List (List Char)} (h : ∀ piece ∈ pieces, '\n' ∉ piece) :
    (pieces.flatMap (· ++ ['\n'])).count '\n' = pieces.length := by
  induction pieces with
  | nil => rfl
  | cons piece pieces ih =>
    obtain ⟨hpiece, hpieces⟩ := List.forall_mem_cons.mp h
    rw [List.flatMap_cons, List.count_append, List.count_append,
      List.count_eq_zero_of_not_mem hpiece, ih hpieces, List.count_singleton_self, List.length_cons]
    omega

theorem getLast?_lineFeed_pieces (pieces : List (List Char)) :
    ∀ c ∈ (pieces.flatMap (· ++ ['\n'])).getLast?, c = '\n' := by
  intro c hc
  rcases List.eq_nil_or_concat pieces with rfl | ⟨earlier, piece, rfl⟩
  · cases hc
  · rw [List.concat_eq_append, List.flatMap_append, List.flatMap_singleton, ← List.append_assoc,
      List.getLast?_concat] at hc
    exact (Option.some.inj hc).symm

/-- **A line stands in its source where it says**: the line feeds before it, the characters since
the last of them, and the bytes before it give its number, its indentation and its offset. -/
theorem exists_place {source : String} {l : Line} (h : l ∈ ofSource source) :
    ∃ before after, Place source l before after := by
  obtain ⟨earlier, raw, later, hpieces, hraw⟩ := exists_of_mem_ofPieces h
  obtain ⟨rest, hrest⟩ := Text.exists_eq_of_splitBy hpieces
  obtain ⟨es, hes⟩ := Text.exists_eq_append_trim raw
  obtain rfl := ofRaw?_eq_some hraw
  have hbreak : ∀ piece ∈ earlier ++ raw :: later, '\n' ∉ piece := by
    intro piece hpiece hmem
    rw [← hpieces] at hpiece
    exact absurd rfl (of_decide_eq_false (Text.forall_of_mem_splitBy hpiece '\n' hmem))
  have hearlier : ∀ piece ∈ earlier, '\n' ∉ piece := fun piece hpiece =>
    hbreak piece (List.mem_append_left _ hpiece)
  have hblanks : '\n' ∉ raw.takeWhile isBlank := fun hmem =>
    hbreak raw (by simp) ((List.takeWhile_prefix _).subset hmem)
  refine ⟨earlier.flatMap (· ++ ['\n']) ++ raw.takeWhile isBlank, es ++ rest, ?_, ?_, ?_, ?_⟩
  · rw [hrest]
    nth_rewrite 1 [hes]
    simp only [List.append_assoc]
  · rw [List.count_append, count_lineFeed_pieces hearlier, List.count_eq_zero_of_not_mem hblanks]
    dsimp only
    omega
  · -- Read backwards, the blanks come first and then a line feed, if anything.
    have hrun : ∀ c ∈ (raw.takeWhile isBlank).reverse, decide (c ≠ '\n') = true := by
      intro c hc
      refine decide_eq_true fun heq => hblanks ?_
      rw [← heq]
      exact List.mem_reverse.mp hc
    have hstop : ∀ c ∈ (earlier.flatMap (· ++ ['\n'])).reverse.head?,
        decide (c ≠ '\n') = false := by
      intro c hc
      rw [List.head?_reverse] at hc
      rw [getLast?_lineFeed_pieces earlier c hc]
      rfl
    rw [List.reverse_append, Text.takeWhile_append_of_stop hrun hstop, List.length_reverse]
  · rw [byteLength_append]
    dsimp only
    omega

/-- **The bytes of the source from the offset of a line on are those of its text.** -/
theorem extract_toByteArray {source : String} {l : Line} (h : l ∈ ofSource source) :
    l.offset + byteLength l.text ≤ source.utf8ByteSize
      ∧ source.toByteArray.extract l.offset (l.offset + byteLength l.text)
        = (String.ofList l.text).toByteArray := by
  obtain ⟨before, after, hplace⟩ := exists_place h
  rw [← String.size_toByteArray, ← String.ofList_toList (s := source), String.toByteArray_ofList,
    String.toByteArray_ofList, Text.size_utf8Encode, hplace.text, ← hplace.offset]
  refine ⟨?_, Text.extract_utf8Encode before l.text after⟩
  rw [byteLength_append, byteLength_append]
  omega

end Line

end PageLang
