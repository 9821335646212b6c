import PageLang.Text.Search

/-!
# Characters and bytes

A place in a text can be given by the characters or by the bytes before it. The bytes before a
character end where a character of the text ends, whatever the characters are; the two numbers are
the same exactly as long as every character takes one byte:

> `byteLength_eq_length_iff`: a text has as many bytes as characters exactly if all of it is ASCII.
-/

namespace PageLang.Text

/-- The bytes that a text takes in UTF-8 are counted by `byteLength`. -/
theorem size_utf8Encode (cs : List Char) : cs.utf8Encode.size = byteLength cs := by
  rw [List.utf8Encode, List.size_toByteArray]
  induction cs with
  | nil => rfl
  | cons c cs ih =>
    rw [List.flatMap_cons, List.length_append, ih, String.length_utf8EncodeChar, byteLength_cons]

theorem utf8ByteSize_ofList (cs : List Char) : (String.ofList cs).utf8ByteSize = byteLength cs := by
  rw [← String.size_toByteArray, String.toByteArray_ofList, size_utf8Encode]

/-- The bytes of a part of a text. -/
theorem extract_utf8Encode (before text after : List Char) :
    (before ++ (text ++ after)).utf8Encode.extract (byteLength before)
      (byteLength before + byteLength text)
      = text.utf8Encode := by
  rw [List.utf8Encode_append, List.utf8Encode_append, ← size_utf8Encode, ← size_utf8Encode]
  exact (ByteArray.extract_append_size_add (i := 0)).trans (ByteArray.extract_append_eq_left rfl)

/-- The bytes before a character end at the end of a character. -/
theorem isValid_byteLength_take (text : String) (p : Nat) :
    String.Pos.Raw.IsValid text ⟨byteLength (text.toList.take p)⟩ := by
  refine String.Pos.Raw.isValid_iff_exists_append.mpr
    ⟨String.ofList (text.toList.take p), String.ofList (text.toList.drop p), ?_, ?_⟩
  · rw [← String.ofList_append, List.take_append_drop, String.ofList_toList]
  · rw [← utf8ByteSize_ofList]
    rfl

/-- What is left behind some bytes is left behind the characters that take them. -/
theorem exists_append_of_fromByte? {n : Nat} {cs rest : List Char}
    (h : fromByte? n cs = some rest) : ∃ xs, cs = xs ++ rest ∧ byteLength xs = n := by
  induction cs generalizing n with
  | nil =>
    cases n with
    | zero => exact ⟨[], Option.some.inj h, rfl⟩
    | succ n => cases h
  | cons c cs ih =>
    cases n with
    | zero => exact ⟨[], Option.some.inj h, rfl⟩
    | succ n =>
      rw [fromByte?] at h
      split at h
      · next hsize =>
        obtain ⟨xs, hcs, hlength⟩ := ih h
        refine ⟨c :: xs, by rw [hcs, List.cons_append], ?_⟩
        rw [byteLength_cons, hlength]
        omega
      · cases h

/-- **A text can be taken from a byte exactly if the byte is the start of a character, or the end
of the text.** -/
theorem isSome_fromByte?_iff (text : String) (n : Nat) :
    (fromByte? n text.toList).isSome ↔ String.Pos.Raw.IsValid text ⟨n⟩ := by
  rw [String.Pos.Raw.isValid_iff_exists_append]
  constructor
  · intro h
    obtain ⟨rest, hrest⟩ := Option.isSome_iff_exists.mp h
    obtain ⟨xs, htext, hlength⟩ := exists_append_of_fromByte? hrest
    refine ⟨String.ofList xs, String.ofList rest, ?_, ?_⟩
    · rw [← String.ofList_append, ← htext, String.ofList_toList]
    · rw [← hlength, ← utf8ByteSize_ofList]
      rfl
  · rintro ⟨before, after, rfl, hn⟩
    have hlength : n = byteLength before.toList + 0 := by
      rw [← utf8ByteSize_ofList, String.ofList_toList]
      exact congrArg String.Pos.Raw.byteIdx hn
    rw [String.toList_append, hlength, fromByte?_append, fromByte?]
    rfl

/-! ## Characters of one byte -/

theorem utf8Size_eq_one_iff_lt {c : Char} : c.utf8Size = 1 ↔ c.toNat < 0x80 := by
  have hval : c.val ≤ 127 ↔ c.toNat ≤ 127 := UInt32.le_iff_toNat_le
  rw [Char.utf8Size_eq_one_iff, hval]
  omega

theorem length_le_byteLength (cs : List Char) : cs.length ≤ byteLength cs := by
  induction cs with
  | nil => exact Nat.le_refl _
  | cons c cs ih =>
    have hpos := c.utf8Size_pos
    rw [List.length_cons, byteLength_cons]
    omega

/-- **There are as many bytes as characters exactly if all characters are ASCII.** -/
theorem byteLength_eq_length_iff {cs : List Char} :
    byteLength cs = cs.length ↔ ∀ c ∈ cs, c.toNat < 0x80 := by
  induction cs with
  | nil => simp [byteLength]
  | cons c cs ih =>
    have hpos := c.utf8Size_pos
    have hle := length_le_byteLength cs
    rw [List.length_cons, byteLength_cons, List.forall_mem_cons, ← ih, ← utf8Size_eq_one_iff_lt]
    omega

end PageLang.Text
