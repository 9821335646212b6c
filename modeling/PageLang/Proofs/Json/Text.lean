import PageLang.Json.Reader
import PageLang.Proofs.Json.Numeral
import PageLang.Proofs.Json.Spelling

/-!
# Reading what was written

The text of a value is drafted as this value, with whatever follows left over: strings and
containers come back, and a number comes back as what its numeral spells (`Draft.written`).
Neither the blanks between the parts matter nor whether `<`, `>` and `&` are spelled as escapes,
since these three characters stand in strings only. Hence

> every reader gets from a text of `j`, compact, spread over lines or respelled, what it makes of
> `written j` (`readText_compact`, `readText_pretty`, `readText_respelled`).
-/

namespace PageLang.Json

variable {rest : List Char}

/-! ## Values as drafts -/

mutual

/-- A value as a draft, with the drafts of its numbers given. -/
def Draft.ofJson (int : Int → Draft) (float : Float → Draft) : Json → Draft
  | .null => .null
  | .bool b => .bool b
  | .int n => int n
  | .float x => float x
  | .str s => .str s
  | .arr items => .arr (Draft.ofItems int float items) none
  | .obj members => .obj (Draft.ofMembers int float members) none

/-- Items as drafts. -/
def Draft.ofItems (int : Int → Draft) (float : Float → Draft) : List Json → List Draft
  | [] => []
  | item :: items => Draft.ofJson int float item :: Draft.ofItems int float items

/-- Members as drafts. -/
def Draft.ofMembers (int : Int → Draft) (float : Float → Draft) :
    List (String × Json) → List (Except Fault String × Draft)
  | [] => []
  | (key, value) :: members =>
    (.ok key, Draft.ofJson int float value) :: Draft.ofMembers int float members

end

/-- The draft of a number of which the digits were well formed. -/
def Draft.ofNumber : Except Fault Number → Draft
  | .ok n => n.draft
  | .error f => .unreadable .number f none

/-- The draft of a whole number that was written. -/
def Draft.writtenInt (n : Int) : Draft := .ofNumber (intNumeral n).read

/-- The draft of a fractional number that was written. -/
def Draft.writtenFloat (x : Float) : Draft :=
  if x.isFinite then .ofNumber (scanNumber (floatText x)).read else .null

/-- The draft of a value that was written. -/
def Draft.written : Json → Draft := Draft.ofJson Draft.writtenInt Draft.writtenFloat

/-! ## Tokens -/

/-- Spacing in front of a text is skipped whole. -/
theorem skipSpacing_append {blanks : List Char} (h : blanks.all isSpacing = true) (cs : List Char) :
    skipSpacing (blanks ++ cs) = skipSpacing cs :=
  List.dropWhile_append_of_pos (List.all_eq_true.mp h)

/-- A character that is no spacing is where skipping stops. -/
theorem skipSpacing_cons {c : Char} (h : isSpacing c = false) (cs : List Char) :
    skipSpacing (c :: cs) = c :: cs := by
  rw [skipSpacing, List.dropWhile_cons_of_neg (by rw [h]; decide)]

/-- A value is read the same behind spacing. -/
theorem draftValue_append {blanks : List Char} (h : blanks.all isSpacing = true) (fuel : Nat)
    (cs : List Char) : draftValue fuel (blanks ++ cs) = draftValue fuel cs := by
  cases fuel with
  | zero => rfl
  | succ fuel => rw [draftValue, draftValue, skipSpacing_append h]

/-- The items of an array are read the same behind spacing. -/
theorem draftItems_append {blanks : List Char} (h : blanks.all isSpacing = true) (fuel : Nat)
    (first : Bool) (cs : List Char) :
    draftItems fuel first (blanks ++ cs) = draftItems fuel first cs := by
  cases fuel with
  | zero => rfl
  | succ fuel => rw [draftItems, draftItems, skipSpacing_append h]

/-- The members of an object are read the same behind spacing. -/
theorem draftMembers_append {blanks : List Char} (h : blanks.all isSpacing = true) (fuel : Nat)
    (first : Bool) (cs : List Char) :
    draftMembers fuel first (blanks ++ cs) = draftMembers fuel first cs := by
  cases fuel with
  | zero => rfl
  | succ fuel => rw [draftMembers, draftMembers, skipSpacing_append h]

theorem ne_of_startsNumber {c d : Char} (h : startsNumber c = true) (hd : startsNumber d = false) :
    c ≠ d := by
  rintro rfl
  rw [hd] at h
  cases h

/-- A sign or a digit is no spacing, so a number is not skipped over. -/
theorem isSpacing_of_startsNumber {c : Char} (h : startsNumber c = true) : isSpacing c = false := by
  simp only [isSpacing, Bool.or_eq_false_iff, decide_eq_false_iff_not]
  exact ⟨⟨⟨ne_of_startsNumber h rfl, ne_of_startsNumber h rfl⟩, ne_of_startsNumber h rfl⟩,
    ne_of_startsNumber h rfl⟩

/-- What begins with a sign or a digit is read as a number. -/
theorem draftValue_number {c : Char} (h : startsNumber c = true) (fuel : Nat) (cs : List Char) :
    draftValue (fuel + 1) (c :: cs) = draftScan .number Number.draft (scanNumber (c :: cs)) := by
  rw [draftValue, skipSpacing_cons (isSpacing_of_startsNumber h)]
  split
  · next heq => cases heq
  · next heq => exact absurd (List.cons.inj heq).1 (ne_of_startsNumber h rfl)
  · next heq => exact absurd (List.cons.inj heq).1 (ne_of_startsNumber h rfl)
  · next heq => exact absurd (List.cons.inj heq).1 (ne_of_startsNumber h rfl)
  · next heq => exact absurd (List.cons.inj heq).1 (ne_of_startsNumber h rfl)
  · next heq => exact absurd (List.cons.inj heq).1 (ne_of_startsNumber h rfl)
  · next heq => exact absurd (List.cons.inj heq).1 (ne_of_startsNumber h rfl)
  · next heq =>
    obtain ⟨rfl, rfl⟩ := List.cons.inj heq
    exact if_pos h

/-- What begins with a quote is read as a string. -/
theorem draftValue_quote (fuel : Nat) (cs : List Char) :
    draftValue (fuel + 1) ('"' :: cs) = draftScan .string (fun s => .str (String.ofList s))
      (scanString cs) := by
  rw [draftValue, skipSpacing_cons rfl]
  rfl

/-- A number whose end was found makes a draft, whether or not it could be read. -/
theorem draftScan_number (read : Except Fault Number) (rest : List Char) :
    draftScan .number Number.draft ⟨read, .ok rest⟩ = (.ofNumber read, some rest) := by
  cases read with
  | ok n => rfl
  | error f => rfl

/-- A numeral is read back from its text, if what follows cannot be a part of it. -/
theorem draftValue_text {n : Numeral} (hn : n.WellFormed) (hrest : EndsNumber rest) (fuel : Nat) :
    draftValue (fuel + 1) (n.text ++ rest) = (.ofNumber n.read, some rest) := by
  obtain ⟨c, cs, htext, hc⟩ := exists_cons_text hn
  have hscan := scanNumber_text hn hrest
  rw [htext, List.cons_append] at hscan ⊢
  rw [draftValue_number hc, hscan, draftScan_number]

/-- The text goes on with a value: not with a blank, nor with the end of an array. -/
def StartsValue (cs : List Char) : Prop :=
  ∃ c tail, cs = c :: tail ∧ isSpacing c = false ∧ c ≠ ']'

/-- A closing bracket ends the items. -/
theorem draftItems_close (fuel : Nat) (first : Bool) (rest : List Char) :
    draftItems (fuel + 1) first (']' :: rest) = ([], none, some rest) := by
  rw [draftItems, skipSpacing_cons rfl]
  rfl

/-- The first item stands directly behind the opening bracket. -/
theorem draftItems_first {cs : List Char} (h : StartsValue cs) (fuel : Nat) :
    draftItems (fuel + 1) true cs = draftItem fuel cs := by
  obtain ⟨c, tail, rfl, hspacing, hclose⟩ := h
  rw [draftItems, skipSpacing_cons hspacing]
  split
  · next heq => cases heq
  · next heq => exact absurd (List.cons.inj heq).1 hclose
  · next heq => rw [heq, if_pos rfl]

/-- A further item stands behind a comma and perhaps spacing. -/
theorem draftItems_comma {blanks cs : List Char} (hblanks : blanks.all isSpacing = true)
    (h : StartsValue cs) (fuel : Nat) :
    draftItems (fuel + 1) false (',' :: (blanks ++ cs)) = draftItem fuel cs := by
  obtain ⟨c, tail, rfl, hspacing, hclose⟩ := h
  have hskip : skipSpacing (blanks ++ c :: tail) = c :: tail := by
    rw [skipSpacing_append hblanks, skipSpacing_cons hspacing]
  rw [draftItems, skipSpacing_cons rfl]
  split
  · next heq => cases heq
  · next heq => exact absurd (List.cons.inj heq).1 (by decide)
  · next d rest heq =>
    obtain ⟨rfl, rfl⟩ := List.cons.inj heq
    rw [if_neg Bool.false_ne_true, if_pos rfl, hskip]
    split
    · next heq => exact absurd (List.cons.inj heq).1 hclose
    · rfl

/-- An item and the items behind it are read one after the other. -/
theorem draftItem_cons {fuel : Nat} {cs after : List Char} {item : Draft} {items : List Draft}
    (hitem : draftValue fuel cs = (item, some after))
    (hitems : draftItems fuel false after = (items, none, some rest)) :
    draftItem (fuel + 1) cs = (item :: items, none, some rest) := by
  rw [draftItem, hitem]
  dsimp only
  rw [hitems]

/-- A closing brace ends the members. -/
theorem draftMembers_close (fuel : Nat) (first : Bool) (rest : List Char) :
    draftMembers (fuel + 1) first ('\x7d' :: rest) = ([], none, some rest) := by
  rw [draftMembers, skipSpacing_cons rfl]
  rfl

/-- The first member starts with the quote of its key. -/
theorem draftMembers_first (fuel : Nat) (cs : List Char) :
    draftMembers (fuel + 1) true ('"' :: cs) = draftMember fuel cs := by
  rw [draftMembers, skipSpacing_cons rfl]
  rfl

/-- A further member stands behind a comma and perhaps spacing. -/
theorem draftMembers_comma {blanks : List Char} (hblanks : blanks.all isSpacing = true) (fuel : Nat)
    (cs : List Char) :
    draftMembers (fuel + 1) false (',' :: (blanks ++ '"' :: cs)) = draftMember fuel cs := by
  have hskip : skipSpacing (blanks ++ '"' :: cs) = '"' :: cs := by
    rw [skipSpacing_append hblanks, skipSpacing_cons rfl]
  rw [draftMembers, skipSpacing_cons rfl]
  simp only [hskip]
  rfl

/-- The key, the value and the members behind them are read one after the other. -/
theorem draftMember_cons {fuel : Nat} {cs key after after' : List Char} {value : Draft}
    {members : List (Except Fault String × Draft)}
    (hkey : scanString cs = ⟨.ok key, .ok (':' :: after)⟩)
    (hvalue : draftValue fuel after = (value, some after'))
    (hmembers : draftMembers fuel false after' = (members, none, some rest)) :
    draftMember (fuel + 1) cs = ((.ok (String.ofList key), value) :: members, none, some rest) := by
  have hcolon : skipSpacing (':' :: after) = ':' :: after := skipSpacing_cons rfl after
  simp only [draftMember, hkey, hcolon, hvalue, hmembers]
  rfl

/-! ## Blanks -/

/-- Between the parts of a container stand blanks only. -/
structure Spacing.Blank (spacing : Spacing) : Prop where
  inner : ∀ depth, (spacing.inner depth).all isSpacing = true
  outer : ∀ depth, (spacing.outer depth).all isSpacing = true
  colon : spacing.colon.all isSpacing = true

theorem Spacing.blank_none : Spacing.none.Blank := ⟨fun _ => rfl, fun _ => rfl, rfl⟩

/-- The spacing of texts over several lines is blank too. -/
theorem Spacing.blank_lines : Spacing.lines.Blank where
  inner depth := by simp [Spacing.lines, isSpacing]
  outer depth := by simp [Spacing.lines, isSpacing]
  colon := rfl

/-- A respelling leaves spacing as it is. -/
theorem Respelling.flatMap_blanks {spell : Char → List Char} (h : Respelling spell)
    {blanks : List Char} (hblanks : blanks.all isSpacing = true) : blanks.flatMap spell = blanks :=
  h.flatMap_class (by decide) (List.all_eq_true.mp hblanks)

/-- Spacing in front of what ends a number ends it as well. -/
theorem endsNumber_blanks {blanks cs : List Char} (hblanks : blanks.all isSpacing = true)
    (h : EndsNumber cs) : EndsNumber (blanks ++ cs) := by
  cases blanks with
  | nil => exact h
  | cons c blanks =>
    rw [List.all_cons, Bool.and_eq_true, isSpacing] at hblanks
    simp only [Bool.or_eq_true, decide_eq_true_eq] at hblanks
    rcases hblanks.1 with ((rfl | rfl) | rfl) | rfl
    all_goals exact endsNumber_cons rfl (by decide) (by decide) (by decide)

/-! ## Values -/

section

variable {spell : Char → List Char} {spacing : Spacing}

/-- A numeral starts a value: with a sign or a digit. -/
theorem startsValue_text {n : Numeral} (hn : n.WellFormed) (cs : List Char) :
    StartsValue (n.text ++ cs) := by
  obtain ⟨c, tail, htext, hc⟩ := exists_cons_text hn
  exact ⟨c, tail ++ cs, by rw [htext, List.cons_append], isSpacing_of_startsNumber hc,
    ne_of_startsNumber hc rfl⟩

/-- A respelling leaves numerals as they are. -/
theorem flatMap_text (h : Respelling spell) {n : Numeral} (hn : n.WellFormed) (cs : List Char) :
    (n.text ++ cs).flatMap spell = n.text ++ cs.flatMap spell := by
  rw [List.flatMap_append, h.flatMap_class (p := isNumeralChar) (by decide) fun _ =>
    isNumeralChar_of_mem_text hn]

/-- A respelling leaves the quotes of a string and respells what is between them. -/
theorem flatMap_quote (h : Respelling spell) (s : String) (cs : List Char) :
    (quote s ++ cs).flatMap spell
      = '"' :: ((s.toList.flatMap escapeChar).flatMap spell ++ '"' :: cs.flatMap spell) := by
  rw [quote, List.cons_append, List.cons_append, h.flatMap_cons (by decide), List.append_assoc,
    List.flatMap_append, List.singleton_append, h.flatMap_cons (by decide)]

theorem floatText_of_not_isFinite {x : Float} (hx : ¬ x.isFinite = true) :
    floatText x = "null".toList :=
  if_neg hx

/-- A written value starts with a character that is neither spacing nor a closing bracket. -/
theorem startsValue_write (h : Respelling spell) (depth : Nat) (rest : List Char) (j : Json) :
    StartsValue ((write spacing depth rest j).flatMap spell) := by
  match j with
  | .null => exact ⟨'n', _, h.flatMap_cons (by decide) _, rfl, by decide⟩
  | .bool true => exact ⟨'t', _, h.flatMap_cons (by decide) _, rfl, by decide⟩
  | .bool false => exact ⟨'f', _, h.flatMap_cons (by decide) _, rfl, by decide⟩
  | .int n =>
    rw [write, ← text_intNumeral, flatMap_text h (wellFormed_intNumeral n)]
    exact startsValue_text (wellFormed_intNumeral n) _
  | .float x =>
    rw [write]
    by_cases hx : x.isFinite = true
    · obtain ⟨n, hn, htext⟩ := exists_numeral_floatText hx
      rw [← htext, flatMap_text h hn]
      exact startsValue_text hn _
    · rw [floatText_of_not_isFinite hx]
      exact ⟨'n', _, h.flatMap_cons (by decide) _, rfl, by decide⟩
  | .str s => exact ⟨'"', _, flatMap_quote h s rest, rfl, by decide⟩
  | .arr [] => exact ⟨'[', _, h.flatMap_cons (by decide) _, rfl, by decide⟩
  | .arr (item :: items) => exact ⟨'[', _, h.flatMap_cons (by decide) _, rfl, by decide⟩
  | .obj [] => exact ⟨'\x7b', _, h.flatMap_cons (by decide) _, rfl, by decide⟩
  | .obj (member :: members) => exact ⟨'\x7b', _, h.flatMap_cons (by decide) _, rfl, by decide⟩

mutual

/-- What is to follow a value is written behind it unchanged. -/
theorem write_eq_append (depth : Nat) (rest : List Char) (j : Json) :
    write spacing depth rest j = write spacing depth [] j ++ rest := by
  match j with
  | .null => rw [write, write, List.append_nil]
  | .bool b => rw [write, write, List.append_nil]
  | .int n => rw [write, write, List.append_nil]
  | .float x => rw [write, write, List.append_nil]
  | .str s => rw [write, write, List.append_nil]
  | .arr [] => rfl
  | .arr (item :: items) =>
    rw [write, write, write_eq_append (depth + 1) _ item, writeItems_eq_append depth _ items,
      write_eq_append (depth + 1)
        (writeItems spacing depth (spacing.outer depth ++ [']']) items) item,
      writeItems_eq_append depth (spacing.outer depth ++ [']']) items]
    simp
  | .obj [] => rfl
  | .obj ((key, value) :: members) =>
    rw [write, write, write_eq_append (depth + 1) _ value, writeMembers_eq_append depth _ members,
      write_eq_append (depth + 1)
        (writeMembers spacing depth (spacing.outer depth ++ ['\x7d']) members) value,
      writeMembers_eq_append depth (spacing.outer depth ++ ['\x7d']) members]
    simp

/-- What is to follow the items is written behind them unchanged. -/
theorem writeItems_eq_append (depth : Nat) (rest : List Char) (items : List Json) :
    writeItems spacing depth rest items = writeItems spacing depth [] items ++ rest := by
  match items with
  | [] => rfl
  | item :: items =>
    rw [writeItems, writeItems, write_eq_append (depth + 1) _ item,
      writeItems_eq_append depth rest items,
      write_eq_append (depth + 1) (writeItems spacing depth [] items) item]
    simp

/-- What is to follow the members is written behind them unchanged. -/
theorem writeMembers_eq_append (depth : Nat) (rest : List Char) (members : List (String × Json)) :
    writeMembers spacing depth rest members = writeMembers spacing depth [] members ++ rest := by
  match members with
  | [] => rfl
  | (key, value) :: members =>
    rw [writeMembers, writeMembers, write_eq_append (depth + 1) _ value,
      writeMembers_eq_append depth rest members,
      write_eq_append (depth + 1) (writeMembers spacing depth [] members) value]
    simp

end

/-- A value takes at least one character. -/
theorem length_rest_lt (h : Respelling spell) (spacing : Spacing) (depth : Nat) (rest : List Char)
    (j : Json) :
    (rest.flatMap spell).length < ((write spacing depth rest j).flatMap spell).length := by
  have hstart : StartsValue ((write spacing depth [] j).flatMap spell) :=
    startsValue_write h depth [] j
  obtain ⟨c, tail, hcons, -, -⟩ := hstart
  rw [write_eq_append, List.flatMap_append, hcons, List.length_append, List.length_cons]
  omega

/-- A number that is an item ends where the next item or the bracket begins. -/
theorem endsNumber_writeItems (h : Respelling spell) (hspacing : spacing.Blank) (depth : Nat)
    (rest : List Char) (items : List Json) :
    EndsNumber
      ((writeItems spacing depth (spacing.outer depth ++ ']' :: rest) items).flatMap spell) := by
  cases items with
  | nil =>
    rw [writeItems, List.flatMap_append, h.flatMap_blanks (hspacing.outer depth),
      h.flatMap_cons (by decide)]
    exact endsNumber_blanks (hspacing.outer depth)
      (endsNumber_cons rfl (by decide) (by decide) (by decide))
  | cons item items =>
    rw [writeItems, List.cons_append, h.flatMap_cons (by decide)]
    exact endsNumber_cons rfl (by decide) (by decide) (by decide)

/-- A number that is the value of a member ends where the next member or the brace begins. -/
theorem endsNumber_writeMembers (h : Respelling spell) (hspacing : spacing.Blank) (depth : Nat)
    (rest : List Char) (members : List (String × Json)) :
    EndsNumber
      ((writeMembers spacing depth (spacing.outer depth ++ '\x7d' :: rest) members).flatMap
        spell) := by
  cases members with
  | nil =>
    rw [writeMembers, List.flatMap_append, h.flatMap_blanks (hspacing.outer depth),
      h.flatMap_cons (by decide)]
    exact endsNumber_blanks (hspacing.outer depth)
      (endsNumber_cons rfl (by decide) (by decide) (by decide))
  | cons member members =>
    rw [writeMembers, List.cons_append, h.flatMap_cons (by decide)]
    exact endsNumber_cons rfl (by decide) (by decide) (by decide)

/-- An opening bracket is followed by items. -/
theorem draftValue_array {fuel : Nat} {cs : List Char} {items : List Draft} {cut : Option Fault}
    {after : Option (List Char)} (hitems : draftItems fuel true cs = (items, cut, after)) :
    draftValue (fuel + 1) ('[' :: cs) = (.arr items cut, after) := by
  rw [draftValue, skipSpacing_cons rfl]
  show (Draft.arr (draftItems fuel true cs).1 (draftItems fuel true cs).2.1, _) = _
  rw [hitems]

/-- An opening brace is followed by members. -/
theorem draftValue_object {fuel : Nat} {cs : List Char}
    {members : List (Except Fault String × Draft)} {cut : Option Fault} {after : Option (List Char)}
    (hmembers : draftMembers fuel true cs = (members, cut, after)) :
    draftValue (fuel + 1) ('\x7b' :: cs) = (.obj members cut, after) := by
  rw [draftValue, skipSpacing_cons rfl]
  show (Draft.obj (draftMembers fuel true cs).1 (draftMembers fuel true cs).2.1, _) = _
  rw [hmembers]

/-- A respelling keeps the quotes and the colon of a member. -/
theorem flatMap_member (h : Respelling spell) (hspacing : spacing.Blank) (key : String)
    (cs : List Char) : (quote key ++ ':' :: spacing.colon ++ cs).flatMap spell
      = '"' :: ((key.toList.flatMap escapeChar).flatMap spell ++ '"' :: ':' ::
        (spacing.colon ++ cs.flatMap spell)) := by
  rw [List.append_assoc, flatMap_quote h, List.cons_append, h.flatMap_cons (by decide),
    List.flatMap_append, h.flatMap_blanks hspacing.colon]

end

/-! ## Values part by part -/

section

variable (spell : Char → List Char) (spacing : Spacing)

/-- The text of a value is drafted as the value, up to what follows. Three steps for each
character are enough: a bracket, an item and its value take one each. -/
def DraftsBack (depth : Nat) (j : Json) : Prop :=
  ∀ (fuel : Nat) (rest : List Char), EndsNumber (rest.flatMap spell) →
    3 * ((write spacing depth rest j).flatMap spell).length ≤ fuel →
    draftValue fuel ((write spacing depth rest j).flatMap spell)
      = (.written j, some (rest.flatMap spell))

/-- The items after the first are drafted up to the closing bracket. -/
def ItemsDraftBack (depth : Nat) (items : List Json) : Prop :=
  ∀ (fuel : Nat) (rest : List Char),
    3 * ((writeItems spacing depth (spacing.outer depth ++ ']' :: rest) items).flatMap spell).length
      + 2 ≤ fuel →
    draftItems fuel false
      ((writeItems spacing depth (spacing.outer depth ++ ']' :: rest) items).flatMap spell)
      = (Draft.ofItems Draft.writtenInt Draft.writtenFloat items, none, some (rest.flatMap spell))

/-- The members after the first are drafted up to the closing brace. -/
def MembersDraftBack (depth : Nat) (members : List (String × Json)) : Prop :=
  ∀ (fuel : Nat) (rest : List Char),
    3 * ((writeMembers spacing depth (spacing.outer depth ++ '\x7d' :: rest) members).flatMap
      spell).length + 2
      ≤ fuel →
    draftMembers fuel false
        ((writeMembers spacing depth (spacing.outer depth ++ '\x7d' :: rest) members).flatMap spell)
      = (Draft.ofMembers Draft.writtenInt Draft.writtenFloat members, none,
        some (rest.flatMap spell))

end

section

variable {spell : Char → List Char} {spacing : Spacing} {depth : Nat}

/-- No written value is empty, so the bound on the depth of the reading is not used up. -/
theorem exists_succ_of_length_le (h : Respelling spell) {fuel : Nat} {j : Json}
    (hfuel : 3 * ((write spacing depth rest j).flatMap spell).length ≤ fuel) :
    ∃ k, fuel = k + 1 := by
  have hlt := length_rest_lt h spacing depth rest j
  exact ⟨fuel - 1, by omega⟩

/-- A respelling leaves letters as they are. -/
theorem flatMap_word (h : Respelling spell) {letters : List Char}
    (hletters : letters.all Char.isAlpha = true) (rest : List Char) :
    (letters ++ rest).flatMap spell = letters ++ rest.flatMap spell := by
  rw [List.flatMap_append, h.flatMap_class (by decide) (List.all_eq_true.mp hletters)]

theorem draftValue_null (h : Respelling spell) (fuel : Nat) (rest : List Char) :
    draftValue (fuel + 1) (("null".toList ++ rest).flatMap spell)
      = (.null, some (rest.flatMap spell)) := by
  rw [flatMap_word h (by decide), draftValue]
  rfl

theorem draftsBack_null (h : Respelling spell) : DraftsBack spell spacing depth .null := by
  intro fuel rest _ hfuel
  obtain ⟨k, rfl⟩ := exists_succ_of_length_le h hfuel
  exact draftValue_null h k rest

theorem draftsBack_bool (h : Respelling spell) (b : Bool) :
    DraftsBack spell spacing depth (.bool b) := by
  intro fuel rest _ hfuel
  obtain ⟨k, rfl⟩ := exists_succ_of_length_le h hfuel
  cases b with
  | true =>
    rw [write, if_pos rfl, flatMap_word h (by decide), draftValue]
    rfl
  | false =>
    rw [write, if_neg (by decide), flatMap_word h (by decide), draftValue]
    rfl

theorem draftsBack_int (h : Respelling spell) (n : Int) :
    DraftsBack spell spacing depth (.int n) := by
  intro fuel rest hrest hfuel
  obtain ⟨k, rfl⟩ := exists_succ_of_length_le h hfuel
  rw [write, ← text_intNumeral, flatMap_text h (wellFormed_intNumeral n)]
  exact draftValue_text (wellFormed_intNumeral n) hrest k

/-- A finite number comes back as what its text reads as, any other as `null`. -/
theorem draftsBack_float (h : Respelling spell) (x : Float) :
    DraftsBack spell spacing depth (.float x) := by
  intro fuel rest hrest hfuel
  obtain ⟨k, rfl⟩ := exists_succ_of_length_le h hfuel
  rw [write, Draft.written, Draft.ofJson, Draft.writtenFloat]
  by_cases hx : x.isFinite = true
  · obtain ⟨n, hn, htext⟩ := exists_numeral_floatText hx
    rw [← htext, flatMap_text h hn, if_pos hx, read_scanNumber hn]
    exact draftValue_text hn hrest k
  · rw [floatText_of_not_isFinite hx, if_neg hx]
    exact draftValue_null h k rest

theorem draftsBack_str (h : Respelling spell) (s : String) :
    DraftsBack spell spacing depth (.str s) := by
  intro fuel rest _ hfuel
  obtain ⟨k, rfl⟩ := exists_succ_of_length_le h hfuel
  rw [write, flatMap_quote h, draftValue_quote, scanString_written h]
  show (Draft.str (String.ofList s.toList), _) = _
  rw [String.ofList_toList]
  rfl

/-- An item and those after it. -/
theorem draftItem_written (h : Respelling spell) (hspacing : spacing.Blank) {item : Json}
    {items : List Json} (hitem : DraftsBack spell spacing (depth + 1) item)
    (hitems : ItemsDraftBack spell spacing depth items) {fuel : Nat}
    (hfuel : 3 * ((write spacing (depth + 1)
      (writeItems spacing depth (spacing.outer depth ++ ']' :: rest) items) item).flatMap
        spell).length + 1 ≤ fuel) :
    draftItem fuel ((write spacing (depth + 1)
        (writeItems spacing depth (spacing.outer depth ++ ']' :: rest) items) item).flatMap spell)
      = (Draft.ofItems Draft.writtenInt Draft.writtenFloat (item :: items), none,
        some (rest.flatMap spell)) := by
  have hlt := length_rest_lt h spacing (depth + 1)
    (writeItems spacing depth (spacing.outer depth ++ ']' :: rest) items) item
  obtain ⟨k, rfl⟩ : ∃ k, fuel = k + 1 := ⟨fuel - 1, by omega⟩
  exact draftItem_cons (hitem k _ (endsNumber_writeItems h hspacing depth rest items) (by omega))
    (hitems k rest (by omega))

/-- A member whose key has been opened and those after it. -/
theorem draftMember_written (h : Respelling spell) (hspacing : spacing.Blank) {key : String}
    {value : Json} {members : List (String × Json)}
    (hvalue : DraftsBack spell spacing (depth + 1) value)
    (hmembers : MembersDraftBack spell spacing depth members) {fuel : Nat}
    (hfuel : 3 * ((write spacing (depth + 1)
      (writeMembers spacing depth (spacing.outer depth ++ '\x7d' :: rest) members) value).flatMap
        spell).length + 1
        ≤ fuel) :
    draftMember fuel ((key.toList.flatMap escapeChar).flatMap spell ++ '"' :: ':' ::
        (spacing.colon ++ (write spacing (depth + 1)
          (writeMembers spacing depth (spacing.outer depth ++ '\x7d' :: rest) members)
            value).flatMap spell))
      = (Draft.ofMembers Draft.writtenInt Draft.writtenFloat ((key, value) :: members), none,
        some (rest.flatMap spell)) := by
  have hlt := length_rest_lt h spacing (depth + 1)
    (writeMembers spacing depth (spacing.outer depth ++ '\x7d' :: rest) members) value
  obtain ⟨k, rfl⟩ : ∃ k, fuel = k + 1 := ⟨fuel - 1, by omega⟩
  have hvalue' := hvalue k _ (endsNumber_writeMembers h hspacing depth rest members) (by omega)
  rw [draftMember_cons (scanString_written h key.toList _)
    ((draftValue_append hspacing.colon k _).trans hvalue') (hmembers k rest (by omega)),
    String.ofList_toList]
  rfl

theorem draftsBack_arr_nil (h : Respelling spell) : DraftsBack spell spacing depth (.arr []) := by
  intro fuel rest _ hfuel
  rw [write, h.flatMap_cons (by decide), h.flatMap_cons (by decide)] at hfuel ⊢
  rw [List.length_cons, List.length_cons] at hfuel
  obtain ⟨k, rfl⟩ : ∃ k, fuel = k + 2 := ⟨fuel - 2, by omega⟩
  exact draftValue_array (draftItems_close k true _)

/-- An array comes back if its first item and the others do. -/
theorem draftsBack_arr_cons (h : Respelling spell) (hspacing : spacing.Blank) {item : Json}
    {items : List Json} (hitem : DraftsBack spell spacing (depth + 1) item)
    (hitems : ItemsDraftBack spell spacing depth items) :
    DraftsBack spell spacing depth (.arr (item :: items)) := by
  intro fuel rest _ hfuel
  rw [write, List.cons_append, h.flatMap_cons (by decide), List.flatMap_append,
    h.flatMap_blanks (hspacing.inner depth)] at hfuel ⊢
  rw [List.length_cons, List.length_append] at hfuel
  obtain ⟨k, rfl⟩ : ∃ k, fuel = k + 2 := ⟨fuel - 2, by omega⟩
  refine draftValue_array ?_
  rw [draftItems_append (hspacing.inner depth), draftItems_first (startsValue_write h ..)]
  exact draftItem_written h hspacing hitem hitems (by omega)

/-- Behind the last item stands the closing bracket. -/
theorem itemsDraftBack_nil (h : Respelling spell) (hspacing : spacing.Blank) :
    ItemsDraftBack spell spacing depth [] := by
  intro fuel rest hfuel
  obtain ⟨k, rfl⟩ : ∃ k, fuel = k + 1 := ⟨fuel - 1, by omega⟩
  rw [writeItems, List.flatMap_append, h.flatMap_blanks (hspacing.outer depth),
    draftItems_append (hspacing.outer depth), h.flatMap_cons (by decide), draftItems_close]
  rfl

/-- Items come back if the first of them and the others do. -/
theorem itemsDraftBack_cons (h : Respelling spell) (hspacing : spacing.Blank) {item : Json}
    {items : List Json} (hitem : DraftsBack spell spacing (depth + 1) item)
    (hitems : ItemsDraftBack spell spacing depth items) :
    ItemsDraftBack spell spacing depth (item :: items) := by
  intro fuel rest hfuel
  rw [writeItems, List.cons_append, h.flatMap_cons (by decide), List.flatMap_append,
    h.flatMap_blanks (hspacing.inner depth)] at hfuel ⊢
  rw [List.length_cons, List.length_append] at hfuel
  obtain ⟨k, rfl⟩ : ∃ k, fuel = k + 1 := ⟨fuel - 1, by omega⟩
  rw [draftItems_comma (hspacing.inner depth) (startsValue_write h ..)]
  exact draftItem_written h hspacing hitem hitems (by omega)

theorem draftsBack_obj_nil (h : Respelling spell) : DraftsBack spell spacing depth (.obj []) := by
  intro fuel rest _ hfuel
  rw [write, h.flatMap_cons (by decide), h.flatMap_cons (by decide)] at hfuel ⊢
  rw [List.length_cons, List.length_cons] at hfuel
  obtain ⟨k, rfl⟩ : ∃ k, fuel = k + 2 := ⟨fuel - 2, by omega⟩
  exact draftValue_object (draftMembers_close k true _)

/-- An object comes back if its first value and the other members do. -/
theorem draftsBack_obj_cons (h : Respelling spell) (hspacing : spacing.Blank) {key : String}
    {value : Json} {members : List (String × Json)}
    (hvalue : DraftsBack spell spacing (depth + 1) value)
    (hmembers : MembersDraftBack spell spacing depth members) :
    DraftsBack spell spacing depth (.obj ((key, value) :: members)) := by
  intro fuel rest _ hfuel
  rw [write, List.cons_append, h.flatMap_cons (by decide), List.flatMap_append,
    h.flatMap_blanks (hspacing.inner depth), flatMap_member h hspacing] at hfuel ⊢
  simp only [List.length_cons, List.length_append] at hfuel
  obtain ⟨k, rfl⟩ : ∃ k, fuel = k + 2 := ⟨fuel - 2, by omega⟩
  refine draftValue_object ?_
  rw [draftMembers_append (hspacing.inner depth), draftMembers_first]
  exact draftMember_written h hspacing hvalue hmembers (by omega)

/-- Behind the last member stands the closing brace. -/
theorem membersDraftBack_nil (h : Respelling spell) (hspacing : spacing.Blank) :
    MembersDraftBack spell spacing depth [] := by
  intro fuel rest hfuel
  obtain ⟨k, rfl⟩ : ∃ k, fuel = k + 1 := ⟨fuel - 1, by omega⟩
  rw [writeMembers, List.flatMap_append, h.flatMap_blanks (hspacing.outer depth),
    draftMembers_append (hspacing.outer depth), h.flatMap_cons (by decide), draftMembers_close]
  rfl

/-- Members come back if the first value and the others do. -/
theorem membersDraftBack_cons (h : Respelling spell) (hspacing : spacing.Blank) {key : String}
    {value : Json} {members : List (String × Json)}
    (hvalue : DraftsBack spell spacing (depth + 1) value)
    (hmembers : MembersDraftBack spell spacing depth members) :
    MembersDraftBack spell spacing depth ((key, value) :: members) := by
  intro fuel rest hfuel
  rw [writeMembers, List.cons_append, h.flatMap_cons (by decide), List.flatMap_append,
    h.flatMap_blanks (hspacing.inner depth), flatMap_member h hspacing] at hfuel ⊢
  simp only [List.length_cons, List.length_append] at hfuel
  obtain ⟨k, rfl⟩ : ∃ k, fuel = k + 1 := ⟨fuel - 1, by omega⟩
  rw [draftMembers_comma (hspacing.inner depth)]
  exact draftMember_written h hspacing hvalue hmembers (by omega)

mutual

/-- Every value comes back, by induction on the value with its items and members. -/
theorem draftsBack (h : Respelling spell) (hspacing : spacing.Blank) (depth : Nat) (j : Json) :
    DraftsBack spell spacing depth j := by
  match j with
  | .null => exact draftsBack_null h
  | .bool b => exact draftsBack_bool h b
  | .int n => exact draftsBack_int h n
  | .float x => exact draftsBack_float h x
  | .str s => exact draftsBack_str h s
  | .arr [] => exact draftsBack_arr_nil h
  | .arr (item :: items) =>
    exact draftsBack_arr_cons h hspacing (draftsBack h hspacing (depth + 1) item)
      (itemsDraftBack h hspacing depth items)
  | .obj [] => exact draftsBack_obj_nil h
  | .obj ((key, value) :: members) =>
    exact draftsBack_obj_cons h hspacing (draftsBack h hspacing (depth + 1) value)
      (membersDraftBack h hspacing depth members)

/-- All items of an array come back. -/
theorem itemsDraftBack (h : Respelling spell) (hspacing : spacing.Blank) (depth : Nat)
    (items : List Json) : ItemsDraftBack spell spacing depth items := by
  match items with
  | [] => exact itemsDraftBack_nil h hspacing
  | item :: items =>
    exact itemsDraftBack_cons h hspacing (draftsBack h hspacing (depth + 1) item)
      (itemsDraftBack h hspacing depth items)

/-- All members of an object come back. -/
theorem membersDraftBack (h : Respelling spell) (hspacing : spacing.Blank) (depth : Nat)
    (members : List (String × Json)) : MembersDraftBack spell spacing depth members := by
  match members with
  | [] => exact membersDraftBack_nil h hspacing
  | (key, value) :: members =>
    exact membersDraftBack_cons h hspacing (draftsBack h hspacing (depth + 1) value)
      (membersDraftBack h hspacing depth members)

end

/-! ## Texts -/

/-- **Every reader gets the written value**, whatever the blanks and the spelling are. -/
theorem readText_respelled {α : Type} (h : Respelling spell) (hspacing : spacing.Blank)
    (read : Reader α) (j : Json) :
    readText read (String.ofList ((write spacing 0 [] j).flatMap spell)) = read 0 (.written j) := by
  have hdraft : draft ((write spacing 0 [] j).flatMap spell) = (.written j, some []) :=
    draftsBack h hspacing 0 j _ [] endsNumber_nil (by omega)
  rw [readText, String.toList_ofList, hdraft]
  show (do let a ← read 0 (.written j); if skipSpacing [] = [] then .ok a else .error .malformed)
      = _
  cases read 0 (.written j) with
  | ok a => rfl
  | error f => rfl

end

/-- Reading a written value is reading its draft, whatever the reader. -/
theorem readText_write {α : Type} {spacing : Spacing} (hspacing : spacing.Blank) (read : Reader α)
    (j : Json) :
    readText read (String.ofList (write spacing 0 [] j)) = read 0 (.written j) := by
  have hread := readText_respelled respelling_pure hspacing read j
  rwa [List.flatMap_singleton'] at hread

/-- The same for the compact form. -/
theorem readText_compact {α : Type} (read : Reader α) (j : Json) :
    readText read (compact j) = read 0 (.written j) :=
  readText_write Spacing.blank_none read j

/-- The same for the form over several lines. -/
theorem readText_pretty {α : Type} (read : Reader α) (j : Json) :
    readText read (pretty j) = read 0 (.written j) :=
  readText_write Spacing.blank_lines read j

end PageLang.Json
