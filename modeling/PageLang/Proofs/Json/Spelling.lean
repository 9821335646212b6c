import PageLang.Json.Draft
import PageLang.Json.Printer

/-!
# Strings in JSON text

A written string is scanned character by character: each is a short escape, an escape by its
number or the character itself, and every such piece stands for the character that was written.
Nothing changes when `<`, `>` and `&` are spelled as escapes afterwards, as they have to be inside
a script element.

> `scanString_written`: a string is read back, whatever its characters are and however they are
> spelled.
-/

namespace PageLang.Json

/-! ## Respelled texts -/

/-- The characters that may be respelled. -/
def markupCharacters : List Char := ['<', '>', '&']

/-- The escape of a character below U+0100 by its number. -/
def unitEscape (c : Char) : List Char := ['\\', 'u', '0', '0'] ++ hexPair c.toNat

/-- A way to spell the characters of a text: as they are, except that `<`, `>` and `&` may be
escaped. -/
structure Respelling (spell : Char → List Char) : Prop where
  plain : ∀ c, c ∉ markupCharacters → spell c = [c]
  markup : ∀ c ∈ markupCharacters, spell c = [c] ∨ spell c = unitEscape c

theorem respelling_pure : Respelling fun c => [c] where
  plain _ _ := rfl
  markup _ _ := .inl rfl

namespace Respelling

variable {spell : Char → List Char}

theorem flatMap_cons (h : Respelling spell) {c : Char} (hc : c ∉ markupCharacters)
    (cs : List Char) : (c :: cs).flatMap spell = c :: cs.flatMap spell := by
  rw [List.flatMap_cons, h.plain c hc, List.singleton_append]

/-- A text without markup characters is spelled as it is. -/
theorem flatMap_plain (h : Respelling spell) {cs : List Char}
    (hcs : ∀ c ∈ cs, c ∉ markupCharacters) : cs.flatMap spell = cs := by
  induction cs with
  | nil => rfl
  | cons c cs ih =>
    rw [h.flatMap_cons (hcs c List.mem_cons_self), ih fun d hd => hcs d (List.mem_cons_of_mem c hd)]

/-- Characters of a class without those that are respelled stay as they are. -/
theorem flatMap_class (h : Respelling spell) {p : Char → Bool}
    (hp : markupCharacters.all (fun c => !p c) = true) {cs : List Char}
    (hcs : ∀ c ∈ cs, p c = true) : cs.flatMap spell = cs := by
  apply h.flatMap_plain
  intro c hc hmarkup
  have hnot := List.all_eq_true.mp hp c hmarkup
  rw [hcs c hc] at hnot
  cases hnot

end Respelling

/-! ## Strings -/

/-- What a piece of a string stands for: itself, or the character of its number. -/
inductive Piece.Spells : Piece → Char → Prop
  | char (c : Char) : Spells (.char c) c
  | unit {c : Char} (h : c.toNat < 128) : Spells (.unit c.toNat) c

/-- A piece that spells a character adds it in front. -/
theorem joinPieces_cons {p : Piece} {c : Char} (h : p.Spells c) (ending : Option Fault)
    (ps : List Piece) : joinPieces ending (p :: ps) = (c :: ·) <$> joinPieces ending ps := by
  cases h with
  | char c => rw [joinPieces]
  | unit hc =>
    -- A number below 128 is no half of a pair.
    have hlow : isLowHalf c.toNat = false := by
      rw [isLowHalf, Bool.and_eq_false_iff]
      exact .inl (decide_eq_false (by omega))
    have hhigh : isHighHalf c.toNat = false := by
      rw [isHighHalf, Bool.and_eq_false_iff]
      exact .inl (decide_eq_false (by omega))
    rw [joinPieces.eq_def]
    simp only [hlow, hhigh, Char.ofNat_toNat]
    rfl

theorem hexFour?_hexPair :
    ∀ n < 128, hexFour? '0' '0' (Nat.digitChar (n / 16 % 16))
      (Nat.digitChar (n % 16)) = some n := by
  decide

/-- An escape by number is one piece. -/
theorem scanPieces_unitEscape {c : Char} (h : c.toNat < 128) (cs : List Char) :
    scanPieces (unitEscape c ++ cs) = (.unit c.toNat :: (scanPieces cs).1, (scanPieces cs).2) := by
  show scanPieces ('\\' :: 'u' :: '0' :: '0' :: _ :: _ :: cs) = _
  rw [scanPieces, hexFour?_hexPair c.toNat h]

/-- So is an escape by letter. -/
theorem scanPieces_escape {letter c : Char} (hletter : letter ≠ 'u') (h : unescape? letter = some c)
    (cs : List Char) :
    scanPieces ('\\' :: letter :: cs) = (.char c :: (scanPieces cs).1, (scanPieces cs).2) := by
  rw [scanPieces, h]
  · exact fun _ _ _ _ _ hu => absurd hu hletter
  · exact fun hu => absurd hu hletter

/-- So is a character that needs no escape. -/
theorem scanPieces_char {c : Char} (hquote : c ≠ '"') (hslash : c ≠ '\\')
    (hcontrol : ¬ c.toNat < 0x20) (cs : List Char) :
    scanPieces (c :: cs) = (.char c :: (scanPieces cs).1, (scanPieces cs).2) := by
  rw [scanPieces, if_neg hcontrol]
  · exact hquote
  · exact fun _ _ _ _ _ heq => absurd heq hslash
  · exact fun _ heq => absurd heq hslash
  · exact fun heq => absurd heq hslash
  · exact fun _ _ heq => absurd heq hslash

/-- The letters of the short escapes. -/
def escapeLetters : List Char := ['"', '\\', 'b', 't', 'n', 'f', 'r']

/-- How a character is written: as a short escape, by its number, or as it is. -/
theorem escapeChar_cases (c : Char) :
    (∃ letter ∈ escapeLetters, unescape? letter = some c ∧ escapeChar c = ['\\', letter])
      ∨ (c.toNat < 0x20 ∧ escapeChar c = unitEscape c)
      ∨ (c ≠ '"' ∧ c ≠ '\\' ∧ ¬ c.toNat < 0x20 ∧ escapeChar c = [c]) := by
  rw [escapeChar]
  split
  · next hc => exact .inl ⟨'"', by decide, by rw [hc]; rfl, rfl⟩
  split
  · next hc => exact .inl ⟨'\\', by decide, by rw [hc]; rfl, rfl⟩
  split
  · next hc => exact .inl ⟨'b', by decide, by rw [hc]; rfl, rfl⟩
  split
  · next hc => exact .inl ⟨'t', by decide, by rw [hc]; rfl, rfl⟩
  split
  · next hc => exact .inl ⟨'n', by decide, by rw [hc]; rfl, rfl⟩
  split
  · next hc => exact .inl ⟨'f', by decide, by rw [hc]; rfl, rfl⟩
  split
  · next hc => exact .inl ⟨'r', by decide, by rw [hc]; rfl, rfl⟩
  split
  · next hc => exact .inr (.inl ⟨hc, rfl⟩)
  · next hquote hslash _ _ _ _ _ hc => exact .inr (.inr ⟨hquote, hslash, hc, rfl⟩)

/-- An escape by number has no markup characters. -/
theorem flatMap_unitEscape {spell : Char → List Char} (h : Respelling spell) {c : Char}
    (hc : c.toNat < 128) : (unitEscape c).flatMap spell = unitEscape c := by
  have hall :
      ∀ n < 128, (['\\', 'u', '0', '0'] ++ hexPair n).all (fun c => !markupCharacters.contains c)
          = true := by
    decide
  exact h.flatMap_class (by decide) (List.all_eq_true.mp (hall c.toNat hc))

/-- A written character is scanned as a piece that stands for it. -/
theorem scanPieces_escapeChar {spell : Char → List Char} (h : Respelling spell) (c : Char)
    (cs : List Char) : ∃ p : Piece, p.Spells c
      ∧ scanPieces ((escapeChar c).flatMap spell ++ cs) = (p :: (scanPieces cs).1,
        (scanPieces cs).2) := by
  rcases escapeChar_cases c with ⟨letter, hmem, hletter, heq⟩ | ⟨hcontrol, heq⟩
    | ⟨hquote, hslash, hcontrol, heq⟩
  · have hplain : letter ∉ markupCharacters ∧ letter ≠ 'u' := by
      have hall : escapeLetters.all (fun c => !markupCharacters.contains c && c != 'u') = true := by
        decide
      simpa using List.all_eq_true.mp hall letter hmem
    refine ⟨.char c, .char c, ?_⟩
    rw [heq, h.flatMap_cons (by decide), h.flatMap_cons hplain.1]
    exact scanPieces_escape hplain.2 hletter cs
  · have hlt : c.toNat < 128 := by omega
    refine ⟨.unit c.toNat, .unit hlt, ?_⟩
    rw [heq, flatMap_unitEscape h hlt]
    exact scanPieces_unitEscape hlt cs
  · have hself := scanPieces_char hquote hslash hcontrol cs
    rw [heq, List.flatMap_singleton]
    by_cases hc : c ∈ markupCharacters
    · rcases h.markup c hc with hspell | hspell
      · exact ⟨.char c, .char c, by rw [hspell]; exact hself⟩
      · have hlt : c.toNat < 128 := by
          have hall : markupCharacters.all (fun c => c.toNat < 128) = true := by decide
          simpa using List.all_eq_true.mp hall c hc
        exact ⟨.unit c.toNat, .unit hlt, by rw [hspell]; exact scanPieces_unitEscape hlt cs⟩
    · exact ⟨.char c, .char c, by rw [h.plain c hc]; exact hself⟩

/-- A string is read back, whatever its characters are and however they are spelled. -/
theorem scanString_written {spell : Char → List Char} (h : Respelling spell) (s rest : List Char) :
    scanString ((s.flatMap escapeChar).flatMap spell ++ '"' :: rest) = ⟨.ok s, .ok rest⟩ := by
  have hpieces :
      ∃ ps, scanPieces ((s.flatMap escapeChar).flatMap spell ++ '"' :: rest) = (ps, .ok rest)
      ∧ joinPieces none ps = .ok s := by
    induction s with
    | nil =>
      exact ⟨[], by rw [List.flatMap_nil, List.flatMap_nil, List.nil_append, scanPieces], rfl⟩
    | cons c s ih =>
      obtain ⟨ps, hscan, hjoin⟩ := ih
      obtain ⟨p, hp, hhead⟩ :=
        scanPieces_escapeChar h c ((s.flatMap escapeChar).flatMap spell ++ '"' :: rest)
      rw [hscan] at hhead
      refine ⟨p :: ps, ?_, ?_⟩
      · rw [List.flatMap_cons, List.flatMap_append, List.append_assoc, hhead]
      · rw [joinPieces_cons hp, hjoin]
        rfl
  obtain ⟨ps, hscan, hjoin⟩ := hpieces
  rw [scanString, hscan]
  dsimp only
  rw [hjoin]

end PageLang.Json
