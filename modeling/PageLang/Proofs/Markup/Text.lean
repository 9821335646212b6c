import PageLang.Markup.Escape
import PageLang.Markup.Marker

/-!
# Texts in markup

What escaping and filling do to a text as a whole. An escaped text is `Safe`: none of the
characters that markup is made of is left in it, and an ampersand only starts one of the five
entities. The pieces of a text put together are the text, so a text whose markers name nothing is
filled to itself. Whoever reads the value of an attribute up to the closing quote and decodes its
entities has the text that was escaped.
-/

namespace PageLang.Markup

/-! ## Safety -/

/-- The characters that may not stand in a text or an attribute value as they are. -/
def rawCharacters : List Char := ['<', '>', '"', '\x27']

/-- The entities that escaping writes. -/
def entities : List String := ["&amp;", "&lt;", "&gt;", "&quot;", "&#39;"]

/-- No raw character, and every ampersand starts an entity. -/
structure Safe (text : String) : Prop where
  noRaw : ∀ c ∈ rawCharacters, c ∉ text.toList
  ampersand : ∀ before after, text.toList = before ++ '&' :: after →
    ∃ e ∈ entities, e.toList <+: '&' :: after

theorem safe_empty : Safe "" where
  noRaw c _ := by simp
  ampersand before after h := by simp at h

/-- Safe texts can be put behind each other. -/
theorem Safe.append {t u : String} (ht : Safe t) (hu : Safe u) : Safe (t ++ u) where
  noRaw c hc := by
    rw [String.toList_append, List.mem_append, not_or]
    exact ⟨ht.noRaw c hc, hu.noRaw c hc⟩
  ampersand before after h := by
    rw [String.toList_append] at h
    -- The ampersand stands in `t` or in `u`.
    rcases List.append_eq_append_iff.mp h with ⟨mid, hbefore, hmid⟩ | ⟨mid, hbefore, hmid⟩
    · exact hu.ampersand mid after hmid
    · cases mid with
      | nil => exact hu.ampersand [] after (by simpa using hmid.symm)
      | cons c mid =>
        obtain ⟨rfl, rfl⟩ := List.cons.inj hmid
        obtain ⟨e, he, hpre⟩ := ht.ampersand before mid hbefore
        refine ⟨e, he, hpre.trans ?_⟩
        exact ⟨u.toList, rfl⟩

/-- Whether a character means nothing in markup. -/
def isPlain (c : Char) : Bool := !('&' :: rawCharacters).contains c

theorem isPlain_iff {c : Char} : isPlain c = true ↔ c ≠ '&' ∧ c ∉ rawCharacters := by
  simp [isPlain]

/-- A text with no special character is safe. -/
theorem safe_of_plain {text : String} (h : text.toList.all isPlain = true) : Safe text where
  noRaw c hc hmem := (isPlain_iff.mp (List.all_eq_true.mp h c hmem)).2 hc
  ampersand before after heq := by
    have hmem : '&' ∈ text.toList := by rw [heq]; simp
    exact absurd rfl (isPlain_iff.mp (List.all_eq_true.mp h '&' hmem)).1

/-- So is an entity. -/
theorem safe_entity {e : String} (he : e ∈ entities) {tail : List Char} (h : e.toList = '&' :: tail)
    (htail : tail.all isPlain = true) : Safe e where
  noRaw c hc hmem := by
    rw [h] at hmem
    rcases List.mem_cons.mp hmem with rfl | hmem
    · exact absurd hc (by decide)
    · exact (isPlain_iff.mp (List.all_eq_true.mp htail c hmem)).2 hc
  ampersand before after heq := by
    refine ⟨e, he, ?_⟩
    rw [h] at heq ⊢
    cases before with
    | nil => exact ⟨[], by simpa using heq⟩
    | cons c before =>
      -- A second ampersand is not in the entity.
      obtain ⟨-, htail'⟩ := List.cons.inj heq
      have hmem : '&' ∈ tail := by rw [htail']; simp
      exact absurd rfl (isPlain_iff.mp (List.all_eq_true.mp htail '&' hmem)).1

/-- So is a character as it is escaped. -/
theorem safe_entity_char (c : Char) : Safe (String.ofList (entity c)) := by
  unfold entity
  split
  · exact safe_entity (by decide) rfl (by decide)
  · exact safe_entity (by decide) rfl (by decide)
  · exact safe_entity (by decide) rfl (by decide)
  · exact safe_entity (by decide) rfl (by decide)
  · exact safe_entity (by decide) rfl (by decide)
  · next hamp hlt hgt hquot hapos =>
    apply safe_of_plain
    rw [String.toList_ofList, List.all_cons, List.all_nil, Bool.and_true, isPlain_iff]
    simp only [rawCharacters, List.mem_cons, List.not_mem_nil, or_false, not_or]
    exact ⟨hamp, hlt, hgt, hquot, hapos⟩

/-- **An escaped text is safe.** -/
theorem safe_escape (text : String) : Safe (escape text) := by
  rw [escape_eq]
  induction text.toList with
  | nil => exact safe_empty
  | cons c cs ih =>
    rw [List.flatMap_cons, String.ofList_append]
    exact (safe_entity_char c).append ih

/-! ## Filling -/

/-- A piece as it is written. -/
def Piece.source : Piece → String
  | .char c => c.toString
  | .marker name => Markup.marker name

/-- A marker is a name in braces. -/
theorem markerName?_eq_some {cs name : List Char} (h : markerName? cs = some name) :
    ∃ rest, cs = '\x7b' :: (name ++ '\x7d' :: rest) := by
  unfold markerName? at h
  split at h
  · next c rest =>
    dsimp only at h
    split at h
    · next hcond =>
      cases h
      rw [Bool.and_eq_true, decide_eq_true_eq] at hcond
      cases hdrop : rest.dropWhile Text.isNameChar with
      | nil =>
        rw [hdrop] at hcond
        exact absurd hcond.2 (by simp)
      | cons d tail =>
        rw [hdrop] at hcond
        obtain rfl : d = '\x7d' := Option.some.inj hcond.2
        refine ⟨tail, ?_⟩
        rw [List.cons_append, ← hdrop, List.takeWhile_append_dropWhile]
    · cases h
  · cases h

/-- The pieces of a text put together are the text. -/
theorem join_source_pieces (cs : List Char) :
    String.join ((pieces cs).map Piece.source) = String.ofList cs := by
  fun_induction pieces cs with
  | case1 => rfl
  | case2 c rest name hname ih =>
    obtain ⟨tail, hcs⟩ := markerName?_eq_some hname
    obtain ⟨rfl, rfl⟩ := List.cons.inj hcs
    have hdrop : (name ++ '\x7d' :: tail).drop (name.length + 1) = tail :=
      List.drop_length_add_append 1
    rw [hdrop] at ih
    rw [hdrop, List.map_cons, String.join_cons, ih]
    simp only [Piece.source, marker, String.ofList_cons, String.ofList_append, String.append_assoc]
    rfl
  | case3 c rest hnone ih =>
    rw [List.map_cons, String.join_cons, ih, String.ofList_cons]
    rfl

/-- A text none of whose markers names an entry is filled to itself. -/
theorem fill_eq_self {s : State} {text : String}
    (h : ∀ name ∈ markerNames text, s.get? name = none) : fill s text = text := by
  have hpieces : ∀ p ∈ pieces text.toList, p.fill s = p.source := by
    intro p hp
    cases p with
    | char c => rfl
    | marker name =>
      have hname : name ∈ markerNames text := List.mem_filterMap.mpr ⟨.marker name, hp, rfl⟩
      rw [Piece.fill, h name hname]
      rfl
  unfold fill
  rw [List.map_congr_left hpieces, join_source_pieces, String.ofList_toList]

/-- Texts are escaped one by one. -/
theorem escape_join (texts : List String) :
    escape (String.join texts) = String.join (texts.map escape) := by
  induction texts with
  | nil => rfl
  | cons t ts ih => rw [List.map_cons, String.join_cons, String.join_cons, escape_append, ih]

/-! ## Reading an attribute -/

/-- A text with its entities decoded. -/
def decode : List Char → List Char
  | '&' :: 'a' :: 'm' :: 'p' :: ';' :: cs => '&' :: decode cs
  | '&' :: 'l' :: 't' :: ';' :: cs => '<' :: decode cs
  | '&' :: 'g' :: 't' :: ';' :: cs => '>' :: decode cs
  | '&' :: 'q' :: 'u' :: 'o' :: 't' :: ';' :: cs => '"' :: decode cs
  | '&' :: '#' :: '3' :: '9' :: ';' :: cs => '\x27' :: decode cs
  | c :: cs => c :: decode cs
  | [] => []

theorem decode_cons {c : Char} (h : c ≠ '&') (cs : List Char) :
    decode (c :: cs) = c :: decode cs := by
  rw [decode] <;> simp_all

/-- An escaped character is decoded to itself. -/
theorem decode_entity_append (c : Char) (cs : List Char) :
    decode (entity c ++ cs) = c :: decode cs := by
  unfold entity
  split
  · rfl
  · rfl
  · rfl
  · rfl
  · rfl
  · next hamp _ _ _ _ => exact decode_cons hamp cs

/-- Decoding undoes escaping. -/
theorem decode_escape (text : String) : decode (escape text).toList = text.toList := by
  rw [escape_eq, String.toList_ofList]
  induction text.toList with
  | nil => rfl
  | cons c cs ih => rw [List.flatMap_cons, decode_entity_append, ih]

/-- **Escaping writes every character by itself, and it can be undone.** The five replacements,
each made in what those before it have left, come to the same as writing the entity of every
character; so a joined text is escaped part by part, nothing in an escaped text can be taken for
markup, and one pass that decodes the entities gives the text back. -/
theorem escape_reversible (text more : String) :
    escape text = String.ofList (text.toList.flatMap entity)
      ∧ escape (text ++ more) = escape text ++ escape more
      ∧ Safe (escape text)
      ∧ decode (escape text).toList = text.toList :=
  ⟨escape_eq text, escape_append text more, safe_escape text, decode_escape text⟩

/-- The value of an attribute, of which all that follows the opening quote is given. -/
def attributeValue (text : String) : String :=
  String.ofList (decode (text.toList.takeWhile (· ≠ '"')))

/-- The value of an attribute is read as it was before it was escaped. -/
theorem attributeValue_escape (value rest : String) :
    attributeValue (escape value ++ "\"" ++ rest) = value := by
  have hquote : ∀ c ∈ (escape value).toList, decide (c ≠ '"') = true := by
    intro c hc
    refine decide_eq_true fun heq => (safe_escape value).noRaw '"' (by decide) ?_
    rwa [heq] at hc
  have htake : (escape value ++ "\"" ++ rest).toList.takeWhile (· ≠ '"')
      = (escape value).toList := by
    rw [String.append_assoc, String.toList_append, List.takeWhile_append_of_pos hquote]
    simp [String.toList_append]
  rw [attributeValue, htake, decode_escape, String.ofList_toList]

/-! ## Parts of a text -/

/-- A text stands somewhere in another one. -/
def Within (inner outer : String) : Prop := ∃ before after, outer = before ++ inner ++ after

theorem Within.refl (text : String) : Within text text := ⟨"", "", by simp⟩

theorem within_append_left (inner after : String) : Within inner (inner ++ after) :=
  ⟨"", after, by rw [String.empty_append]⟩

theorem within_append_right (before inner : String) : Within inner (before ++ inner) :=
  ⟨before, "", by rw [String.append_empty]⟩

theorem within_empty (outer : String) : Within "" outer := ⟨"", outer, by simp⟩

/-- What is within a part is within the whole. -/
theorem Within.trans {inner middle outer : String} (h : Within inner middle)
    (h' : Within middle outer) : Within inner outer := by
  obtain ⟨before, after, rfl⟩ := h
  obtain ⟨before', after', rfl⟩ := h'
  exact ⟨before' ++ before, after ++ after', by simp only [String.append_assoc]⟩

end PageLang.Markup
