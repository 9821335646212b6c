import PageLang.Text.Search

/-!
# Escaped text

Text in markup must not be taken for markup: the five characters that could are written as
entities, in texts and in attribute values alike. They are replaced one after the other in the
whole text, which comes to the same as writing every character by itself:

> `escape_eq`: an escaped text is the text with `entity` applied to each of its characters.

`escape` is `escape_html`.
-/

namespace PageLang.Markup

open Text (replaceChar)

/-- The characters that could be taken for markup and their entities, in the order in which they are
replaced. The ampersand is the first, because every entity has one. -/
def replacements : List (Char × List Char) := [
  ('&', "&amp;".toList), ('<', "&lt;".toList), ('>', "&gt;".toList), ('"', "&quot;".toList),
  ('\x27', "&#39;".toList)]

/-- The text after the replacements of a table, each made in what those before it have left. -/
def replaceInTurn (table : List (Char × List Char)) (cs : List Char) : List Char :=
  table.foldl (fun cs r => replaceChar r.1 r.2 cs) cs

/-- How a text is written in markup. -/
def escape (text : String) : String := String.ofList (replaceInTurn replacements text.toList)

/-- How a character is written in markup. -/
def entity : Char → List Char
  | '&' => "&amp;".toList
  | '<' => "&lt;".toList
  | '>' => "&gt;".toList
  | '"' => "&quot;".toList
  | '\x27' => "&#39;".toList
  | c => [c]

/-- What is written for a character can be replaced in its place. -/
theorem replaceInTurn_flatMap (table : List (Char × List Char)) (f : Char → List Char)
    (cs : List Char) :
    replaceInTurn table (cs.flatMap f) = cs.flatMap fun c => replaceInTurn table (f c) := by
  induction table generalizing f with
  | nil => rfl
  | cons r table ih =>
    have hfirst : replaceChar r.1 r.2 (cs.flatMap f) = cs.flatMap fun c =>
        replaceChar r.1 r.2 (f c) :=
      List.flatMap_assoc
    show replaceInTurn table (replaceChar r.1 r.2 (cs.flatMap f)) = _
    rw [hfirst, ih]
    rfl

/-- Whatever the table and its order are, every character goes its own way. -/
theorem replaceInTurn_eq_flatMap (table : List (Char × List Char)) (cs : List Char) :
    replaceInTurn table cs = cs.flatMap fun c => replaceInTurn table [c] := by
  have h := replaceInTurn_flatMap table (fun c => [c]) cs
  rwa [List.flatMap_singleton'] at h

theorem replaceInTurn_of_not_mem {table : List (Char × List Char)} {c : Char}
    (h : ∀ r ∈ table, c ≠ r.1) : replaceInTurn table [c] = [c] := by
  induction table with
  | nil => rfl
  | cons r table ih =>
    obtain ⟨hc, htable⟩ := List.forall_mem_cons.mp h
    have hkept : replaceChar r.1 r.2 [c] = [c] := by simp [replaceChar, hc]
    show replaceInTurn table (replaceChar r.1 r.2 [c]) = [c]
    rw [hkept, ih htable]

/-- No replacement touches the entity that an earlier one has written. -/
theorem replaceInTurn_replacements (c : Char) : replaceInTurn replacements [c] = entity c := by
  unfold entity
  split
  · rfl
  · rfl
  · rfl
  · rfl
  · rfl
  · next hamp hlt hgt hquot hapos =>
    refine replaceInTurn_of_not_mem ?_
    simp only [replacements, List.forall_mem_cons]
    exact ⟨hamp, hlt, hgt, hquot, hapos, by simp⟩

theorem escape_eq (text : String) : escape text = String.ofList (text.toList.flatMap entity) := by
  rw [escape, replaceInTurn_eq_flatMap]
  simp only [replaceInTurn_replacements]

theorem escape_append (s t : String) : escape (s ++ t) = escape s ++ escape t := by
  rw [escape_eq, escape_eq, escape_eq, String.toList_append, List.flatMap_append,
    String.ofList_append]

/-- An attribute with its value escaped, and a blank before it. -/
def attr (name value : String) : String := " " ++ name ++ "=\"" ++ escape value ++ "\""

end PageLang.Markup
