import Mathlib.Data.List.Basic
import PageLang.Proofs.Properties.Scan

/-!
# Writing properties and reading them back

A `Listing` is what stands after the tag of a line, before it is written: a pair, further pairs
and pieces that are no pairs, and perhaps content. Written with commas between the items and a
colon before the content, it is read back as it was meant, however many items there are and
whatever the content holds:

> `ofText_write`: the pairs are inserted in their order, the other pieces are set aside in theirs,
> and the content is the content.

The reader starts anew at every item, so one step per item carries the induction (`addPairs_items`).
-/

namespace PageLang.Properties

open Text (isQuote isBlank trim trimStart stripQuotes? stored)

/-! ## Items -/

/-- A text that can stand as a value: it begins and ends with no blank, closes what it opens, and
has no comma and no colon outside quotes and brackets. -/
structure Clean (text : List Char) : Prop where
  ne_nil : text ≠ []
  trimmed : trim text = text
  isSealed : Sealed isSeparator text

/-- A text that begins and ends with the same quote. -/
def IsQuoted (text : List Char) : Prop :=
  ∃ q, isQuote q = true ∧ text.head? = some q ∧ text.getLast? = some q

instance (text : List Char) : Decidable (IsQuoted text) :=
  decidable_of_iff (text.head?.any isQuote = true ∧ text.head? = text.getLast?) <| by
    constructor
    · rintro ⟨hany, hlast⟩
      cases hhead : text.head? with
      | none =>
        rw [hhead] at hany
        cases hany
      | some q =>
        rw [hhead] at hany hlast
        exact ⟨q, hany, hhead, hlast.symm⟩
    · rintro ⟨q, hq, hhead, hlast⟩
      rw [hhead, hlast]
      exact ⟨hq, rfl⟩

/-- A value: one that is written as it stands, or one that is written between double quotes. -/
inductive PairValue where
  | plain (text : List Char) (clean : Clean text) (unquoted : ¬ IsQuoted text)
  | quoted (text : List Char) (ne_nil : text ≠ []) (noQuote : '"' ∉ text)

namespace PairValue

/-- The value. -/
def text : PairValue → List Char
  | plain text _ _ => text
  | quoted text _ _ => text

/-- How a value is written. -/
def write : PairValue → List Char
  | plain text _ _ => text
  | quoted text _ _ => '"' :: text ++ ['"']

end PairValue

/-- A key with its value. -/
structure Pair where
  key : List Char
  isKey : IsKey key
  value : PairValue

/-- How a pair is written. -/
def Pair.write (pair : Pair) : List Char := pair.key ++ ':' :: ' ' :: pair.value.write

/-- What may stand among pairs and is none. -/
structure Junk where
  text : List Char
  ne_nil : text ≠ []
  trimmed : trim text = text
  noColon : text.head? ≠ some ':'
  noPair : ¬ ReadsAsPair text
  isSealed : Sealed (· = ',') text

/-- An item of a list of properties. -/
inductive Item where
  | pair (pair : Pair)
  | junk (junk : Junk)

namespace Item

/-- How an item is written. -/
def write : Item → List Char
  | .pair a => a.write
  | .junk j => j.text

/-- Whether an item is a pair. -/
def isPair : Item → Bool
  | .pair _ => true
  | .junk _ => false

/-- The key and the value of a pair. -/
def entry? : Item → Option (String × String)
  | .pair a => some (String.ofList a.key, String.ofList a.value.text)
  | .junk _ => none

/-- The text of an item that is no pair. -/
def junk? : Item → Option String
  | .pair _ => none
  | .junk j => some (String.ofList j.text)

end Item

/-- Items with commas between them. -/
def writeItems (items : List Item) : List Char := [',', ' '].intercalate (items.map Item.write)

/-- A colon with what follows it, if anything does. -/
def afterColon : Option (List Char) → List Char
  | none => []
  | some text => ':' :: text

/-- What stands after the tag of a line: a pair, further items, and perhaps content, which only a
pair can be followed by. -/
structure Listing where
  first : Pair
  later : List Item
  content : Option (List Char)
  trimmed : ∀ c ∈ content, trim c = c
  afterPair : content.isSome → ∀ item ∈ later.getLast?, item.isPair = true

namespace Listing

/-- The items in their order. -/
def items (l : Listing) : List Item := .pair l.first :: l.later

/-- How a listing is written. -/
def write (l : Listing) : List Char := writeItems l.items ++ afterColon (l.content.map (' ' :: ·))

/-- The keys with their values, in their order. -/
def pairs (l : Listing) : List (String × String) := l.items.filterMap Item.entry?

/-- The items that are no pairs, in their order. -/
def junk (l : Listing) : List String := l.items.filterMap Item.junk?

end Listing

/-! ## Reading one item -/

/-- Quotes are taken off exactly a text that has the same quote at both ends. -/
theorem stripQuotes?_eq_some_iff {text inner : List Char} :
    stripQuotes? text = some inner ↔ ∃ q, isQuote q = true ∧ text = q :: (inner ++ [q]) := by
  constructor
  · intro h
    cases text with
    | nil => cases h
    | cons q rest =>
      rw [stripQuotes?] at h
      split at h
      · next hq =>
        rw [Bool.and_eq_true, decide_eq_true_eq] at hq
        cases h
        exact ⟨q, hq.1, by rw [List.dropLast_append_getLast? q hq.2]⟩
      · cases h
  · rintro ⟨q, hq, rfl⟩
    rw [stripQuotes?, List.getLast?_concat, List.dropLast_concat, hq, decide_eq_true rfl]
    rfl

/-- What is not in quotes has none taken off. -/
theorem stripQuotes?_of_not_isQuoted {text : List Char} (h : ¬ IsQuoted text) :
    stripQuotes? text = none := by
  refine Option.eq_none_iff_forall_ne_some.mpr fun inner hinner => h ?_
  obtain ⟨q, hq, rfl⟩ := stripQuotes?_eq_some_iff.mp hinner
  exact ⟨q, hq, rfl, List.getLast?_concat (l := q :: inner)⟩

namespace PairValue

variable (v : PairValue)

theorem text_ne_nil : v.text ≠ [] := by
  cases v with
  | plain _ clean _ => exact clean.ne_nil
  | quoted _ ne_nil _ => exact ne_nil

theorem write_ne_nil : v.write ≠ [] := by
  cases v with
  | plain _ clean _ => exact clean.ne_nil
  | quoted _ _ _ => exact List.cons_ne_nil _ _

/-- A value is written without blanks around it. -/
theorem trim_write : trim v.write = v.write := by
  cases v with
  | plain _ clean _ => exact clean.trimmed
  | quoted text _ _ =>
    have hblank : isBlank '"' = false := by decide
    refine Text.trim_eq_self (fun c hc => ?_) fun c hc => ?_
    · cases hc
      exact hblank
    · rw [write, List.getLast?_concat] at hc
      cases hc
      exact hblank

/-- Every separator in a written value is inside quotes or brackets. -/
theorem sealed_write : Sealed isSeparator v.write := by
  cases v with
  | plain _ clean _ => exact clean.isSealed
  | quoted _ _ noQuote => exact sealed_quoted separators_isSeparator rfl noQuote

/-- Quotes are taken off where they were put on. -/
theorem strip_write : (stripQuotes? v.write).getD v.write = v.text := by
  cases v with
  | plain _ _ unquoted =>
    rw [write, stripQuotes?_of_not_isQuoted unquoted]
    rfl
  | quoted text _ _ =>
    rw [write, List.cons_append, stripQuotes?_eq_some_iff.mpr ⟨'"', rfl, rfl⟩]
    rfl

end PairValue

/-- The properties after one item more. -/
def Item.add (p : Properties) : Item → Properties
  | .pair a => { p with pairs := p.pairs.insert (String.ofList a.key) (String.ofList a.value.text) }
  | .junk j => { p with skipped := p.skipped ++ [String.ofList j.text] }

/-- A key with a value is entered. -/
theorem put_of_ne_nil {key value : List Char} (p : Properties) (hk : key ≠ [])
    (hv : stored value ≠ []) : p.put key value =
      { p with pairs := p.pairs.insert (String.ofList key) (String.ofList (stored value)) } := by
  unfold put
  exact if_neg (by simp [hk, hv])

/-- A written pair is entered as the pair says. -/
theorem put_write (p : Properties) (a : Pair) :
    p.put a.key (' ' :: a.value.write) = (Item.pair a).add p := by
  have htrim : trim (' ' :: a.value.write) = a.value.write :=
    (Text.trim_blank_cons _).trans a.value.trim_write
  have hstored : stored (' ' :: a.value.write) = a.value.text := by
    rw [stored, htrim, a.value.strip_write]
  rw [put_of_ne_nil p a.isKey.ne_nil (hstored ▸ a.value.text_ne_nil), hstored, Item.add]

/-- A written piece without a key is set aside as it is. -/
theorem setAside_text (p : Properties) (j : Junk) :
    p.setAside (trim j.text) = (Item.junk j).add p := by
  have hkept : (decide (j.text = []) || decide (j.text.head? = some ':')) = false := by
    simp [j.ne_nil, j.noColon]
  rw [j.trimmed, setAside, hkept, if_neg Bool.false_ne_true]
  rfl

/-- A blank before a value adds no separator. -/
theorem sealed_blank_write (v : PairValue) : Sealed isSeparator (' ' :: v.write) :=
  sealed_blank.append v.sealed_write

namespace Item

variable (item : Item)

theorem write_ne_nil : item.write ≠ [] := by
  cases item with
  | pair a => exact List.append_ne_nil_of_left_ne_nil a.isKey.ne_nil _
  | junk j => exact j.ne_nil

/-- No item is written with a blank in front. -/
theorem isBlank_head? : ∀ c ∈ item.write.head?, isBlank c = false := by
  cases item with
  | pair a =>
    intro c hc
    obtain ⟨k, ks, hcons⟩ := List.exists_cons_of_ne_nil a.isKey.ne_nil
    rw [write, Pair.write, hcons] at hc
    cases hc
    exact isBlank_of_isKeyChar (a.isKey.chars c (by simp [hcons]))
  | junk j => exact (Text.trim_eq_self_iff.mp j.trimmed).1

/-- Or with one at its end. -/
theorem isBlank_getLast? : ∀ c ∈ item.write.getLast?, isBlank c = false := by
  cases item with
  | pair a =>
    have hlast : (Item.pair a).write.getLast? = a.value.write.getLast? := by
      show (a.key ++ ([':', ' '] ++ a.value.write)).getLast? = _
      rw [← List.append_assoc, List.getLast?_append_of_ne_nil _ a.value.write_ne_nil]
    rw [hlast]
    exact (Text.trim_eq_self_iff.mp a.value.trim_write).2
  | junk j => exact (Text.trim_eq_self_iff.mp j.trimmed).2

end Item

/-! ## Reading items one after the other -/

theorem writeItems_singleton (a : Item) : writeItems [a] = a.write := by
  simp [writeItems, List.intercalate]

/-- Items are written with a comma and a blank between them. -/
theorem writeItems_cons_cons (a b : Item) (items : List Item) :
    writeItems (a :: b :: items) = a.write ++ ',' :: ' ' :: writeItems (b :: items) := by
  simp [writeItems, List.intercalate]

/-- A list of items begins as its first item does. -/
theorem exists_writeItems_eq (a : Item) (items : List Item) :
    ∃ rest, writeItems (a :: items) = a.write ++ rest := by
  cases items with
  | nil => exact ⟨[], by rw [writeItems_singleton, List.append_nil]⟩
  | cons b items => exact ⟨_, writeItems_cons_cons a b items⟩

/-- No listing is written with a blank in front. -/
theorem isBlank_head?_writeItems (a : Item) (items : List Item) (more : List Char) :
    ∀ c ∈ (writeItems (a :: items) ++ more).head?, isBlank c = false := by
  obtain ⟨rest, hrest⟩ := exists_writeItems_eq a items
  obtain ⟨c, cs, hcons⟩ := List.exists_cons_of_ne_nil a.write_ne_nil
  have hhead := a.isBlank_head?
  rw [hrest, hcons]
  rw [hcons] at hhead
  exact hhead

/-- Or with one at its end. -/
theorem isBlank_getLast?_writeItems (a : Item) (items : List Item) :
    ∀ c ∈ (writeItems (a :: items)).getLast?, isBlank c = false := by
  induction items generalizing a with
  | nil =>
    rw [writeItems_singleton]
    exact a.isBlank_getLast?
  | cons b items ih =>
    have hne : writeItems (b :: items) ≠ [] := by
      obtain ⟨rest, hrest⟩ := exists_writeItems_eq b items
      rw [hrest]
      exact List.append_ne_nil_of_left_ne_nil b.write_ne_nil _
    have hlast : (writeItems (a :: b :: items)).getLast? = (writeItems (b :: items)).getLast? := by
      rw [writeItems_cons_cons]
      show (a.write ++ ([',', ' '] ++ writeItems (b :: items))).getLast? = _
      rw [← List.append_assoc, List.getLast?_append_of_ne_nil _ hne]
    rw [hlast]
    exact ih b

/-- The properties with the content that follows a colon. -/
def withContent (p : Properties) : Option (List Char) → Properties
  | none => p
  | some text => { p with content := String.ofList (trim text) }

/-- After the blank that follows a comma the next item is read from its start. -/
theorem trimStart_next (a : Item) (items : List Item) (more : List Char) :
    trimStart (' ' :: (writeItems (a :: items) ++ more)) = writeItems (a :: items) ++ more :=
  (Text.trimStart_blank_cons _).trans
    (Text.trimStart_eq_self (isBlank_head?_writeItems a items more))

/-- **Items are read one after the other**, from whatever was read before. -/
theorem addPairs_items (tail : Option (List Char)) (items : List Item) (a : Item) (p : Properties)
    (first : Bool) (hfirst : first = true → a.isPair = true)
    (hlast : tail.isSome → ∀ last ∈ (a :: items).getLast?, last.isPair = true) :
    addPairs p first (writeItems (a :: items) ++ afterColon tail)
      = withContent ((a :: items).foldl Item.add p) tail := by
  induction items generalizing a p first with
  | nil =>
    rw [writeItems_singleton, List.foldl_cons, List.foldl_nil]
    cases a with
    | pair a =>
      have hv := sealed_blank_write a.value
      rw [← put_write, Item.write, Pair.write, List.append_assoc]
      cases tail with
      | none =>
        rw [afterColon, List.append_nil]
        exact addPairs_end p first a.isKey hv
      | some text => exact addPairs_colon p first a.isKey hv text
    | junk j =>
      -- A piece that is no pair is neither the first nor followed by content.
      cases first with
      | true => cases hfirst rfl
      | false =>
        cases tail with
        | some text => cases hlast rfl _ rfl
        | none =>
          rw [afterColon, List.append_nil, ← setAside_text]
          exact addPairs_junk_end p j.ne_nil j.noPair j.isSealed
  | cons b items ih =>
    have hrest := ih b (a.add p) false (fun h => nomatch h) hlast
    rw [writeItems_cons_cons, List.foldl_cons, ← hrest, ← trimStart_next]
    cases a with
    | pair a =>
      have hv := sealed_blank_write a.value
      have hread :=
        addPairs_comma p first a.isKey hv (' ' :: (writeItems (b :: items) ++ afterColon tail))
      rw [put_write] at hread
      rw [← hread, Item.write, Pair.write]
      simp only [List.append_assoc, List.cons_append]
    | junk j =>
      cases first with
      | true => cases hfirst rfl
      | false =>
        have hread := addPairs_junk_comma p j.ne_nil j.noPair j.isSealed
          (' ' :: (writeItems (b :: items) ++ afterColon tail))
        rw [setAside_text] at hread
        rw [← hread, Item.write]
        simp only [List.append_assoc, List.cons_append]

/-! ## The whole text -/

/-- A text that starts with a pair is read as pairs. -/
theorem ofText_of_trim {text key region : List Char} (h : trim text = key ++ ':' :: region)
    (hk : IsKey key) : ofText text = addPairs {} true (key ++ ':' :: region) := by
  have hfind : find? (· = ':') (key ++ ':' :: region) = some (key.length, ':') :=
    find?_append_cons separators_colon (hk.sealed _ fun c hc => .inr (of_decide_eq_true hc))
      rfl region
  obtain ⟨k, ks, rfl⟩ := List.exists_cons_of_ne_nil hk.ne_nil
  have hcolon : k ≠ ':' := (isInert_of_isKeyChar (hk.chars k (List.mem_cons_self ..))).2.2
  rw [List.cons_append] at h hfind ⊢
  rw [ofText, h]
  split
  · next heq => cases heq
  · next heq =>
    cases heq
    exact absurd rfl hcolon
  · rw [hfind]
    rfl

/-- What the items of a listing add up to. -/
theorem foldl_add (items : List Item) (p : Properties) :
    items.foldl Item.add p =
      ⟨(items.filterMap Item.entry?).foldl (fun m e => m.insert e.1 e.2) p.pairs, p.content,
        p.skipped ++ items.filterMap Item.junk?⟩ := by
  induction items generalizing p with
  | nil => simp
  | cons item items ih =>
    rw [List.foldl_cons, ih]
    cases item with
    | pair a => rfl
    | junk j =>
      have hjunk : (Item.junk j :: items).filterMap Item.junk?
          = String.ofList j.text :: items.filterMap Item.junk? := rfl
      rw [List.filterMap_cons_none rfl, hjunk, ← List.singleton_append, ← List.append_assoc]
      rfl

namespace Listing

/-- Only the blank before empty content is trimmed off a listing. -/
theorem trim_write (l : Listing) : ∃ tail, trim l.write = writeItems l.items ++ afterColon tail
    ∧ tail.isSome = l.content.isSome ∧ ∀ p, p.content = "" →
      withContent p tail = { p with content := String.ofList (l.content.getD []) } := by
  have hhead : ∀ more, ∀ c ∈ (writeItems l.items ++ more).head?, isBlank c = false :=
    isBlank_head?_writeItems (.pair l.first) l.later
  unfold write
  cases hcontent : l.content with
  | none =>
    refine ⟨none, ?_, rfl, fun p hp => ?_⟩
    · rw [Option.map_none, afterColon, List.append_nil]
      exact Text.trim_eq_self (by simpa using hhead []) (isBlank_getLast?_writeItems _ _)
    · obtain ⟨pairs, content, skipped⟩ := p
      cases hp
      rfl
  | some c =>
    have hc : trim c = c := l.trimmed c (by rw [hcontent]; rfl)
    refine ⟨some (Text.trimEnd (' ' :: c)), ?_, rfl, fun p _ => ?_⟩
    · -- The colon is no blank, so that only what follows it is trimmed.
      rw [Option.map_some, trim, Text.trimStart_eq_self (hhead _), afterColon,
        Text.trimEnd_append_cons (by decide), afterColon]
    · rw [withContent, Text.trim_trimEnd, Text.trim_blank_cons, hc]
      rfl

end Listing

/-- **A listing is read back as it was meant.** The pairs are inserted in their order, so that a
repeated key keeps its first place and has its last value; values that were written in quotes have
lost them; what is no pair is set aside; and the content is the content, whatever it holds. -/
theorem ofText_write (l : Listing) :
    ofText l.write = ⟨OrderedMap.ofList l.pairs, String.ofList (l.content.getD []), l.junk⟩
      ∧ (ofText l.write).pairs.keys = (l.pairs.map Prod.fst).eraseDups
      ∧ ∀ key, (ofText l.write).pairs.get? key = l.pairs.reverse.lookup key := by
  obtain ⟨tail, htrim, hsome, hcontent⟩ := l.trim_write
  have hafter : tail.isSome → ∀ last ∈ l.items.getLast?, last.isPair = true := by
    intro h last hlast
    rw [hsome] at h
    rw [Listing.items, List.getLast?_cons] at hlast
    cases hlater : l.later.getLast? with
    | none =>
      rw [hlater] at hlast
      cases hlast
      rfl
    | some item =>
      rw [hlater] at hlast
      cases hlast
      exact l.afterPair h _ hlater
  obtain ⟨rest, hrest⟩ := exists_writeItems_eq (.pair l.first) l.later
  have htext :
      trim l.write
          = l.first.key ++ ':' :: (' ' :: (l.first.value.write ++ (rest ++ afterColon tail))) := by
    rw [htrim, Listing.items, hrest, Item.write, Pair.write]
    simp only [List.append_assoc, List.cons_append]
  have hread :
      ofText l.write = ⟨OrderedMap.ofList l.pairs, String.ofList (l.content.getD []), l.junk⟩ := by
    rw [ofText_of_trim htext l.first.isKey, ← htext, htrim, Listing.items,
      addPairs_items tail l.later (.pair l.first) {} true (fun _ => rfl) hafter, foldl_add,
      hcontent _ rfl]
    rfl
  rw [hread]
  exact ⟨rfl, OrderedMap.keys_ofList _, OrderedMap.get?_ofList _⟩

/-- A listing with a repeated key, a piece that is no pair, a quoted value and content that looks
like more pairs. -/
def offerListing : Listing where
  first := ⟨"size".toList, by decide +kernel,
    .plain "max(1, 2)".toList ⟨by decide, by decide, by decide⟩ (by decide)⟩
  later := [
    .junk ⟨"a [b, c] d: e".toList, by decide, by decide, by decide, by decide +kernel, by decide⟩,
    .pair ⟨"x.y".toList, by decide +kernel, .quoted "1, 2: 3".toList (by decide) (by decide)⟩,
    .pair ⟨"size".toList, by decide +kernel,
      .plain "7".toList ⟨by decide, by decide, by decide⟩ (by decide)⟩]
  content := some "At 10:30, k: \"v".toList
  trimmed := by decide
  afterPair := by decide

/-- Quoted and nested separators, a key that is entered twice, junk, and content with a colon and
an open quote. -/
theorem ofText_write_offerListing :
    ofText "size: max(1, 2), a [b, c] d: e, x.y: \"1, 2: 3\", size: 7: At 10:30, k: \"v".toList =
      ⟨OrderedMap.ofList [("size", "max(1, 2)"), ("x.y", "1, 2: 3"), ("size", "7")],
        "At 10:30, k: \"v", ["a [b, c] d: e"]⟩ :=
  (ofText_write offerListing).1

end PageLang.Properties
