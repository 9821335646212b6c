import PageLang.Markup.Element
import PageLang.Proofs.Document.ActionLine

/-!
# Quotes around a value

Quotes are taken off a value, or off the text of a state entry, when it begins and ends with the
same quote. That is meant for one literal, a quote, a text without it and the quote again. But a
text can also begin with one literal and end with another, as a comparison of two literals does,
and then its first and its last quote are no pair:

> `quotes_lost_iff_unpaired`: values, state entries and conditions lose quotes that belong to them
> exactly where the quotes at their two ends are no pair.
-/

namespace PageLang

open Text (isBlank isQuote trim stripQuotes? stored)

namespace Properties

/-! ## Literals -/

/-- The same quote at both ends. -/
def Enclosed (text : List Char) : Prop := ∃ q inner, isQuote q = true ∧ text = q :: (inner ++ [q])

/-- One literal: a quote, a text without it, and the quote again. -/
def IsLiteral (text : List Char) : Prop := ∃ q inner, isQuote q = true ∧ q ∉ inner
    ∧ text = q :: (inner ++ [q])

/-- The same quote at both ends, but also between them, so that the one at the end does not close
the one at the start. -/
def EndsUnpaired (text : List Char) : Prop := ∃ q inner, isQuote q = true ∧ q ∈ inner
    ∧ text = q :: (inner ++ [q])

/-- The text between the quotes of a literal; every other text as it is. -/
def unquoted : List Char → List Char
  | [] => []
  | q :: rest =>
    let inner := rest.takeWhile (· ≠ q)
    if isQuote q && rest = inner ++ [q] then inner else q :: rest

section Literals

variable {text : List Char}

/-- Quotes at both ends are those of one literal, or no pair. -/
theorem enclosed_iff : Enclosed text ↔ IsLiteral text ∨ EndsUnpaired text := by
  constructor
  · rintro ⟨q, inner, hq, heq⟩
    by_cases hmem : q ∈ inner
    · exact .inr ⟨q, inner, hq, hmem, heq⟩
    · exact .inl ⟨q, inner, hq, hmem, heq⟩
  · rintro (⟨q, inner, hq, -, heq⟩ | ⟨q, inner, hq, -, heq⟩) <;> exact ⟨q, inner, hq, heq⟩

/-- They are never both. -/
theorem EndsUnpaired.not_isLiteral (h : EndsUnpaired text) : ¬ IsLiteral text := by
  obtain ⟨q, inner, -, hmem, rfl⟩ := h
  rintro ⟨q', inner', -, hmem', heq⟩
  obtain ⟨rfl, hinner⟩ := List.cons.inj heq
  rw [List.append_cancel_right hinner] at hmem
  exact hmem' hmem

/-- A literal loses its quotes. -/
theorem unquoted_of_isLiteral (h : IsLiteral text) : unquoted text = text.tail.dropLast := by
  obtain ⟨q, inner, hq, hmem, rfl⟩ := h
  have htake : (inner ++ [q]).takeWhile (· ≠ q) = inner := by
    refine Text.takeWhile_append_of_stop (fun c hc => decide_eq_true ?_) (by simp)
    rintro rfl
    exact hmem hc
  rw [unquoted, htake, hq, decide_eq_true rfl, Bool.and_self, if_pos rfl, List.tail_cons,
    List.dropLast_concat]

/-- Nothing else loses any. -/
theorem unquoted_of_not_isLiteral (h : ¬ IsLiteral text) : unquoted text = text := by
  cases text with
  | nil => rfl
  | cons q rest =>
    refine if_neg fun hliteral => h ?_
    rw [Bool.and_eq_true, decide_eq_true_eq] at hliteral
    refine ⟨q, rest.takeWhile (· ≠ q), hliteral.1, fun hmem => ?_, congrArg (q :: ·) hliteral.2⟩
    simpa using List.mem_takeWhile_imp hmem

/-- Between the quotes there is less than with them. -/
theorem Enclosed.length_lt (h : Enclosed text) : text.tail.dropLast.length < text.length := by
  obtain ⟨q, inner, -, rfl⟩ := h
  rw [List.tail_cons, List.dropLast_concat, List.length_cons, List.length_append]
  omega

instance : Decidable (Enclosed text) :=
  decidable_of_iff ((stripQuotes? text).isSome = true) <| by
    rw [Option.isSome_iff_exists, Enclosed, exists_comm]
    simp only [stripQuotes?_eq_some_iff]

instance : Decidable (EndsUnpaired text) :=
  decidable_of_iff (Enclosed text ∧ unquoted text = text) <| by
    constructor
    · rintro ⟨henclosed, hself⟩
      refine (enclosed_iff.mp henclosed).resolve_left fun hliteral => ?_
      have hlength := henclosed.length_lt
      rw [← unquoted_of_isLiteral hliteral, hself] at hlength
      exact Nat.lt_irrefl _ hlength
    · exact fun h => ⟨enclosed_iff.mpr (.inr h), unquoted_of_not_isLiteral h.not_isLiteral⟩

end Literals

/-! ## What is stored -/

section Stored

variable {text : List Char}

/-- Stored is what stands between the quotes, whether they are a pair or not. -/
theorem stored_of_enclosed (h : Enclosed (trim text)) :
    stored text = (trim text).tail.dropLast := by
  obtain ⟨q, inner, hq, heq⟩ := h
  rw [stored, stripQuotes?_eq_some_iff.mpr ⟨q, hq, heq⟩, heq, List.tail_cons, List.dropLast_concat]
  rfl

/-- Without quotes at both ends a value is stored trimmed. -/
theorem stored_of_not_enclosed (h : ¬ Enclosed (trim text)) : stored text = trim text := by
  have hnone : stripQuotes? (trim text) = none := by
    refine Option.eq_none_iff_forall_ne_some.mpr fun inner hinner => h ?_
    obtain ⟨q, hq, heq⟩ := stripQuotes?_eq_some_iff.mp hinner
    exact ⟨q, inner, hq, heq⟩
  rw [stored, hnone]
  rfl

/-- What is stored is the text of a literal, or the text as it is, unless the quotes at its ends
are no pair. -/
theorem stored_eq_unquoted_iff :
    stored text = unquoted (trim text) ↔ ¬ EndsUnpaired (trim text) := by
  constructor
  · intro hstored hunpaired
    have henclosed := enclosed_iff.mpr (.inr hunpaired)
    have hlength := henclosed.length_lt
    rw [← stored_of_enclosed henclosed, hstored,
      unquoted_of_not_isLiteral hunpaired.not_isLiteral] at hlength
    exact Nat.lt_irrefl _ hlength
  · intro hpaired
    by_cases hliteral : IsLiteral (trim text)
    · rw [stored_of_enclosed (enclosed_iff.mpr (.inl hliteral)), unquoted_of_isLiteral hliteral]
    · have hopen : ¬ Enclosed (trim text) := fun h => (enclosed_iff.mp h).elim hliteral hpaired
      rw [stored_of_not_enclosed hopen, unquoted_of_not_isLiteral hliteral]

/-- A text is stored as it is, but for blanks, exactly if it has not the same quote at both ends. -/
theorem trim_stored_eq_iff (htrim : trim text = text) :
    trim (stored text) = text ↔ ¬ Enclosed text := by
  constructor
  · intro hsame henclosed
    have hlength := Text.length_trim_le (stored text)
    rw [hsame, stored_of_enclosed (htrim.symm ▸ henclosed), htrim] at hlength
    exact Nat.not_lt.mpr hlength henclosed.length_lt
  · intro hopen
    rw [stored_of_not_enclosed (htrim.symm ▸ hopen), htrim, htrim]

end Stored

/-! ## A single pair -/

/-- The properties with one pair, or with none if its value is empty. -/
def single (key value : List Char) : Properties :=
  if value = [] then {} else { pairs :=
    (∅ : OrderedMap String).insert (String.ofList key) (String.ofList value) }

theorem get?_single (key value : List Char) :
    (single key value).pairs.get? (String.ofList key) = if value = [] then none else some
      (String.ofList value) := by
  unfold single
  split
  · rfl
  · rw [OrderedMap.get?_insert, if_pos rfl]

/-- Different values give different properties. -/
theorem single_injective (key : List Char) : Function.Injective (single key) := by
  intro v w heq
  have hget := congrArg (fun p : Properties => p.pairs.get? (String.ofList key)) heq
  simp only [get?_single] at hget
  by_cases hv : v = []
  · rw [if_pos hv] at hget
    split at hget
    · next hw => rw [hv, hw]
    · cases hget
  · rw [if_neg hv] at hget
    split at hget
    · cases hget
    · exact String.ofList_injective (Option.some.inj hget)

theorem put_eq_single {key : List Char} (hk : key ≠ []) (value : List Char) :
    put {} key value = single key (stored value) := by
  unfold single
  split
  · next hempty => exact if_pos (by simp [hempty])
  · next hne => exact put_of_ne_nil {} hk hne

/-- A key, a colon and a value that ends with the text give one pair, after a blank too. -/
theorem ofText_pair {text key value : List Char} (hk : IsKey key) (hv : Clean value)
    (htext : trim text = trim (key ++ ':' :: ' ' :: value)) :
    ofText text = single key (stored value) := by
  have htrim : trim (key ++ ':' :: ' ' :: value) = key ++ ':' :: ' ' :: value := by
    refine Text.trim_eq_self (fun c hc => ?_) fun c hc => ?_
    · obtain ⟨k, ks, rfl⟩ := List.exists_cons_of_ne_nil hk.ne_nil
      cases hc
      exact isBlank_of_isKeyChar (hk.chars c (List.mem_cons_self ..))
    · have hlast : (key ++ ':' :: ' ' :: value).getLast? = value.getLast? := by
        show (key ++ ([':', ' '] ++ value)).getLast? = _
        rw [← List.append_assoc, List.getLast?_append_of_ne_nil _ hv.ne_nil]
      rw [hlast] at hc
      exact (Text.trim_eq_self_iff.mp hv.trimmed).2 c hc
  have hblank : Sealed isSeparator (' ' :: value) := sealed_blank.append hv.isSealed
  have hstored : stored (' ' :: value) = stored value := by
    rw [stored, Text.trim_blank_cons, stored]
  rw [ofText_of_trim (htext.trans htrim) hk, addPairs_end {} true hk hblank,
    put_eq_single hk.ne_nil, hstored]

end Properties

open Properties (IsKey Clean Enclosed EndsUnpaired unquoted single)

/-! ## State entries and conditions -/

/-- A text that is no number is kept as it is stored. -/
theorem Literal.coerce_of_not_isNumeral {raw : List Char}
    (h : Literal.isNumeral (trim raw) = false) :
    Literal.coerce raw = .text (String.ofList (stored raw)) := by
  unfold Literal.coerce
  simp only [h]

/-- A conditional on a line of its own. -/
def conditionLine (condition : String) : String := "if condition: " ++ condition

theorem toList_conditionLine (condition : String) :
    (conditionLine condition).toList
      = "if".toList ++ ' ' :: ("condition".toList ++ ':' :: ' ' :: condition.toList) := by
  have htag :
      "if condition: ".toList = "if".toList ++ ' ' :: ("condition".toList ++ [':', ' ']) := by
        decide
  have hjoin : (conditionLine condition).toList = "if condition: ".toList ++ condition.toList :=
    String.toList_append
  generalize "if condition: ".toList = start at htag hjoin
  rw [hjoin, htag]
  generalize "if".toList = tag
  generalize "condition".toList = key
  simp

/-- The line gives one conditional, with what is stored of its condition. -/
theorem Document.parse_conditionLine {condition : String} (hclean : Clean condition.toList)
    (hbreak : '\n' ∉ condition.toList) :
    ∃ n, Document.parse (conditionLine condition) = .ok ⟨Node.page none [n], [], []⟩
      ∧ n.element = .conditional
      ∧ n.conditionText = String.ofList (trim (stored condition.toList)) := by
  have hkey : IsKey "condition".toList := by decide
  have hrest : '\n' ∉ ' ' :: ("condition".toList ++ ':' :: ' ' :: condition.toList) := by
    have hname : '\n' ∉ "condition".toList := by decide
    generalize "condition".toList = key at hname
    simp [hname, hbreak]
  have hskipped : (single "condition".toList (stored condition.toList)).skipped = [] := by
    unfold single
    split <;> rfl
  have hparse := Document.parse_of_tag (toList_conditionLine condition) (by decide)
    (List.all_eq_true.mp (by decide)) (by decide) (by rintro d ⟨⟩; decide) hrest
    (Properties.ofText_pair hkey hclean (Text.trim_blank_cons _))
  rw [hskipped, List.map_nil] at hparse
  have helement : Element.ofKind (Node.kindOfTag "if".toList) = .conditional := by decide
  refine ⟨_, hparse, helement, ?_⟩
  have hget := Properties.get?_single "condition".toList (stored condition.toList)
  rw [String.ofList_toList] at hget
  rw [Node.conditionText, Node.property?, hget, Text.trimmed]
  split
  · next hempty => rw [hempty]; rfl
  · rw [Option.getD_some, String.toList_ofList]

/-- **Quotes that belong to a value are lost exactly where the quotes at its ends are no pair.** A
value is stored as it is, or as the text of the literal that it is, unless it begins and ends with
the same quote and has that quote between them: then the first and the last quote are missing. It
is the same for the text of a state entry. A condition reaches its node unchanged exactly if it
has not the same quote at both ends, whether or not these are a pair. -/
theorem quotes_lost_iff_unpaired (key value raw : List Char) (condition : String) :
    (IsKey key → Clean value →
      (Properties.ofText (key ++ ':' :: ' ' :: value) = single key (unquoted value)
        ↔ ¬ EndsUnpaired value)
      ∧ (EndsUnpaired value →
        Properties.ofText (key ++ ':' :: ' ' :: value) = single key value.tail.dropLast))
    ∧ (Literal.isNumeral (trim raw) = false →
      (Literal.coerce raw = .text (String.ofList (unquoted (trim raw))) ↔ ¬ EndsUnpaired (trim raw))
      ∧ (EndsUnpaired (trim raw) →
        Literal.coerce raw = .text (String.ofList (trim raw).tail.dropLast)))
    ∧ (Clean condition.toList → '\n' ∉ condition.toList →
      ∃ n, Document.parse (conditionLine condition) = .ok ⟨Node.page none [n], [], []⟩
        ∧ n.element = .conditional
        ∧ (n.conditionText = condition ↔ ¬ Enclosed condition.toList)
        ∧ (Enclosed condition.toList →
          n.conditionText = String.ofList (trim condition.toList.tail.dropLast))) := by
  refine ⟨fun hkey hclean => ?_, fun hnumeral => ?_, fun hclean hbreak => ?_⟩
  · have hagree := @Properties.stored_eq_unquoted_iff value
    rw [hclean.trimmed] at hagree
    rw [Properties.ofText_pair hkey hclean rfl]
    refine ⟨(Properties.single_injective key).eq_iff.trans hagree, fun hunpaired => ?_⟩
    rw [Properties.stored_of_enclosed] <;> rw [hclean.trimmed]
    exact Properties.enclosed_iff.mpr (.inr hunpaired)
  · have hinjective {v w : List Char} : Literal.text (String.ofList v) = .text (String.ofList w)
        ↔ v = w :=
      ⟨fun h => String.ofList_injective (Literal.text.inj h), fun h => h ▸ rfl⟩
    rw [Literal.coerce_of_not_isNumeral hnumeral]
    refine ⟨hinjective.trans Properties.stored_eq_unquoted_iff, fun hunpaired => ?_⟩
    rw [Properties.stored_of_enclosed (Properties.enclosed_iff.mpr (.inr hunpaired))]
  · obtain ⟨n, hparse, helement, hcondition⟩ := Document.parse_conditionLine hclean hbreak
    have hsame := Properties.trim_stored_eq_iff hclean.trimmed
    refine ⟨n, hparse, helement, ?_, fun henclosed => ?_⟩
    · rw [hcondition, ← hsame]
      exact ⟨fun h => String.toList_ofList.symm.trans (congrArg String.toList h),
        fun h => by rw [h, String.ofList_toList]⟩
    · rw [hcondition, Properties.stored_of_enclosed] <;> rw [hclean.trimmed]
      exact henclosed

/-- A literal with separators in it, and a comparison of literals in different quotes. -/
theorem quotes_lost_iff_unpaired_mixed :
    let literal := "\"a, b: c\"".toList
    let comparison := "\"a\" == \x27b\x27"
    Properties.ofText ("k".toList ++ ':' :: ' ' :: literal) = single "k".toList "a, b: c".toList
    ∧ Literal.coerce (' ' :: literal) = .text "a, b: c"
    ∧ ∃ n, Document.parse (conditionLine comparison) = .ok ⟨Node.page none [n], [], []⟩
      ∧ n.conditionText = comparison := by
  intro literal comparison
  obtain ⟨hvalue, hentry, hcondition⟩ :=
    quotes_lost_iff_unpaired "k".toList literal (' ' :: literal) comparison
  have hpair := ((hvalue (by decide) ⟨by decide, by decide, by decide⟩).1).mpr (by decide)
  have hcoerce := ((hentry (by decide)).1).mpr (by decide)
  have hunquoted : unquoted literal = "a, b: c".toList := by decide
  have htrim : trim (' ' :: literal) = literal := by decide
  obtain ⟨n, hparse, -, hsame, -⟩ := hcondition ⟨by decide, by decide, by decide⟩ (by decide)
  rw [hunquoted] at hpair
  rw [htrim, hunquoted, String.ofList_toList] at hcoerce
  exact ⟨hpair, hcoerce, n, hparse, hsame.mpr (by decide)⟩

/-- **A comparison of two literals loses its outer quotes.** It is no literal, but what is stored
of it as a value, as a state entry and as a condition lacks the first and the last quote, and the
condition can no longer be read. -/
theorem comparison_loses_quotes :
    let comparison := "\"a\" == \"b\""
    unquoted comparison.toList = comparison.toList
    ∧ Properties.ofText ("k".toList ++ ':' :: ' ' :: comparison.toList) = single "k".toList
      "a\" == \"b".toList
    ∧ Literal.coerce comparison.toList = .text "a\" == \"b"
    ∧ (Expr.parse comparison).toOption.isSome = true
    ∧ ∃ n, Document.parse (conditionLine comparison) = .ok ⟨Node.page none [n], [], []⟩
      ∧ n.conditionText = "a\" == \"b" ∧ n.condition.toOption.isSome = false := by
  intro comparison
  have hclean : Clean comparison.toList := ⟨by decide, by decide, by decide⟩
  have hstored : stored comparison.toList = "a\" == \"b".toList := by decide
  have htrim : trim "a\" == \"b".toList = "a\" == \"b".toList := by decide
  obtain ⟨n, hparse, -, hcondition⟩ := Document.parse_conditionLine hclean (by decide)
  rw [hstored, htrim, String.ofList_toList] at hcondition
  refine ⟨by decide, ?_, ?_, by decide +kernel, n, hparse, hcondition, ?_⟩
  · rw [Properties.ofText_pair (by decide) hclean rfl, hstored]
  · rw [Literal.coerce_of_not_isNumeral (by decide), hstored, String.ofList_toList]
  · rw [Node.condition, hcondition]
    decide +kernel

end PageLang
