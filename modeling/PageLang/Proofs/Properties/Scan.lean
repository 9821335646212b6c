import PageLang.Proofs.Text.Trim
import PageLang.Properties

/-!
# Scanning for separators

While a text is searched for separators, what matters of the part already read is what is open
after it: brackets and perhaps a quote, a `Scan`. A text is `Sealed` against some separators if it
opens nothing that it does not close and has no separator outside quotes and brackets. The search
walks over a sealed text:

> `find?_append_cons`: the first separator of a sealed text followed by a separator is the one
> that follows,

and what it walks over is sealed (`sealed_of_find?`). From this come the three ways in which a
pair can end, at a comma, at a colon and at the end of the text.
-/

namespace PageLang.Properties

open Text (isQuote isBlank trim trimStart isAlphanumeric stripQuotes?)

/-- What is open at a place in a text: a number of brackets, and perhaps a quote. -/
structure Scan where
  depth : Nat := 0
  quote : Option Char := none
  deriving DecidableEq, Repr

namespace Scan

/-- What is open after one character more. -/
def step (s : Scan) (c : Char) : Scan :=
  match s.quote with
  | some q => if c = q then { s with quote := none } else s
  | none =>
    if isQuote c then { s with quote := some c }
    else if isOpening c then { s with depth := s.depth + 1 }
    else if isClosing c then { s with depth := s.depth - 1 }
    else s

/-- What is open after a text. -/
def after (s : Scan) (cs : List Char) : Scan := cs.foldl step s

/-- Whether no character of a text that `stop` marks stands outside quotes and brackets. -/
def passes (stop : Char → Bool) : Scan → List Char → Bool
  | _, [] => true
  | s, c :: rest => !(s = {} && stop c) && passes stop (s.step c) rest

theorem after_cons (s : Scan) (c : Char) (cs : List Char) :
    s.after (c :: cs) = (s.step c).after cs := rfl

/-- What is open after two texts is what is open after the second, begun with what the first
leaves open. -/
theorem after_append (s : Scan) (xs ys : List Char) : s.after (xs ++ ys) = (s.after xs).after ys :=
  List.foldl_append

/-- A text passes if both parts do, the second with what the first leaves open. -/
theorem passes_append (stop : Char → Bool) (s : Scan) (xs ys : List Char) :
    s.passes stop (xs ++ ys) = (s.passes stop xs && (s.after xs).passes stop ys) := by
  induction xs generalizing s with
  | nil => rfl
  | cons x xs ih => rw [List.cons_append, passes, passes, ih, after_cons, Bool.and_assoc]

/-- A character that is neither a quote nor a bracket. -/
def isInert (c : Char) : Bool := !isQuote c && !isOpening c && !isClosing c

/-- Outside quotes only quotes and brackets change what is open. -/
theorem step_of_isInert {c : Char} (h : isInert c = true) (depth : Nat) :
    step ⟨depth, none⟩ c = ⟨depth, none⟩ := by
  simp only [isInert, Bool.and_eq_true, Bool.not_eq_true'] at h
  simp [step, h.1.1, h.1.2, h.2]

/-- Inert characters open and close nothing, and outside quotes they can only hide a separator. -/
theorem after_of_isInert {cs : List Char} (h : ∀ c ∈ cs, isInert c = true) (depth : Nat) :
    after ⟨depth, none⟩ cs = ⟨depth, none⟩ := by
  induction cs with
  | nil => rfl
  | cons c cs ih =>
    rw [after_cons, step_of_isInert (h c (List.mem_cons_self ..)),
      ih fun d hd => h d (List.mem_cons_of_mem _ hd)]

/-- A text without any character to stop at passes. -/
theorem passes_of_forall {stop : Char → Bool} {cs : List Char} (h : ∀ c ∈ cs, stop c = false)
    (s : Scan) : s.passes stop cs = true := by
  induction cs generalizing s with
  | nil => rfl
  | cons c cs ih =>
    rw [passes, h c (List.mem_cons_self ..), Bool.and_false,
      ih fun d hd => h d (List.mem_cons_of_mem _ hd)]
    rfl

/-- Up to the quote that closes it, a quoted text hides everything. -/
theorem after_of_not_mem {q : Char} {cs : List Char} (h : q ∉ cs) (depth : Nat) :
    after ⟨depth, some q⟩ cs = ⟨depth, some q⟩ := by
  induction cs with
  | nil => rfl
  | cons c cs ih =>
    rw [List.mem_cons, not_or] at h
    have hstep : step ⟨depth, some q⟩ c = ⟨depth, some q⟩ := if_neg (Ne.symm h.1)
    rw [after_cons, hstep, ih h.2]

/-- Inside a quote everything passes up to the closing one. -/
theorem passes_of_not_mem (stop : Char → Bool) {q : Char} {cs : List Char} (h : q ∉ cs)
    (depth : Nat) : passes stop ⟨depth, some q⟩ cs = true := by
  induction cs with
  | nil => rfl
  | cons c cs ih =>
    rw [List.mem_cons, not_or] at h
    have hstep : step ⟨depth, some q⟩ c = ⟨depth, some q⟩ := if_neg (Ne.symm h.1)
    rw [passes, hstep, ih h.2]
    simp

section Quoted

variable {q : Char} (hq : isQuote q = true) {cs : List Char} (h : q ∉ cs) (depth : Nat)

include hq

/-- Outside quotes a quote opens one. -/
theorem step_of_isQuote : step ⟨depth, none⟩ q = ⟨depth, some q⟩ := by
  simp [step, hq]

include h

/-- What is between two quotes does not matter if it has no such quote in it. -/
theorem after_quoted : after ⟨depth, none⟩ (q :: (cs ++ [q])) = ⟨depth, none⟩ := by
  rw [after_cons, step_of_isQuote hq, after_append, after_of_not_mem h]
  simp [after, step]

/-- A quoted text passes whole. -/
theorem passes_quoted {stop : Char → Bool} (hstop : stop q = false) :
    passes stop ⟨depth, none⟩ (q :: (cs ++ [q])) = true := by
  rw [passes, step_of_isQuote hq, hstop, passes_append, passes_of_not_mem stop h,
    after_of_not_mem h]
  simp [passes]

end Quoted

/-- Only a quote can be open as one. -/
theorem isQuote_of_after {s : Scan} (hs : ∀ q ∈ s.quote, isQuote q = true) (cs : List Char) :
    ∀ q ∈ (s.after cs).quote, isQuote q = true := by
  induction cs generalizing s with
  | nil => exact hs
  | cons c cs ih =>
    refine ih fun q hq => ?_
    unfold step at hq
    split at hq
    · next q' hq' =>
      split at hq
      · cases hq
      · exact hs q hq
    · next hnone =>
      split at hq
      · next hc =>
        cases hq
        exact hc
      · split at hq
        · rw [hnone] at hq
          cases hq
        · split at hq <;> rw [hnone] at hq <;> cases hq

end Scan

open Scan (isInert)

/-- Separators are characters that are neither quotes nor brackets. -/
def Separators (stop : Char → Bool) : Prop := ∀ c, stop c = true → isInert c = true

/-- The comma is a separator. -/
theorem separators_comma : Separators (· = ',') := by
  intro c hc
  rw [of_decide_eq_true hc]
  decide

/-- The colon is a separator. -/
theorem separators_colon : Separators (· = ':') := by
  intro c hc
  rw [of_decide_eq_true hc]
  decide

/-- The two characters at which the value of a pair ends. -/
def isSeparator (c : Char) : Bool := c = ',' || c = ':'

/-- The two together are separators. -/
theorem separators_isSeparator : Separators isSeparator := by
  intro c hc
  rcases Bool.or_eq_true_iff.mp hc with hc | hc
  · exact separators_comma c hc
  · exact separators_colon c hc

/-! ## The search -/

section Search

variable {stop : Char → Bool}

/-- One step of the search. -/
theorem findFrom_cons (hstop : Separators stop) (s : Scan) (c : Char) (rest : List Char) :
    findFrom stop s.depth s.quote (c :: rest) =
      if s = {} && stop c then some (0, c)
      else (findFrom stop (s.step c).depth (s.step c).quote rest).map fun f => (f.1 + 1, f.2) := by
  obtain ⟨depth, _ | q⟩ := s
  · by_cases hc : isInert c = true
    · rw [Scan.step_of_isInert hc]
      simp only [isInert, Bool.and_eq_true, Bool.not_eq_true'] at hc
      rw [findFrom]
      simp only [hc.1.1, hc.1.2, hc.2, Scan.mk.injEq, and_true, Bool.false_eq_true, if_false]
    · have hno : stop c = false := by
        rw [← Bool.not_eq_true]
        exact fun h => hc (hstop c h)
      rw [hno, Bool.and_false, if_neg Bool.false_ne_true, findFrom, Scan.step]
      dsimp only
      split
      · rfl
      · split
        · rfl
        · split
          · rfl
          · next hquote hopen hclose => simp [isInert, hquote, hopen, hclose] at hc
  · rw [findFrom, Scan.step]
    by_cases hc : c = q <;> simp [hc]

/-- The search walks over a text without separators outside quotes and brackets. -/
theorem findFrom_append (hstop : Separators stop) {s : Scan} {cs : List Char}
    (h : s.passes stop cs = true) (rest : List Char) :
    findFrom stop s.depth s.quote (cs ++ rest) =
      (findFrom stop (s.after cs).depth (s.after cs).quote rest).map fun f =>
        (f.1 + cs.length, f.2) := by
  induction cs generalizing s with
  | nil => simp [Scan.after]
  | cons c cs ih =>
    rw [Scan.passes, Bool.and_eq_true, Bool.not_eq_true'] at h
    rw [List.cons_append, findFrom_cons hstop, h.1, if_neg Bool.false_ne_true, ih h.2,
      Option.map_map, Scan.after_cons]
    rfl

/-- What the search has walked over has no separator outside quotes and brackets. -/
theorem findFrom_eq_some (hstop : Separators stop) {s : Scan} {cs : List Char} {n : Nat} {c : Char}
    (h : findFrom stop s.depth s.quote cs = some (n, c)) :
    ∃ rest, cs = cs.take n ++ c :: rest ∧ (cs.take n).length = n ∧ stop c = true
      ∧ s.passes stop (cs.take n) = true ∧ s.after (cs.take n) = {} := by
  induction cs generalizing s n with
  | nil => rw [findFrom] at h; cases h
  | cons d cs ih =>
    rw [findFrom_cons hstop] at h
    split at h
    · next hfound =>
      cases h
      rw [Bool.and_eq_true, decide_eq_true_eq] at hfound
      exact ⟨cs, rfl, rfl, hfound.2, rfl, hfound.1⟩
    · next hpass =>
      obtain ⟨⟨m, e⟩, hm, heq⟩ := Option.map_eq_some_iff.mp h
      cases heq
      obtain ⟨rest, hcs, hlength, hsep, hpasses, hafter⟩ := ih hm
      refine ⟨rest, ?_, ?_, hsep, ?_, hafter⟩
      · rw [List.take_succ_cons, List.cons_append, ← hcs]
      · rw [List.take_succ_cons, List.length_cons, hlength]
      · rw [List.take_succ_cons, Scan.passes, Bool.eq_false_iff.mpr hpass, hpasses]
        rfl

/-- A text that closes what it opens and has no separator outside quotes and brackets. -/
structure Sealed (stop : Char → Bool) (cs : List Char) : Prop where
  closed : ({} : Scan).after cs = {}
  passes : ({} : Scan).passes stop cs = true

instance (stop : Char → Bool) (cs : List Char) : Decidable (Sealed stop cs) :=
  decidable_of_iff (({} : Scan).after cs = {} ∧ ({} : Scan).passes stop cs = true)
    ⟨fun h => ⟨h.1, h.2⟩, fun h => ⟨h.closed, h.passes⟩⟩

/-- Sealed texts can be put behind each other. -/
theorem Sealed.append {xs ys : List Char} (hx : Sealed stop xs) (hy : Sealed stop ys) :
    Sealed stop (xs ++ ys) where
  closed := by rw [Scan.after_append, hx.closed, hy.closed]
  passes := by rw [Scan.passes_append, hx.passes, hx.closed, hy.passes]; rfl

/-- A text with neither quotes nor brackets is sealed if it has no separator. -/
theorem sealed_of_isInert {cs : List Char} (h : ∀ c ∈ cs, isInert c = true)
    (hstop : ∀ c ∈ cs, stop c = false) : Sealed stop cs :=
  ⟨Scan.after_of_isInert h 0, Scan.passes_of_forall hstop {}⟩

theorem sealed_blank : Sealed isSeparator [' '] :=
  sealed_of_isInert (by simp [isInert, isQuote, isOpening, isClosing]) (by simp [isSeparator])

/-- No quote is a separator. -/
theorem Separators.of_isQuote (hstop : Separators stop) {q : Char} (hq : isQuote q = true) :
    stop q = false := by
  rw [← Bool.not_eq_true]
  exact fun hsep => absurd (hstop q hsep) (by simp [isInert, hq])

/-- A text in quotes is sealed, whatever it holds but that quote. -/
theorem sealed_quoted (hstop : Separators stop) {q : Char} (hq : isQuote q = true) {cs : List Char}
    (h : q ∉ cs) : Sealed stop (q :: (cs ++ [q])) :=
  ⟨Scan.after_quoted hq h 0, Scan.passes_quoted hq h 0 (hstop.of_isQuote hq)⟩

/-- An inert character at the end of a sealed text does not close anything. -/
theorem Sealed.of_concat {cs : List Char} {c : Char} (hc : isInert c = true)
    (h : Sealed stop (cs ++ [c])) : Sealed stop cs := by
  obtain ⟨hclosed, hpasses⟩ := h
  rw [Scan.after_append] at hclosed
  rw [Scan.passes_append, Bool.and_eq_true] at hpasses
  refine ⟨?_, hpasses.1⟩
  have hquote := Scan.isQuote_of_after (s := {}) (fun _ h => nomatch h) cs
  generalize ({} : Scan).after cs = s at hclosed hquote
  obtain ⟨depth, _ | q⟩ := s
  · exact (Scan.step_of_isInert hc depth).symm.trans hclosed
  · -- The open quote would have to be the inert character.
    have hstep : (if c = q then (⟨depth, none⟩ : Scan) else ⟨depth, some q⟩) = {} := hclosed
    split at hstep
    · next heq =>
      rw [heq] at hc
      simp [isInert, hquote q rfl] at hc
    · cases hstep

/-- An inert character may be left out at the start. -/
theorem Sealed.of_cons {cs : List Char} {c : Char} (hc : isInert c = true)
    (h : Sealed stop (c :: cs)) : Sealed stop cs := by
  obtain ⟨hclosed, hpasses⟩ := h
  rw [Scan.after_cons, Scan.step_of_isInert hc] at hclosed
  rw [Scan.passes, Scan.step_of_isInert hc, Bool.and_eq_true] at hpasses
  exact ⟨hclosed, hpasses.2⟩

/-- The first separator after a sealed text is the one that follows it. -/
theorem find?_append_cons (hstop : Separators stop) {cs : List Char} (h : Sealed stop cs) {c : Char}
    (hc : stop c = true) (rest : List Char) :
    find? stop (cs ++ c :: rest) = some (cs.length, c) := by
  have hwalk := findFrom_append hstop h.passes (c :: rest)
  rw [h.closed, findFrom_cons hstop, hc] at hwalk
  rw [find?]
  exact hwalk.trans (by simp)

/-- Where the search finds nothing, nothing stands outside quotes and brackets. -/
theorem passes_of_findFrom_eq_none (hstop : Separators stop) {s : Scan} {cs : List Char}
    (h : findFrom stop s.depth s.quote cs = none) : s.passes stop cs = true := by
  induction cs generalizing s with
  | nil => rfl
  | cons c cs ih =>
    rw [findFrom_cons hstop] at h
    split at h
    · cases h
    · next hpass =>
      rw [Scan.passes, Bool.eq_false_iff.mpr hpass, ih (Option.map_eq_none_iff.mp h)]
      rfl

/-- Nothing is found just in a text that passes. -/
theorem find?_eq_none_iff (hstop : Separators stop) {cs : List Char} :
    find? stop cs = none ↔ ({} : Scan).passes stop cs = true := by
  constructor
  · exact passes_of_findFrom_eq_none hstop (s := {})
  · intro h
    have hwalk := findFrom_append hstop h []
    rw [List.append_nil, findFrom] at hwalk
    exact hwalk

/-- Nothing is found in a sealed text. -/
theorem find?_eq_none (hstop : Separators stop) {cs : List Char} (h : Sealed stop cs) :
    find? stop cs = none :=
  (find?_eq_none_iff hstop).mpr h.passes

/-- What stands before the first separator is sealed. -/
theorem sealed_of_find? (hstop : Separators stop) {cs : List Char} {n : Nat} {c : Char}
    (h : find? stop cs = some (n, c)) :
    Sealed stop (cs.take n) ∧ stop c = true ∧ n < cs.length
      ∧ ∃ rest, cs = cs.take n ++ c :: rest := by
  obtain ⟨rest, hcs, hlength, hsep, hpasses, hafter⟩ := findFrom_eq_some hstop (s := {}) h
  refine ⟨⟨hafter, hpasses⟩, hsep, ?_, rest, hcs⟩
  have := congrArg List.length hcs
  rw [List.length_append, hlength, List.length_cons] at this
  omega

end Search

/-! ## Keys -/

/-- No character of a key is a blank. -/
theorem isBlank_of_isKeyChar {c : Char} (h : isKeyChar c = true) : isBlank c = false := by
  simp only [isKeyChar, Bool.or_eq_true, decide_eq_true_eq] at h
  rcases h with ((h | rfl) | rfl) | rfl
  · exact Text.isBlank_of_isAlphanumeric h
  all_goals decide

/-- Of the first 128 characters only letters, digits, `_`, `-` and `.` belong to keys. -/
theorem isKeyChar_eq_false {c : Char} (hascii : c.toNat < 0x80)
    (h :
      (Text.inRanges [(0x30, 0x39), (0x41, 0x5A), (0x61, 0x7A)] c || c = '_' || c = '-' || c = '.')
        = false) :
    isKeyChar c = false := by
  simp only [isKeyChar, Bool.or_eq_false_iff] at h ⊢
  refine ⟨⟨⟨?_, h.1.1.2⟩, h.1.2⟩, h.2⟩
  rw [← Bool.not_eq_true]
  intro halphanumeric
  rw [Text.inRanges_of_isAlphanumeric hascii halphanumeric] at h
  cases h.1.1.1

/-- Quotes, brackets and the two separators are not among the characters of keys. -/
theorem isInert_of_isKeyChar {c : Char} (h : isKeyChar c = true) :
    isInert c = true ∧ c ≠ ',' ∧ c ≠ ':' := by
  refine ⟨?_, ?_, ?_⟩
  · by_contra hc
    simp only [isInert, isQuote, isOpening, isClosing, Bool.and_eq_true, Bool.not_eq_true',
      Bool.or_eq_false_iff, decide_eq_false_iff_not, not_and_or, not_not] at hc
    rcases hc with ((rfl | rfl) | (rfl | rfl) | rfl) | (rfl | rfl) | rfl <;>
      cases h.symm.trans (isKeyChar_eq_false (by decide) (by decide))
  all_goals
    rintro rfl
    cases h.symm.trans (isKeyChar_eq_false (by decide) (by decide))

/-- A text that can be the key of a pair. -/
structure IsKey (key : List Char) : Prop where
  ne_nil : key ≠ []
  chars : ∀ c ∈ key, isKeyChar c = true

instance (key : List Char) : Decidable (IsKey key) :=
  decidable_of_iff (key ≠ [] ∧ key.all isKeyChar = true)
    ⟨fun h => ⟨h.1, List.all_eq_true.mp h.2⟩, fun h => ⟨h.ne_nil, List.all_eq_true.mpr h.chars⟩⟩

/-- A text that can be read as a key, blanks or tabs, and a colon with something after it. -/
def ReadsAsPair (cs : List Char) : Prop :=
  ∃ key gap rest, cs = key ++ (gap ++ ':' :: rest) ∧ IsKey key ∧ ∀ c ∈ gap, c = ' ' ∨ c = '\t'

/-- A key is sealed against commas and colons. -/
theorem IsKey.sealed {key : List Char} (h : IsKey key) (stop : Char → Bool)
    (hstop : ∀ c, stop c = true → c = ',' ∨ c = ':') : Sealed stop key := by
  refine sealed_of_isInert (fun c hc => (isInert_of_isKeyChar (h.chars c hc)).1) fun c hc => ?_
  obtain ⟨-, hcomma, hcolon⟩ := isInert_of_isKeyChar (h.chars c hc)
  rw [← Bool.not_eq_true]
  exact fun hsep => (hstop c hsep).elim hcomma hcolon

/-- A key is found with its length, and the place behind the colon. -/
theorem key?_append {key gap : List Char} (h : IsKey key) (hgap : ∀ c ∈ gap, c = ' ' ∨ c = '\t')
    (rest : List Char) :
    key? (key ++ (gap ++ ':' :: rest)) = some (key.length, key.length + gap.length + 1) := by
  have hkey : (key ++ (gap ++ ':' :: rest)).takeWhile isKeyChar = key := by
    refine Text.takeWhile_append_of_stop h.chars fun c hc => ?_
    cases gap with
    | nil =>
      cases hc
      exact isKeyChar_eq_false (by decide) (by decide)
    | cons d gap =>
      cases hc
      rcases hgap c (List.mem_cons_self ..) with rfl | rfl <;> exact isKeyChar_eq_false (by decide)
        (by decide)
  have hblank : (gap ++ ':' :: rest).takeWhile (fun c => c = ' ' || c = '\t') = gap := by
    refine Text.takeWhile_append_of_stop (fun c hc => ?_) fun c hc => ?_
    · simpa using hgap c hc
    · cases hc
      decide
  have hlength : key.length ≠ 0 := fun h0 => h.ne_nil (List.length_eq_zero_iff.mp h0)
  unfold key?
  simp only [hkey, List.drop_left, hblank]
  rw [← List.drop_drop, List.drop_left, List.drop_left]
  exact if_neg hlength

/-- If a key is found, the text reads as a pair. -/
theorem readsAsPair_of_key? {cs : List Char} {n start : Nat} (h : key? cs = some (n, start)) :
    ReadsAsPair cs := by
  unfold key? at h
  dsimp only at h
  split at h
  · next rest hrest =>
    split at h
    · cases h
    · next hn =>
      refine ⟨cs.takeWhile isKeyChar,
        (cs.drop (cs.takeWhile isKeyChar).length).takeWhile (fun c => c = ' ' || c = '\t'),
        rest, ?_, ⟨fun hnil => hn (by rw [hnil]; rfl), fun c hc => List.mem_takeWhile_imp hc⟩,
        fun c hc => ?_⟩
      · -- What the two runs leave is the colon with the rest.
        have hdrop (xs : List Char) (p : Char → Bool) :
            xs.takeWhile p ++ xs.drop (xs.takeWhile p).length = xs :=
          List.prefix_iff_eq_append.mp (List.takeWhile_prefix p)
        rw [← hrest, ← List.drop_drop, hdrop, hdrop]
      · simpa using List.mem_takeWhile_imp hc
  · cases h

/-- A key is found in just the texts that read as a pair. -/
theorem readsAsPair_iff {cs : List Char} : ReadsAsPair cs ↔ (key? cs).isSome = true := by
  constructor
  · rintro ⟨key, gap, rest, rfl, hk, hgap⟩
    rw [key?_append hk hgap]
    rfl
  · intro h
    obtain ⟨found, hfound⟩ := Option.isSome_iff_exists.mp h
    exact readsAsPair_of_key? hfound

instance (cs : List Char) : Decidable (ReadsAsPair cs) := decidable_of_iff _ readsAsPair_iff.symm

theorem key?_eq_none {cs : List Char} (h : ¬ ReadsAsPair cs) : key? cs = none := by
  rwa [readsAsPair_iff, Option.not_isSome_iff_eq_none] at h

/-- What does not read as a pair does not with a comma after it either. -/
theorem not_readsAsPair_append_comma {cs : List Char} (h : ¬ ReadsAsPair cs) (rest : List Char) :
    ¬ ReadsAsPair (cs ++ ',' :: rest) := by
  rintro ⟨key, gap, after, heq, hk, hgap⟩
  have hsplit : cs ++ ',' :: rest = (key ++ (gap ++ [':'])) ++ after := by simp [heq]
  rcases List.append_eq_append_iff.mp hsplit with ⟨more, hpair, hmore⟩ | ⟨more, hcs, -⟩
  · cases more with
    | nil =>
      rw [List.append_nil] at hpair
      exact h ⟨key, gap, [], hpair.symm, hk, hgap⟩
    | cons c more =>
      -- The comma would be a character of the key, one of the gap, or the colon.
      cases hmore
      have hmem : ',' ∈ key ++ (gap ++ [':']) := by simp [hpair]
      rcases List.mem_append.mp hmem with hmem | hmem
      · exact (isInert_of_isKeyChar (hk.chars _ hmem)).2.1 rfl
      · rcases List.mem_append.mp hmem with hmem | hmem
        · rcases hgap _ hmem with hc | hc <;> cases hc
        · cases List.mem_singleton.mp hmem
  · exact h ⟨key, gap, more, by simp [hcs], hk, hgap⟩

/-! ## Pieces of a list of pairs -/

section Pieces

variable {key value junk : List Char} (p : Properties) (first : Bool)

/-- A key with a colon right behind it is found. -/
theorem key?_pair (hk : IsKey key) (rest : List Char) :
    key? (key ++ ':' :: rest) = some (key.length, key.length + 1) :=
  key?_append hk (fun _ (hc : _ ∈ []) => nomatch hc) rest

/-- How a text that starts with a pair is read: up to the first separator after the key. -/
theorem addPairs_pair (hk : IsKey key) (region : List Char) :
    addPairs p first (key ++ ':' :: region) =
      (find? isSeparator region).elim (p.put key region) fun found =>
        if found.2 = ',' then
          addPairs (p.put key (region.take found.1)) false (trimStart (region.drop (found.1 + 1)))
        else
          { p.put key (region.take found.1) with
            content := String.ofList (trim (region.drop (found.1 + 1))) } := by
  have hkey := key?_pair hk region
  have htake : (key ++ ':' :: region).take key.length = key := List.take_left
  have hdrop : (key ++ ':' :: region).drop (key.length + 1) = region :=
    List.drop_length_add_append 1
  obtain ⟨k, ks, hcons⟩ := List.exists_cons_of_ne_nil hk.ne_nil
  have htext : key ++ ':' :: region = k :: (ks ++ ':' :: region) := by rw [hcons, List.cons_append]
  generalize key ++ ':' :: region = text at *
  rw [htext, addPairs, ← htext, hkey]
  simp only [htake, hdrop]
  rw [show (fun c => decide (c = ',') || decide (c = ':')) = isSeparator from rfl]
  cases find? isSeparator region <;> rfl

/-- A pair that ends at a comma is followed by further pieces. -/
theorem addPairs_comma (hk : IsKey key) (hv : Sealed isSeparator value) (rest : List Char) :
    addPairs p first (key ++ ':' :: (value ++ ',' :: rest)) =
      addPairs (p.put key value) false (trimStart rest) := by
  rw [addPairs_pair p first hk, find?_append_cons separators_isSeparator hv rfl, Option.elim_some,
    if_pos rfl, List.take_left, List.drop_length_add_append, List.drop_succ_cons, List.drop_zero]

/-- A pair that ends at a colon is followed by the content. -/
theorem addPairs_colon (hk : IsKey key) (hv : Sealed isSeparator value) (rest : List Char) :
    addPairs p first (key ++ ':' :: (value ++ ':' :: rest)) =
      { p.put key value with content := String.ofList (trim rest) } := by
  rw [addPairs_pair p first hk, find?_append_cons separators_isSeparator hv rfl, Option.elim_some,
    if_neg (show ¬ ':' = ',' by decide),
    List.take_left, List.drop_length_add_append, List.drop_succ_cons, List.drop_zero]

/-- A pair that ends with the text is the last. -/
theorem addPairs_end (hk : IsKey key) (hv : Sealed isSeparator value) :
    addPairs p first (key ++ ':' :: value) = p.put key value := by
  rw [addPairs_pair p first hk, find?_eq_none separators_isSeparator hv]
  rfl

/-- A later piece that is no pair is set aside, and the pieces after it are read. -/
theorem addPairs_junk_comma (hne : junk ≠ []) (hpair : ¬ ReadsAsPair junk)
    (hj : Sealed (· = ',') junk) (rest : List Char) :
    addPairs p false (junk ++ ',' :: rest) = addPairs (p.setAside (trim junk)) false
      (trimStart rest) := by
  have hkey := key?_eq_none (not_readsAsPair_append_comma hpair rest)
  have hfind : find? (· = ',') (junk ++ ',' :: rest) = some (junk.length, ',') :=
    find?_append_cons separators_comma hj rfl rest
  have htake : (junk ++ ',' :: rest).take junk.length = junk := List.take_left
  obtain ⟨c, cs, rfl⟩ := List.exists_cons_of_ne_nil hne
  have hdrop : (cs ++ ',' :: rest).drop (c :: cs).length = rest := List.drop_length_add_append 1
  rw [List.cons_append] at hkey hfind htake ⊢
  rw [addPairs, hkey, hfind]
  simp only [htake, hdrop]
  rfl

/-- A last piece that is no pair is set aside. -/
theorem addPairs_junk_end (hne : junk ≠ []) (hpair : ¬ ReadsAsPair junk)
    (hj : Sealed (· = ',') junk) : addPairs p false junk = p.setAside (trim junk) := by
  have hkey := key?_eq_none hpair
  have hfind := find?_eq_none separators_comma hj
  obtain ⟨c, cs, rfl⟩ := List.exists_cons_of_ne_nil hne
  have hdrop : cs.drop (c :: cs).length = [] := List.drop_eq_nil_of_le (by simp)
  rw [addPairs, hkey, hfind]
  simp only [hdrop, List.take_length]
  rw [trimStart, List.dropWhile_nil, addPairs]
  rfl

end Pieces

end PageLang.Properties
