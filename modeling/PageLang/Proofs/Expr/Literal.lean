import PageLang.Proofs.Expr.Language

/-!
# String literals

A text is written as a literal by putting a backslash before each backslash and before each quote
of the kind that goes around it. Two readers have to agree on such a literal. The tokeniser looks
for the quote that ends it and skips what stands after a backslash; then the parser takes the
backslashes away, and makes a line feed of `\n` and a tab of `\t`. Neither is misled, whatever the
text holds:

> `Expr.parse_literal`: a literal is one token, and an expression whose value is the text.
-/

namespace PageLang

open Text (isQuote)

namespace Text

/-- The text with a backslash before each backslash and before each quote `q`. -/
def backslashed (q : Char) (cs : List Char) : List Char :=
  cs.flatMap fun c => if c = '\\' ∨ c = q then ['\\', c] else [c]

/-- The text as a literal between quotes `q`. -/
def literal (q : Char) (s : String) : String := String.ofList (q :: (backslashed q s.toList ++ [q]))

theorem backslashed_cons_of_special {q c : Char} (h : c = '\\' ∨ c = q) (cs : List Char) :
    backslashed q (c :: cs) = '\\' :: c :: backslashed q cs := by
  rw [backslashed, List.flatMap_cons, if_pos h]
  rfl

theorem backslashed_cons_of_plain {q c : Char} (h : ¬ (c = '\\' ∨ c = q)) (cs : List Char) :
    backslashed q (c :: cs) = c :: backslashed q cs := by
  rw [backslashed, List.flatMap_cons, if_neg h]
  rfl

end Text

open Text (backslashed literal)
open scoped Computability

section Backslashed

variable {q : Char} (hq : isQuote q = true)
include hq

/-- A character that gets a backslash is no line feed and none of the letters with a meaning after
a backslash. -/
theorem isQuote_or_backslash {c : Char} (h : c = '\\' ∨ c = q) : c ≠ '\n' ∧ c ≠ 'n' ∧ c ≠ 't' := by
  simp only [isQuote, Bool.or_eq_true, decide_eq_true_eq] at hq
  rcases h with rfl | rfl
  · decide
  · rcases hq with rfl | rfl <;> decide

/-- No quote in a literal ends it too early. -/
theorem backslashed_mem_pieces (cs : List Char) : backslashed q cs ∈ (Pattern.piece q)∗ := by
  induction cs with
  | nil => exact Language.nil_mem_kstar _
  | cons c cs ih =>
    by_cases hc : c = '\\' ∨ c = q
    · rw [Text.backslashed_cons_of_special hc]
      exact Pattern.escaped_cons_mem (isQuote_or_backslash hq hc).1 ih
    · rw [Text.backslashed_cons_of_plain hc]
      rw [not_or] at hc
      exact Pattern.plain_cons_mem hc.2 hc.1 ih

/-- Reading a literal takes away the backslashes that writing it put in. -/
theorem unescape_backslashed (cs : List Char) : Parser.unescape (backslashed q cs) = cs := by
  induction cs with
  | nil => rfl
  | cons c cs ih =>
    by_cases hc : c = '\\' ∨ c = q
    · obtain ⟨-, hn, ht⟩ := isQuote_or_backslash hq hc
      rw [Text.backslashed_cons_of_special hc, Parser.unescape, if_neg hn, if_neg ht, ih]
    · rw [Text.backslashed_cons_of_plain hc, Parser.unescape, ih]
      intro d rest heq
      exact absurd (.inl heq) hc

theorem denotes_literal (s : String) :
    Token.Denotes (literal q s).toList (.string (String.ofList (backslashed q s.toList))) := by
  rw [literal, String.toList_ofList]
  refine ⟨Token.mem_pattern_string.mpr
    ⟨q, hq, Pattern.mem_quoted.mpr ⟨_, backslashed_mem_pieces hq s.toList, rfl⟩⟩, ?_, ?_⟩
  · exact congrArg String.ofList List.dropLast_concat.symm
  · intro name h
    cases h

end Backslashed

/-- **Every text has a literal, with either quote.** The literal is one token that covers it
whole, and as an expression it stands for the text. -/
theorem Expr.parse_literal (s : String) (q : Char) (hq : q = '"' ∨ q = '\x27') :
    tokenize (literal q s)
        = .ok [⟨.string (String.ofList (backslashed q s.toList)), 0, (literal q s).utf8ByteSize⟩]
      ∧ Expr.parse (literal q s) = .ok (.string s) := by
  have hquote : isQuote q = true := by simpa [isQuote] using hq
  have hcuts := Token.Cuts.of_denotes (denotes_literal hquote s) 0
  rw [Nat.zero_add, ← Text.utf8Len_eq_byteLength, String.utf8Len_toList] at hcuts
  have htokens := tokenize_eq_ok_iff_cuts.mpr hcuts
  refine ⟨htokens, Expr.parse_eq_ok_iff.mpr ⟨_, htokens, ?_⟩⟩
  have hstring :
      Grammar.Derives maxNesting (.operand 0) 1
          [.string (String.ofList (backslashed q s.toList))] _ :=
    Grammar.derives_loosen .string Grammar.unaryStrength
  rw [String.toList_ofList, unescape_backslashed hquote, String.ofList_toList] at hstring
  exact hstring

/-- Backslashes before `n`, before `t` and before quotes, a line feed, both quotes and letters of
several bytes. -/
theorem Expr.parse_literal_runs :
    tokenize "'\\\\n\\\\\\\\t\n\\\\\\'\"ß\\\\'"
        = .ok [⟨.string "\\\\n\\\\\\\\t\n\\\\\\'\"ß\\\\", 0, 20⟩]
      ∧ Expr.parse "'\\\\n\\\\\\\\t\n\\\\\\'\"ß\\\\'" = .ok (.string "\\n\\\\t\n\\'\"ß\\") := by
  have h := Expr.parse_literal "\\n\\\\t\n\\'\"ß\\" '\x27' (.inr rfl)
  exact h

end PageLang
