import PageLang.Proofs.Expr.Language
import PageLang.Proofs.Properties.Scan

/-!
# Actions among properties

The tokens of an expression close the parentheses they open, and its commas stand inside
parentheses (`Derives.nested`); so do the tokens of an action. A search for separators does not
read tokens, it counts brackets and quotes character by character. It comes to the same, token by
token, as long as no string literal holds the quote that is around it:

> `Program.sealed_of_parse`: an action without such a literal is sealed against commas and colons.
-/

namespace PageLang

namespace Grammar

/-! ## Tokens -/

/-- How many parentheses are open after one token more. -/
def nest (depth : Nat) : Token → Nat
  | .leftParen => depth + 1
  | .rightParen => depth - 1
  | _ => depth

/-- Whether every comma stands inside parentheses. -/
def commasInside : Nat → List Token → Bool
  | _, [] => true
  | depth, t :: ts => !(depth = 0 && t = .comma) && commasInside (nest depth t) ts

/-- Commas lie inside parentheses if they do in both parts, the second begun at the depth the
first leaves. -/
theorem commasInside_append (depth : Nat) (ts us : List Token) :
    commasInside depth (ts ++ us)
      = (commasInside depth ts && commasInside (ts.foldl nest depth) us) := by
  induction ts generalizing depth with
  | nil => rfl
  | cons t ts ih =>
    rw [List.cons_append, commasInside, commasInside, ih, List.foldl_cons, Bool.and_assoc]

/-- Inside at least `least` parentheses, the tokens close what they open and no comma stands
outside. -/
structure Nested (least : Nat) (ts : List Token) : Prop where
  closed : ∀ depth, least ≤ depth → ts.foldl nest depth = depth
  commas : ∀ depth, least ≤ depth → commasInside depth ts = true

variable {limit least m : Nat} {ts us : List Token}

/-- What is nested on its own is nested inside more parentheses. -/
theorem Nested.mono (h : Nested 0 ts) : Nested least ts :=
  ⟨fun d _ => h.closed d (Nat.zero_le d), fun d _ => h.commas d (Nat.zero_le d)⟩

/-- Nested parts can be put behind each other. -/
theorem Nested.append (ht : Nested least ts) (hu : Nested least us) : Nested least (ts ++ us) where
  closed d hd := by rw [List.foldl_append, ht.closed d hd, hu.closed d hd]
  commas d hd := by rw [commasInside_append, ht.commas d hd, ht.closed d hd, hu.commas d hd]; rfl

theorem nested_nil : Nested least [] := ⟨fun _ _ => rfl, fun _ _ => rfl⟩

/-- A comma may stand inside one parenthesis. -/
theorem nested_comma : Nested 1 [.comma] where
  closed _ _ := rfl
  commas d hd := by
    have hd0 : d ≠ 0 := by omega
    simp [commasInside, hd0]

/-- A token that is neither a parenthesis nor a comma. -/
def isNeutral (t : Token) : Bool := t ≠ .leftParen && t ≠ .rightParen && t ≠ .comma

/-- A token that is neither a parenthesis nor a comma is nested anywhere. -/
theorem nested_singleton {t : Token} (h : isNeutral t = true) : Nested least [t] := by
  simp only [isNeutral, Bool.and_eq_true, decide_eq_true_eq] at h
  have hnest (d : Nat) : nest d t = d := by
    unfold nest
    split
    · exact absurd rfl h.1.1
    · exact absurd rfl h.1.2
    · rfl
  exact ⟨fun d _ => hnest d, fun d _ => by simp [commasInside, h.2]⟩

theorem Nested.cons {t : Token} (ht : isNeutral t = true) (h : Nested least ts) :
    Nested least (t :: ts) :=
  (nested_singleton ht).append h

/-- What is inside parentheses may have commas. -/
theorem Nested.parens (h : Nested 1 ts) : Nested least (.leftParen :: (ts ++ [.rightParen])) where
  closed d _ := by
    rw [List.foldl_cons, List.foldl_append, nest, h.closed (d + 1) (by omega)]
    rfl
  commas d _ := by
    rw [commasInside, nest, commasInside_append, h.commas (d + 1) (by omega),
      h.closed (d + 1) (by omega)]
    simp [commasInside]

/-- A target has neither parentheses nor commas. -/
theorem Target.nested {name : String} (h : Target ts name) : Nested least ts := by
  rcases h with rfl | rfl
  · exact nested_singleton rfl
  · exact .cons rfl (.cons rfl (nested_singleton rfl))

/-- Arguments have their commas inside the parentheses of the call. -/
theorem nested_arguments {items : List (List Token)} (h : Arguments items ts)
    (heach : ∀ item ∈ items, Nested 0 item) : Nested 1 ts := by
  induction items generalizing ts with
  | nil =>
    rw [arguments_nil.mp h]
    exact nested_nil
  | cons i items ih =>
    have hi : Nested 1 i := (heach i (List.mem_cons_self ..)).mono
    rcases arguments_cons.mp h with ⟨-, rfl⟩ | ⟨us, hus, rfl⟩
    · exact hi
    · have hrest := ih hus fun item hitem => heach item (List.mem_cons_of_mem _ hitem)
      exact hi.append (nested_comma.append hrest)

theorem isNeutral_unary (op : UnaryOp) : isNeutral op.token = true := by cases op <;> rfl

theorem isNeutral_binary (op : BinaryOp) : isNeutral op.token = true := by cases op <;> rfl

theorem isNeutral_assign {op : BinaryOp} {t : Token} (h : op.assignToken? = some t) :
    isNeutral t = true := by
  cases op <;> cases h <;> rfl

/-- **The tokens of an expression close what they open, with commas inside parentheses only.** -/
theorem Derives.nested {form : Form} {e : Expr} (h : Derives limit form m ts e) : Nested 0 ts := by
  induction h with
  | number _ => exact nested_singleton rfl
  | string => exact nested_singleton rfl
  | trueWord => exact nested_singleton rfl
  | falseWord => exact nested_singleton rfl
  | entry target => exact target.nested
  | parens _ _ ih => exact ih.mono.parens
  | @call m name ts items depth each between ih =>
    refine .cons rfl (nested_arguments between fun item hitem => ?_).parens
    obtain ⟨pair, hpair, rfl⟩ := List.mem_map.mp hitem
    exact ih pair hpair
  | unary op _ _ ih => exact .cons (isNeutral_unary op) ih
  | first _ _ ih => exact ih
  | next op _ _ _ ihLeft ihRight => exact ihLeft.append (.cons (isNeutral_binary op) ihRight)
  | operand _ ih => exact ih

/-- A statement is nested. -/
theorem DerivesStatement.nested {s : Statement} (h : DerivesStatement limit ts s) :
    Nested 0 ts := by
  cases h with
  | assign target value => exact target.nested.append (.cons rfl value.nested)
  | compound target written value =>
    exact target.nested.append (.cons (isNeutral_assign written) value.nested)
  | incrementAfter target => exact target.nested.append (nested_singleton rfl)
  | decrementAfter target => exact target.nested.append (nested_singleton rfl)
  | incrementBefore target => exact .cons rfl target.nested
  | decrementBefore target => exact .cons rfl target.nested
  | @call name ts items each between =>
    refine .cons rfl (nested_arguments between fun item hitem => ?_).parens
    obtain ⟨pair, hpair, rfl⟩ := List.mem_map.mp hitem
    exact (each pair hpair).nested

theorem nested_semicolons (n : Nat) : Nested least (List.replicate n .semicolon) := by
  induction n with
  | zero => exact nested_nil
  | succ n ih => exact .cons rfl ih

/-- An action is nested. -/
theorem DerivesProgram.nested {ss : List Statement} (h : DerivesProgram limit ts ss) :
    Nested 0 ts := by
  induction h with
  | last n only => exact only.nested.append (nested_semicolons n)
  | next n head _ ih => exact head.nested.append ((nested_semicolons _).append ih)

/-- A statement starts with a name or with one of the operators that stand before one. -/
theorem DerivesStatement.head_ne_string {s : Statement} (h : DerivesStatement limit ts s)
    (body : String) : ts.head? ≠ some (.string body) := by
  have extend {us vs name} (target : Target us name) : (us ++ vs).head? ≠ some (.string body) := by
    rcases target with rfl | rfl <;> exact fun heq => nomatch heq
  cases h with
  | assign target _ => exact extend target
  | compound target _ _ => exact extend target
  | incrementAfter target => exact extend target
  | decrementAfter target => exact extend target
  | incrementBefore _ => exact fun heq => nomatch heq
  | decrementBefore _ => exact fun heq => nomatch heq
  | call _ _ => exact fun heq => nomatch heq

/-- No action starts with a string. -/
theorem DerivesProgram.head_ne_string {ss : List Statement} (h : DerivesProgram limit ts ss)
    (body : String) : ts.head? ≠ some (.string body) := by
  have extend {us vs s} (statement : DerivesStatement limit us s) :
      (us ++ vs).head? ≠ some (.string body) := by
    obtain ⟨t, rest, rfl, -⟩ := statement.exists_head
    exact statement.head_ne_string body
  cases h with
  | last _ only => exact extend only
  | next _ head _ => exact extend head

end Grammar

/-! ## Characters -/

namespace Token

open Properties (Scan isSeparator)
open Properties.Scan (isInert)
open Grammar (nest commasInside)

/-- The string literal that a token starting with `c` is, if it is one: its quote and what is
between. -/
def literal (c : Char) : Token → List (Char × List Char)
  | .string body => [(c, body.toList)]
  | _ => []

/-- The string literals of a text. -/
def literals : List Char → List (Char × List Char)
  | [] => []
  | c :: rest =>
    if isGap c then literals rest
    else
      match first? (c :: rest) with
      | none => []
      | some (token, n) => token.literal c ++ literals (rest.drop (n - 1))
termination_by cs => cs.length
decreasing_by all_goals simp only [List.length_cons, List.length_drop]; omega

/-- What a search for separators sees of a token: parentheses, a comma, or nothing. -/
structure Reads (t : Token) (cs : List Char) : Prop where
  after : ∀ depth, Scan.after ⟨depth, none⟩ cs = ⟨nest depth t, none⟩
  passes : ∀ depth, Scan.passes isSeparator ⟨depth, none⟩ cs = !(depth = 0 && t = .comma)

/-- A token without quotes, brackets and separators changes nothing that is open. -/
theorem reads_of_isInert {t : Token} (ht : Grammar.isNeutral t = true) {cs : List Char}
    (h : ∀ c ∈ cs, isInert c = true ∧ isSeparator c = false) : Reads t cs := by
  have hneutral : Grammar.Nested 0 [t] := Grammar.nested_singleton ht
  constructor
  · intro d
    rw [Scan.after_of_isInert fun c hc => (h c hc).1]
    exact congrArg (Scan.mk · none) (hneutral.closed d (Nat.zero_le d)).symm
  · intro d
    have hcommas := hneutral.commas d (Nat.zero_le d)
    rw [commasInside, commasInside, Bool.and_true] at hcommas
    rw [Scan.passes_of_forall fun c hc => (h c hc).2, hcommas]

/-- The characters of names and numbers mean nothing to a search for separators. -/
theorem isInert_of_isNameChar {c : Char} (h : Text.isNameChar c = true ∨ c = '.') :
    isInert c = true ∧ isSeparator c = false := by
  constructor
  · by_contra hc
    simp only [isInert, Text.isQuote, Properties.isOpening, Properties.isClosing, Bool.and_eq_true,
      Bool.not_eq_true', Bool.or_eq_false_iff, decide_eq_false_iff_not, not_and_or, not_not] at hc
    rcases hc with ((rfl | rfl) | (rfl | rfl) | rfl) | (rfl | rfl) | rfl <;> exact absurd h
      (by decide)
  · by_contra hc
    simp only [isSeparator, Bool.not_eq_false, Bool.or_eq_true, decide_eq_true_eq] at hc
    rcases hc with rfl | rfl <;> exact absurd h (by decide)

/-- A string opens its quote and closes it. -/
theorem reads_string {q : Char} (hq : Text.isQuote q = true) {body : List Char} (h : q ∉ body)
    (text : String) : Reads (.string text) (q :: (body ++ [q])) where
  after := Scan.after_quoted hq h
  passes d := (Scan.passes_quoted hq h d (Properties.separators_isSeparator.of_isQuote hq)).trans
    (by simp)

/-- A token reads as it is spelled, if it is not a string that holds the quote around it. -/
theorem reads_of_denotes {c : Char} {cs : List Char} {t : Token} (h : Denotes (c :: cs) t)
    (hquote : ∀ l ∈ t.literal c, l.1 ∉ l.2) : Reads t (c :: cs) := by
  have hdigits {ds : List Char} (hds : ds ∈ Pattern.digits) : ∀ d ∈ ds, isInert d = true
      ∧ isSeparator d = false :=
    fun d hd =>
      isInert_of_isNameChar (.inl (isNameChar_of_isDigit ((Pattern.mem_digits.mp hds).2 d hd)))
  cases t with
  | ident name =>
    obtain ⟨d, ds, hslice, hd, hds⟩ := Pattern.mem_name.mp h.fits
    rw [hslice]
    exact reads_of_isInert rfl (List.forall_mem_cons.mpr
      ⟨isInert_of_isNameChar (.inl (isNameChar_of_isNameStart hd)),
        fun e he => isInert_of_isNameChar (.inl (hds e he))⟩)
  | number text =>
    rcases Pattern.mem_numeral.mp h.fits with hds | ⟨ds, fs, hslice, hds, hfs⟩
    · exact reads_of_isInert rfl (hdigits hds)
    · rw [hslice]
      refine reads_of_isInert rfl
        (List.forall_mem_append.mpr ⟨hdigits hds, List.forall_mem_cons.mpr ⟨?_, hdigits hfs⟩⟩)
      exact isInert_of_isNameChar (.inr rfl)
  | string text =>
    obtain ⟨q, hq, hslice⟩ := mem_pattern_string.mp h.fits
    obtain ⟨body, -, heq⟩ := Pattern.mem_quoted.mp hslice
    obtain ⟨rfl, rfl⟩ := List.cons.inj heq
    have htext : text = String.ofList body :=
      h.keeps.trans (congrArg String.ofList List.dropLast_concat)
    have hnot := hquote _ (List.mem_singleton_self _)
    rw [htext, String.toList_ofList] at hnot
    exact reads_string hq hnot text
  | _ =>
    cases Set.mem_singleton_iff.mp h.fits
    exact ⟨fun d => rfl, fun d => by simp [Scan.passes, isSeparator]⟩

/-- The literals of a text are those of its first token and those of the rest. -/
theorem literals_append_of_first? {c : Char} {cs rest : List Char} {t : Token}
    (hgap : isGap c = false) (h : first? (c :: cs ++ rest) = some (t, (c :: cs).length)) :
    literals (c :: cs ++ rest) = t.literal c ++ literals rest := by
  have hrest : (cs ++ rest).drop ((c :: cs).length - 1) = rest := List.drop_left
  rw [List.cons_append] at h ⊢
  rw [literals, if_neg (by simp [hgap]), h]
  dsimp only
  rw [hrest]

/-- Reading a text character by character comes to the same as reading its tokens. -/
theorem Cuts.after_eq {pos : Nat} {cs : List Char} {ls : List Lexeme} (h : Cuts pos cs ls)
    (hquotes : ∀ l ∈ literals cs, l.1 ∉ l.2) (depth : Nat) :
    Scan.after ⟨depth, none⟩ cs = ⟨(ls.map Lexeme.token).foldl nest depth, none⟩
      ∧ Scan.passes isSeparator ⟨depth, none⟩ cs = commasInside depth (ls.map Lexeme.token) := by
  induction h generalizing depth with
  | done => exact ⟨rfl, rfl⟩
  | @gap pos c rest ls hgap _ ih =>
    rw [literals, if_pos hgap] at hquotes
    have hinert : isInert c = true ∧ isSeparator c = false := by
      simp only [isGap, Bool.or_eq_true, decide_eq_true_eq] at hgap
      rcases hgap with ((rfl | rfl) | rfl) | rfl <;> decide
    rw [Scan.after_cons, Scan.passes, Scan.step_of_isInert hinert.1, hinert.2, Bool.and_false]
    exact ih hquotes depth
  | @token pos slice rest t ls hfirst _ ih =>
    -- The characters of a token nest as the token does and leave no quote open.
    have hdenotes := (first?_append_eq_some_iff.mp hfirst).1
    obtain ⟨c, cs, rfl, hgap⟩ := exists_cons_of_mem_pattern hdenotes.fits
    rw [literals_append_of_first? hgap hfirst, List.forall_mem_append] at hquotes
    have hreads := reads_of_denotes hdenotes hquotes.1
    obtain ⟨hafter, hpasses⟩ := ih hquotes.2 (nest depth t)
    rw [Scan.after_append, Scan.passes_append, hreads.after, hreads.passes, hafter, hpasses]
    exact ⟨rfl, rfl⟩

/-- A quote starts a string. -/
theorem exists_string_of_isQuote {q : Char} (hq : Text.isQuote q = true) {pos : Nat}
    {rest : List Char} {ls : List Lexeme} (h : lexFrom pos (q :: rest) = .ok ls) :
    ∃ body, (ls.map Lexeme.token).head? = some (.string body) := by
  have hgap : isGap q = false := by
    simp only [Text.isQuote, Bool.or_eq_true, decide_eq_true_eq] at hq
    rcases hq with rfl | rfl <;> decide
  rw [lexFrom, if_neg (by simp [hgap]), first?_quote hq] at h
  cases hbody : stringBody? q rest with
  | none =>
    rw [hbody] at h
    cases h
  | some body =>
    rw [hbody] at h
    obtain ⟨ls', -, rfl⟩ := Grammar.of_map_eq_ok h
    exact ⟨_, rfl⟩

end Token

open Properties (Sealed isSeparator)

/-- **An action is sealed against commas and colons**, if none of its string literals holds the
quote that is around it. -/
theorem Program.sealed_of_parse {source : String} {p : Program} (h : Program.parse source = .ok p)
    (hquotes : ∀ l ∈ Token.literals source.toList, l.1 ∉ l.2) :
    Sealed isSeparator source.toList := by
  obtain ⟨-, ls, hls, hderives⟩ := Program.parse_eq_ok_iff.mp h
  obtain ⟨hafter, hpasses⟩ := (tokenize_eq_ok_iff_cuts.mp hls).after_eq hquotes 0
  have hnested := hderives.nested
  rw [hnested.closed 0 (Nat.le_refl 0)] at hafter
  rw [hnested.commas 0 (Nat.le_refl 0)] at hpasses
  exact ⟨hafter, hpasses⟩

/-- An action is not empty and does not start with a quote. -/
theorem Program.exists_head_of_parse {source : String} {p : Program}
    (h : Program.parse source = .ok p) :
    ∃ c rest, source.toList = c :: rest ∧ Text.isQuote c = false := by
  obtain ⟨-, ls, hls, hderives⟩ := Program.parse_eq_ok_iff.mp h
  have hlex := tokenize_eq_ok_iff.mp hls
  cases hsource : source.toList with
  | nil =>
    obtain ⟨t, ts, hts, -⟩ := hderives.exists_head
    rw [hsource, Token.lexFrom] at hlex
    cases hlex
    cases hts
  | cons c rest =>
    refine ⟨c, rest, rfl, ?_⟩
    rw [← Bool.not_eq_true]
    intro hquote
    rw [hsource] at hlex
    obtain ⟨body, hbody⟩ := Token.exists_string_of_isQuote hquote hlex
    exact hderives.head_ne_string body hbody

end PageLang
