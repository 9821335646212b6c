import Mathlib.Computability.Language
import PageLang.Proofs.Text.Trim
import PageLang.Token

/-!
# What tokens look like

The texts that fit a kind of token are a regular language, its `pattern`: one fixed text, the
names, the numerals, or what is between quotes. Some texts fit two patterns, for `true` and
`false` could be names; `Denotes` says which token a text stands for.

`Token.first?` does not try patterns. It looks at the first character and reads on as far as that
tells it to. It comes to the same as taking the longest prefix that fits any pattern:

> `Token.first?_append_eq_some_iff`: the token that is found is the one that its text denotes, and
> no longer prefix fits a pattern.

> `Token.first?_eq_none_iff`: nothing is found exactly if no prefix fits a pattern.

Both rest on two halves. What is found denotes its token (`denotes_of_first?`), and where a prefix
fits, something at least as long is found (`exists_first?_of_denotes`).
-/

namespace PageLang

open Text (isNameStart isNameChar isQuote)
open scoped Computability

/-! ## Languages -/

namespace Pattern

/-- One character of a class. -/
def oneOf (p : Char → Bool) : Language Char := {w | ∃ c, w = [c] ∧ p c = true}

/-- A letter or `_`, then letters, digits and `_`. -/
def name : Language Char := oneOf isNameStart * (oneOf isNameChar)∗

/-- At least one digit. -/
def digits : Language Char := oneOf Char.isDigit * (oneOf Char.isDigit)∗

/-- Digits, and perhaps a point with further digits. -/
def numeral : Language Char := digits * (1 + {['.']} * digits)

/-- A piece of a text between quotes `q`: a character that is neither the quote nor a backslash,
or a backslash with any character but a line feed. -/
def piece (q : Char) : Language Char :=
  oneOf (fun c => c ≠ q && c ≠ '\\') + {['\\']} * oneOf fun c => c ≠ '\n'

/-- A text between quotes `q`. -/
def quoted (q : Char) : Language Char := {[q]} * (piece q)∗ * {[q]}

/-- One character of a class, and then a word of the language. -/
theorem mem_oneOf_mul {p : Char → Bool} {l : Language Char} {w : List Char} :
    w ∈ oneOf p * l ↔ ∃ c cs, w = c :: cs ∧ p c = true ∧ cs ∈ l := by
  rw [Language.mem_mul]
  constructor
  · rintro ⟨_, ⟨c, rfl, hc⟩, cs, hcs, rfl⟩
    exact ⟨c, cs, rfl, hc, hcs⟩
  · rintro ⟨c, cs, rfl, hc, hcs⟩
    exact ⟨[c], ⟨c, rfl, hc⟩, cs, hcs, rfl⟩

/-- One given character, and then a word of the language. -/
theorem mem_singleton_mul {c : Char} {l : Language Char} {w : List Char} :
    w ∈ ({[c]} : Language Char) * l ↔ ∃ cs ∈ l, w = c :: cs := by
  rw [Language.mem_mul]
  constructor
  · rintro ⟨_, rfl, cs, hcs, rfl⟩
    exact ⟨cs, hcs, rfl⟩
  · rintro ⟨cs, hcs, rfl⟩
    exact ⟨[c], rfl, cs, hcs, rfl⟩

/-- Any number of characters of a class. -/
theorem mem_oneOf_kstar {p : Char → Bool} {w : List Char} :
    w ∈ (oneOf p)∗ ↔ ∀ c ∈ w, p c = true := by
  constructor
  · rintro ⟨pieces, rfl, hpieces⟩ c hc
    obtain ⟨piece, hpiece, hcpiece⟩ := List.mem_flatten.mp hc
    obtain ⟨d, rfl, hd⟩ := hpieces piece hpiece
    rwa [List.mem_singleton.mp hcpiece]
  · intro h
    refine ⟨w.map ([·]), (List.flatMap_singleton' w).symm, fun piece hpiece => ?_⟩
    obtain ⟨c, hc, rfl⟩ := List.mem_map.mp hpiece
    exact ⟨c, rfl, h c hc⟩

/-- One word more in front of any number of them. -/
theorem append_mem_kstar {l : Language Char} {x y : List Char} (hx : x ∈ l) (hy : y ∈ l∗) :
    x ++ y ∈ l∗ := by
  rw [← Language.one_add_self_mul_kstar_eq_kstar]
  exact .inr (Language.append_mem_mul hx hy)

/-- A body may start with a plain character. -/
theorem plain_cons_mem {q c : Char} {body : List Char} (hquote : c ≠ q) (hslash : c ≠ '\\')
    (h : body ∈ (piece q)∗) : c :: body ∈ (piece q)∗ := by
  have hpiece : [c] ∈ piece q := .inl ⟨c, rfl, by simp [hquote, hslash]⟩
  exact append_mem_kstar hpiece h

/-- A body may start with an escaped character, unless it is a line feed. -/
theorem escaped_cons_mem {q c : Char} {body : List Char} (hc : c ≠ '\n') (h : body ∈ (piece q)∗) :
    '\\' :: c :: body ∈ (piece q)∗ := by
  have hpiece : ['\\', c] ∈ piece q :=
    .inr (mem_singleton_mul.mpr ⟨[c], ⟨c, rfl, decide_eq_true hc⟩, rfl⟩)
  exact append_mem_kstar hpiece h

/-- A name is a start character and further name characters. -/
theorem mem_name {w : List Char} :
    w ∈ name ↔ ∃ c cs, w = c :: cs ∧ isNameStart c = true ∧ ∀ d ∈ cs, isNameChar d = true := by
  simp only [name, mem_oneOf_mul, mem_oneOf_kstar]

/-- Digits are one or more. -/
theorem mem_digits {w : List Char} : w ∈ digits ↔ w ≠ [] ∧ ∀ c ∈ w, c.isDigit = true := by
  simp only [digits, mem_oneOf_mul, mem_oneOf_kstar]
  constructor
  · rintro ⟨c, cs, rfl, hc, hcs⟩
    exact ⟨List.cons_ne_nil _ _, List.forall_mem_cons.mpr ⟨hc, hcs⟩⟩
  · rintro ⟨hne, hw⟩
    obtain ⟨c, cs, rfl⟩ := List.exists_cons_of_ne_nil hne
    exact ⟨c, cs, rfl, List.forall_mem_cons.mp hw⟩

/-- A numeral is digits, or digits on both sides of a point. -/
theorem mem_numeral {w : List Char} :
    w ∈ numeral ↔ w ∈ digits ∨ ∃ ds fs, w = ds ++ '.' :: fs ∧ ds ∈ digits ∧ fs ∈ digits := by
  rw [numeral, mul_add, mul_one, Language.mem_add, Language.mem_mul]
  refine or_congr_right ?_
  simp only [mem_singleton_mul]
  constructor
  · rintro ⟨ds, hds, _, ⟨fs, hfs, rfl⟩, rfl⟩
    exact ⟨ds, fs, rfl, hds, hfs⟩
  · rintro ⟨ds, fs, rfl, hds, hfs⟩
    exact ⟨ds, hds, _, ⟨fs, hfs, rfl⟩, rfl⟩

/-- A numeral starts with a digit. -/
theorem exists_digit_of_mem_numeral {w : List Char} (h : w ∈ numeral) :
    ∃ c cs, w = c :: cs ∧ c.isDigit = true := by
  rw [numeral, digits, mul_assoc] at h
  obtain ⟨c, cs, rfl, hc, -⟩ := mem_oneOf_mul.mp h
  exact ⟨c, cs, rfl, hc⟩

/-- A quoted text is a body between two quotes of its kind. -/
theorem mem_quoted {q : Char} {w : List Char} :
    w ∈ quoted q ↔ ∃ body ∈ (piece q)∗, w = q :: (body ++ [q]) := by
  rw [quoted, mul_assoc, mem_singleton_mul]
  constructor
  · rintro ⟨_, ⟨body, hbody, _, rfl, rfl⟩, rfl⟩
    exact ⟨body, hbody, rfl⟩
  · rintro ⟨body, hbody, rfl⟩
    exact ⟨_, Language.append_mem_mul hbody rfl, rfl⟩

end Pattern

/-! ## Patterns -/

namespace Token

/-- The texts that fit a token of this kind. -/
def pattern : Token → Language Char
  | trueWord => {['t', 'r', 'u', 'e']}
  | falseWord => {['f', 'a', 'l', 's', 'e']}
  | ident _ => Pattern.name
  | number _ => Pattern.numeral
  | string _ => Pattern.quoted '"' + Pattern.quoted '\x27'
  | increment => {['+', '+']}
  | decrement => {['-', '-']}
  | plusAssign => {['+', '=']}
  | minusAssign => {['-', '=']}
  | starAssign => {['*', '=']}
  | slashAssign => {['/', '=']}
  | plus => {['+']}
  | minus => {['-']}
  | star => {['*']}
  | slash => {['/']}
  | percent => {['%']}
  | assign => {['=']}
  | equal => {['=', '=']}
  | notEqual => {['!', '=']}
  | less => {['<']}
  | lessEqual => {['<', '=']}
  | greater => {['>']}
  | greaterEqual => {['>', '=']}
  | and => {['&', '&']}
  | or => {['|', '|']}
  | bang => {['!']}
  | leftParen => {['(']}
  | rightParen => {[')']}
  | comma => {[',']}
  | semicolon => {[';']}
  | dot => {['.']}

/-- What a token keeps of its text: a name and a number keep all of it, a string all but the
quotes. -/
def Keeps (slice : List Char) : Token → Prop
  | ident name => name = String.ofList slice
  | number text => text = String.ofList slice
  | string body => body = String.ofList slice.tail.dropLast
  | _ => True

/-- The token that a text stands for. A keyword comes before a name. -/
structure Denotes (slice : List Char) (t : Token) : Prop where
  fits : slice ∈ t.pattern
  keeps : t.Keeps slice
  keyword : ∀ name, t = .ident name → slice ∉ trueWord.pattern ∧ slice ∉ falseWord.pattern

/-- No prefix of a text that has more than `n` characters fits a pattern. -/
def NoneLonger (n : Nat) (cs : List Char) : Prop :=
  ∀ longer, longer <+: cs → n < longer.length → ∀ t : Token, longer ∉ t.pattern

variable {c : Char} {cs rest slice : List Char} {t : Token} {n : Nat}

/-- The pattern of strings does not look at the body. -/
theorem mem_pattern_string {body : String} :
    slice ∈ (string body).pattern ↔ ∃ q, isQuote q = true ∧ slice ∈ Pattern.quoted q := by
  simp only [isQuote, Bool.or_eq_true, decide_eq_true_eq]
  constructor
  · rintro (h | h)
    · exact ⟨_, .inl rfl, h⟩
    · exact ⟨_, .inr rfl, h⟩
  · rintro ⟨q, rfl | rfl, h⟩
    · exact .inl h
    · exact .inr h

/-! ## Words -/

theorem isNameChar_of_isNameStart (h : isNameStart c = true) : isNameChar c = true := by
  simp only [isNameStart, isNameChar, Char.isAlphanum, Bool.or_eq_true] at h ⊢
  exact h.imp_left .inl

/-- A name is read as far as it goes. -/
theorem first?_name (h : slice ∈ Pattern.name) (rest : List Char) :
    first? (slice ++ rest) = some (ofWord (slice ++ rest.takeWhile isNameChar),
      slice.length + (rest.takeWhile isNameChar).length) := by
  obtain ⟨c, cs, rfl, hc, hcs⟩ := Pattern.mem_name.mp h
  have hword : (c :: cs ++ rest).takeWhile isNameChar = c :: cs ++ rest.takeWhile isNameChar :=
    List.takeWhile_append_of_pos (List.forall_mem_cons.mpr ⟨isNameChar_of_isNameStart hc, hcs⟩)
  rw [List.cons_append] at hword ⊢
  rw [first?, if_pos hc, hword, ← List.length_append]

/-- A name denotes the keyword that it spells, or else itself. -/
theorem denotes_ofWord (h : slice ∈ Pattern.name) : Denotes slice (ofWord slice) := by
  unfold ofWord
  dsimp only
  split
  · next htrue =>
    exact ⟨String.ofList_injective htrue, trivial, by intro name h; cases h⟩
  · next htrue =>
    split
    · next hfalse =>
      exact ⟨String.ofList_injective hfalse, trivial, by intro name h; cases h⟩
    · next hfalse =>
      refine ⟨h, rfl, fun name _ => ⟨fun heq => htrue ?_, fun heq => hfalse ?_⟩⟩
      · exact congrArg String.ofList heq
      · exact congrArg String.ofList heq

/-- A word that denotes a name is no keyword. -/
theorem ofWord_of_denotes_ident {name : String} (h : Denotes slice (.ident name)) :
    ofWord slice = .ident name := by
  obtain ⟨htrue, hfalse⟩ := h.keyword name rfl
  unfold ofWord
  dsimp only
  rw [if_neg fun heq => htrue (String.ofList_injective heq),
    if_neg fun heq => hfalse (String.ofList_injective heq), h.keeps]

/-! ## Numbers -/

/-- A number takes at least the digits that a text starts with. -/
theorem length_takeWhile_le_numberLength (cs : List Char) :
    (cs.takeWhile Char.isDigit).length ≤ numberLength cs := by
  unfold numberLength
  dsimp only
  split
  · split <;> omega
  · exact Nat.le_refl _

/-- A number is read at least as far as a numeral goes. -/
theorem length_le_numberLength (h : slice ∈ Pattern.numeral) (rest : List Char) :
    slice.length ≤ numberLength (slice ++ rest) := by
  rcases Pattern.mem_numeral.mp h with h | ⟨ds, fs, rfl, hds, hfs⟩
  · have hlength := length_takeWhile_le_numberLength (slice ++ rest)
    rw [List.takeWhile_append_of_pos (Pattern.mem_digits.mp h).2, List.length_append] at hlength
    omega
  · have hwhole : (ds ++ '.' :: (fs ++ rest)).takeWhile Char.isDigit = ds :=
      Text.takeWhile_append_of_stop (Pattern.mem_digits.mp hds).2 (by rintro c ⟨⟩; decide)
    have hfraction : (fs ++ rest).takeWhile Char.isDigit = fs ++ rest.takeWhile Char.isDigit :=
      List.takeWhile_append_of_pos (Pattern.mem_digits.mp hfs).2
    have hpos : 0 < fs.length := List.length_pos_of_ne_nil (Pattern.mem_digits.mp hfs).1
    rw [List.append_assoc, List.cons_append]
    unfold numberLength
    dsimp only
    rw [hwhole, List.drop_left]
    show _ ≤ if ((fs ++ rest).takeWhile Char.isDigit).length = 0 then ds.length
      else ds.length + 1 + ((fs ++ rest).takeWhile Char.isDigit).length
    rw [hfraction, List.length_append, List.length_append, List.length_cons, if_neg (by omega)]
    omega

/-- What is read of a number is a numeral. -/
theorem mem_numeral_take {ds tail : List Char} (hds : ds ∈ Pattern.digits)
    (htail : ∀ c ∈ tail.head?, c.isDigit = false) :
    numberLength (ds ++ tail) ≤ (ds ++ tail).length
      ∧ (ds ++ tail).take (numberLength (ds ++ tail)) ∈ Pattern.numeral := by
  have hwhole : ds.length ≤ (ds ++ tail).length
      ∧ (ds ++ tail).take ds.length ∈ Pattern.numeral := by
    rw [List.take_left, List.length_append]
    exact ⟨Nat.le_add_right _ _, Pattern.mem_numeral.mpr (.inl hds)⟩
  unfold numberLength
  dsimp only
  rw [Text.takeWhile_append_of_stop (Pattern.mem_digits.mp hds).2 htail, List.drop_left]
  split
  · next rest =>
    split
    · exact hwhole
    · next hfraction =>
      -- The point belongs to the number, and so do the digits after it.
      have hpre : rest.takeWhile Char.isDigit <+: rest := List.takeWhile_prefix _
      rw [Nat.add_assoc, List.take_length_add_append, Nat.add_comm 1, List.take_succ_cons,
        ← List.prefix_iff_eq_take.mp hpre, List.length_append, List.length_cons]
      refine ⟨Nat.add_le_add_left (Nat.succ_le_succ hpre.length_le) _, ?_⟩
      refine Pattern.mem_numeral.mpr (.inr ⟨ds, _, rfl, hds, Pattern.mem_digits.mpr ⟨?_, ?_⟩⟩)
      · exact List.ne_nil_of_length_pos (Nat.pos_of_ne_zero hfraction)
      · exact fun c hc => List.mem_takeWhile_imp hc
  · exact hwhole

/-- What is taken as a number is a numeral. -/
theorem mem_numeral_take_cons (hc : c.isDigit = true) (rest : List Char) :
    numberLength (c :: rest) ≤ (c :: rest).length
      ∧ (c :: rest).take (numberLength (c :: rest)) ∈ Pattern.numeral := by
  have hsplit : c :: rest.takeWhile Char.isDigit ++ rest.dropWhile Char.isDigit = c :: rest := by
    rw [List.cons_append, List.takeWhile_append_dropWhile]
  rw [← hsplit]
  apply mem_numeral_take
  · exact Pattern.mem_digits.mpr
      ⟨List.cons_ne_nil _ _, List.forall_mem_cons.mpr ⟨hc, fun d hd => List.mem_takeWhile_imp hd⟩⟩
  · intro d hd
    have hnot := List.head?_dropWhile_not Char.isDigit rest
    rwa [Option.mem_def.mp hd] at hnot

theorem isNameStart_of_isDigit (h : c.isDigit = true) : isNameStart c = false := by
  have hdigit : 0x30 ≤ c.toNat ∧ c.toNat ≤ 0x39 := Char.isDigit_iff_toNat.mp h
  rw [← Bool.not_eq_true]
  intro hstart
  rcases Bool.or_eq_true_iff.mp hstart with halpha | hunder
  · rcases Bool.or_eq_true_iff.mp halpha with hupper | hlower
    · have hrange : 0x41 ≤ c.toNat ∧ c.toNat ≤ 0x5A := of_decide_eq_true hupper
      omega
    · have hrange : 0x61 ≤ c.toNat ∧ c.toNat ≤ 0x7A :=
        (Bool.and_eq_true_iff.mp hlower).imp of_decide_eq_true of_decide_eq_true
      omega
  · obtain rfl := beq_iff_eq.mp hunder
    cases h

/-- At a digit the longest token is a number. -/
theorem first?_digit (hc : c.isDigit = true) (rest : List Char) :
    first? (c :: rest)
      = some (.number (String.ofList ((c :: rest).take (numberLength (c :: rest)))),
      numberLength (c :: rest)) := by
  rw [first?, if_neg (by simp [isNameStart_of_isDigit hc]), if_pos hc]

/-! ## Strings -/

/-- A plain character is a part of the body, unless it is the closing quote. -/
theorem stringBody?_cons {q : Char} (hc : c ≠ '\\') (rest : List Char) :
    stringBody? q (c :: rest) = if c = q then some [] else (c :: ·) <$> stringBody? q rest := by
  rw [stringBody?]
  · intro h
    exact absurd h hc
  · intro d ds h
    exact absurd h hc

/-- A body is read up to the closing quote. -/
theorem stringBody?_of_mem {q : Char} (hq : isQuote q = true) {body : List Char}
    (h : body ∈ (Pattern.piece q)∗) (rest : List Char) :
    stringBody? q (body ++ q :: rest) = some body := by
  have hslash : q ≠ '\\' := by
    rintro rfl
    cases hq
  obtain ⟨pieces, rfl, hpieces⟩ := h
  induction pieces with
  | nil => exact (stringBody?_cons hslash rest).trans (if_pos rfl)
  | cons piece pieces ih =>
    have hrest := ih fun y hy => hpieces y (List.mem_cons_of_mem _ hy)
    rcases hpieces piece (List.mem_cons_self ..) with ⟨c, rfl, hc⟩ | hescaped
    · simp only [Bool.and_eq_true, decide_eq_true_eq] at hc
      rw [List.flatten_cons, List.append_assoc, List.singleton_append, stringBody?_cons hc.2,
        if_neg hc.1, hrest]
      rfl
    · obtain ⟨_, ⟨c, rfl, hc⟩, rfl⟩ := Pattern.mem_singleton_mul.mp hescaped
      have hbody : (['\\', c] :: pieces).flatten ++ q :: rest
          = '\\' :: c :: (pieces.flatten ++ q :: rest) := rfl
      rw [hbody, stringBody?, if_neg (of_decide_eq_true hc), hrest]
      rfl

/-- The body of a string is made of pieces, and the quote that ends it comes right after it. -/
theorem of_stringBody? {q : Char} {body : List Char} (h : stringBody? q cs = some body) :
    body ∈ (Pattern.piece q)∗ ∧ ∃ rest, cs = body ++ q :: rest := by
  fun_induction stringBody? q cs generalizing body with
  | case1 => cases h
  | case2 => cases h
  | case3 => cases h
  | case4 c rest hc ih =>
    obtain ⟨body, hbody, rfl⟩ := Option.map_eq_some_iff.mp h
    obtain ⟨hpieces, more, rfl⟩ := ih hbody
    exact ⟨Pattern.escaped_cons_mem hc hpieces, more, rfl⟩
  | case5 rest =>
    cases h
    exact ⟨Language.nil_mem_kstar _, rest, rfl⟩
  | case6 c rest hlone hescape hq ih =>
    have hslash : c ≠ '\\' := by
      intro heq
      cases rest with
      | nil => exact hlone heq rfl
      | cons d ds => exact hescape d ds heq rfl
    obtain ⟨body, hbody, rfl⟩ := Option.map_eq_some_iff.mp h
    obtain ⟨hpieces, more, rfl⟩ := ih hbody
    exact ⟨Pattern.plain_cons_mem hq hslash hpieces, more, rfl⟩

/-- At a quote the longest token is a string, if it is closed. -/
theorem first?_quote {q : Char} (hq : isQuote q = true) (rest : List Char) :
    first? (q :: rest)
      = (stringBody? q rest).map fun body => (.string (String.ofList body), body.length + 2) := by
  have hclass : isNameStart q = false ∧ q.isDigit = false := by
    simp only [isQuote, Bool.or_eq_true, decide_eq_true_eq] at hq
    rcases hq with rfl | rfl <;> decide
  rw [first?, if_neg (by simp [hclass.1]), if_neg (by simp [hclass.2])]
  exact if_pos hq

/-- A text between quotes is read up to the quote that ends it, whatever follows. -/
theorem first?_quoted {q : Char} (hq : isQuote q = true) (h : slice ∈ Pattern.quoted q)
    (rest : List Char) :
    first? (slice ++ rest) = some (.string (String.ofList slice.tail.dropLast), slice.length) := by
  obtain ⟨body, hbody, rfl⟩ := Pattern.mem_quoted.mp h
  have hsplit : q :: (body ++ [q]) ++ rest = q :: (body ++ q :: rest) := by simp
  rw [hsplit, first?_quote hq, stringBody?_of_mem hq hbody, Option.map_some, List.tail_cons,
    List.dropLast_concat, List.length_cons, List.length_append]
  rfl

/-! ## Marks -/

/-- At any other character the longest token is a mark. -/
theorem first?_eq_mark? (hname : isNameStart c = false) (hdigit : c.isDigit = false)
    (hquote : isQuote c = false) (rest : List Char) : first? (c :: rest) = mark? (c :: rest) := by
  rw [first?, if_neg (by simp [hname]), if_neg (by simp [hdigit])]
  exact if_neg (by unfold isQuote at hquote; simp [hquote])

/-- What is taken as a mark denotes its token. -/
theorem denotes_of_mark? (h : mark? cs = some (t, n)) : n ≤ cs.length ∧ Denotes (cs.take n) t := by
  unfold mark? at h
  split at h <;> cases h
  all_goals exact ⟨by simp, rfl, trivial, by intro name h; cases h⟩

/-- After a mark of one character the next one counts only if it is the same again or an equals
sign. -/
theorem mark?_cons_cons {d : Char} (h : mark? [c] = some (t, 1)) (hsame : d ≠ c) (hequal : d ≠ '=')
    (rest : List Char) : mark? (c :: d :: rest) = some (t, 1) := by
  unfold mark? at h
  split at h <;> cases h
  all_goals
    rename_i heq
    cases heq
    simp [mark?, hsame, hequal]

/-- A mark of one character is found, or a longer one that starts with it. -/
theorem exists_mark?_cons (h : mark? [c] = some (t, 1)) (rest : List Char) :
    ∃ t' n, mark? (c :: rest) = some (t', n) ∧ 1 ≤ n ∧ (n = 1 → t' = t) := by
  cases rest with
  | nil => exact ⟨t, 1, h, Nat.le_refl _, fun _ => rfl⟩
  | cons d rest =>
    by_cases hd : d = c ∨ d = '='
    · unfold mark? at h
      split at h <;> cases h
      all_goals
        rename_i heq
        cases heq
        rcases hd with rfl | rfl <;> exact ⟨_, _, rfl, by decide, by decide⟩
    · rw [not_or] at hd
      exact ⟨t, 1, mark?_cons_cons h hd.1 hd.2 rest, Nat.le_refl _, fun _ => rfl⟩

/-! ## The longest prefix -/

/-- What is found denotes its token. -/
theorem denotes_of_first? (h : first? cs = some (t, n)) :
    n ≤ cs.length ∧ Denotes (cs.take n) t := by
  cases cs with
  | nil => cases h
  | cons c rest =>
    by_cases hname : isNameStart c = true
    · have hpre : rest.takeWhile isNameChar <+: rest := List.takeWhile_prefix _
      have hword : [c] ++ rest.takeWhile isNameChar ∈ Pattern.name :=
        Pattern.mem_name.mpr ⟨c, _, rfl, hname, fun d hd => List.mem_takeWhile_imp hd⟩
      have hc : [c] ∈ Pattern.name := Pattern.mem_name.mpr ⟨c, [], rfl, hname, by simp⟩
      have hfirst := first?_name hc rest
      rw [List.singleton_append, h] at hfirst
      obtain ⟨rfl, rfl⟩ := Prod.mk.inj (Option.some.inj hfirst)
      rw [List.length_singleton, Nat.add_comm, List.take_succ_cons,
        ← List.prefix_iff_eq_take.mp hpre]
      exact ⟨Nat.succ_le_succ hpre.length_le, denotes_ofWord hword⟩
    · by_cases hdigit : c.isDigit = true
      · rw [first?_digit hdigit] at h
        obtain ⟨rfl, rfl⟩ := Prod.mk.inj (Option.some.inj h)
        obtain ⟨hlength, hnumeral⟩ := mem_numeral_take_cons hdigit rest
        exact ⟨hlength, hnumeral, rfl, by intro name h; cases h⟩
      · by_cases hquote : isQuote c = true
        · rw [first?_quote hquote] at h
          obtain ⟨body, hbody, heq⟩ := Option.map_eq_some_iff.mp h
          cases heq
          obtain ⟨hpieces, more, rfl⟩ := of_stringBody? hbody
          have hslice : (c :: (body ++ c :: more)).take (body.length + 2) = c :: (body ++ [c]) := by
            rw [List.take_succ_cons, List.take_length_add_append, List.take_succ_cons,
              List.take_zero]
          rw [hslice]
          refine ⟨by simp,
            mem_pattern_string.mpr ⟨c, hquote, Pattern.mem_quoted.mpr ⟨body, hpieces, rfl⟩⟩, ?_, ?_⟩
          · exact congrArg String.ofList (List.dropLast_concat).symm
          · intro name h
            cases h
        · rw [first?_eq_mark? (by simpa using hname) (by simpa using hdigit)
            (by simpa using hquote)] at h
          exact denotes_of_mark? h

/-- Where a prefix denotes a token, something at least as long is found, and this token if it is
not longer. -/
theorem exists_first?_of_denotes (h : Denotes slice t) (rest : List Char) :
    ∃ t' n, first? (slice ++ rest) = some (t', n) ∧ slice.length ≤ n
      ∧ (n = slice.length → t' = t) := by
  have hword (hslice : slice ∈ Pattern.name) (ht : ofWord slice = t) :
      ∃ t' n, first? (slice ++ rest) = some (t', n) ∧ slice.length ≤ n
          ∧ (n = slice.length → t' = t) := by
    refine ⟨_, _, first?_name hslice rest, Nat.le_add_right _ _, fun hlength => ?_⟩
    have hnil : rest.takeWhile isNameChar = [] := List.eq_nil_of_length_eq_zero (by omega)
    rw [hnil, List.append_nil, ht]
  cases t with
  | trueWord =>
    obtain rfl := Set.mem_singleton_iff.mp h.fits
    exact hword (Pattern.mem_name.mpr ⟨_, _, rfl, by decide, List.all_eq_true.mp (by decide)⟩)
      (by decide)
  | falseWord =>
    obtain rfl := Set.mem_singleton_iff.mp h.fits
    exact hword (Pattern.mem_name.mpr ⟨_, _, rfl, by decide, List.all_eq_true.mp (by decide)⟩)
      (by decide)
  | ident name => exact hword h.fits (ofWord_of_denotes_ident h)
  | number text =>
    obtain ⟨c, cs, rfl, hc⟩ := Pattern.exists_digit_of_mem_numeral h.fits
    have hlength := length_le_numberLength h.fits rest
    refine ⟨_, _, first?_digit hc (cs ++ rest), hlength, fun heq => ?_⟩
    rw [heq, ← List.cons_append, List.take_left, h.keeps]
  | string body =>
    obtain ⟨q, hq, hslice⟩ := mem_pattern_string.mp h.fits
    exact ⟨_, _, first?_quoted hq hslice rest, Nat.le_refl _, fun _ => congrArg string h.keeps.symm⟩
  | plus | minus | star | slash | assign | less | greater | bang =>
    obtain rfl := Set.mem_singleton_iff.mp h.fits
    rw [List.singleton_append, first?_eq_mark? (by decide) (by decide) (by decide)]
    exact exists_mark?_cons rfl rest
  | _ =>
    obtain rfl := Set.mem_singleton_iff.mp h.fits
    exact ⟨_, _, rfl, Nat.le_refl _, fun _ => rfl⟩

/-- What fits a pattern denotes a token. -/
theorem exists_denotes (h : slice ∈ t.pattern) : ∃ t', Denotes slice t' := by
  cases t with
  | ident _ => exact ⟨_, denotes_ofWord h⟩
  | number _ => exact ⟨.number (String.ofList slice), h, rfl, by intro name h; cases h⟩
  | string _ =>
    exact ⟨.string (String.ofList slice.tail.dropLast), h, rfl, by intro name h; cases h⟩
  | _ => exact ⟨_, h, trivial, by intro name h; cases h⟩

/-- Where a prefix fits a pattern, something at least as long is found. -/
theorem exists_first?_of_isPrefix (hpre : slice <+: cs) (h : slice ∈ t.pattern) :
    ∃ t' n, first? cs = some (t', n) ∧ slice.length ≤ n := by
  obtain ⟨rest, rfl⟩ := hpre
  obtain ⟨t', ht'⟩ := exists_denotes h
  obtain ⟨t'', n, hfirst, hlength, -⟩ := exists_first?_of_denotes ht' rest
  exact ⟨t'', n, hfirst, hlength⟩

/-- **Nothing is found exactly if no prefix fits a pattern.** -/
theorem first?_eq_none_iff :
    first? cs = none ↔ ∀ slice, slice <+: cs → ∀ t : Token, slice ∉ t.pattern := by
  constructor
  · intro hnone slice hpre t ht
    obtain ⟨t', n, hfirst, -⟩ := exists_first?_of_isPrefix hpre ht
    rw [hnone] at hfirst
    cases hfirst
  · intro hfits
    cases hfirst : first? cs with
    | none => rfl
    | some found =>
      obtain ⟨t, n⟩ := found
      exact absurd (denotes_of_first? hfirst).2.fits (hfits _ (List.take_prefix n cs) t)

/-- **The token found is the one that the longest fitting prefix denotes.** -/
theorem first?_append_eq_some_iff :
    first? (slice ++ rest) = some (t, slice.length) ↔ Denotes slice t
      ∧ NoneLonger slice.length (slice ++ rest) := by
  constructor
  · intro hfirst
    have hdenotes := (denotes_of_first? hfirst).2
    rw [List.take_left] at hdenotes
    refine ⟨hdenotes, fun longer hpre hlength t' ht' => ?_⟩
    obtain ⟨t'', n, hlonger, hle⟩ := exists_first?_of_isPrefix hpre ht'
    rw [hfirst] at hlonger
    cases hlonger
    omega
  · rintro ⟨hdenotes, hnone⟩
    obtain ⟨t', n, hfirst, hle, heq⟩ := exists_first?_of_denotes hdenotes rest
    obtain ⟨hn, hfits⟩ := denotes_of_first? hfirst
    -- What is found fits a pattern, so it cannot be longer.
    have hlength : n = slice.length := by
      by_contra hne
      refine hnone _ (List.take_prefix n _) ?_ t' hfits.fits
      rw [List.length_take, Nat.min_eq_left hn]
      omega
    rw [hfirst, heq hlength, hlength]

/-- What is found is found also where less of the text follows it. -/
theorem first?_of_append {more : List Char}
    (h : first? (slice ++ (rest ++ more)) = some (t, slice.length)) :
    first? (slice ++ rest) = some (t, slice.length) := by
  obtain ⟨hdenotes, hnone⟩ := first?_append_eq_some_iff.mp h
  refine first?_append_eq_some_iff.mpr ⟨hdenotes, fun longer hpre => hnone longer ?_⟩
  rw [← List.append_assoc]
  exact hpre.trans (List.prefix_append _ _)

end Token

end PageLang
