import PageLang.Proofs.Decimal.Digits
import PageLang.Proofs.Expr.Soundness
import PageLang.Proofs.Token.Lexing

/-!
# The language of expressions and actions

A text is accepted as an expression or as an action exactly when its tokens are derived, and what
it is read to is what they derive. The numbers among the tokens of a text can all be read, which
is the one thing about tokens that the grammar asks for.
-/

namespace PageLang

open PageLang.Parser

/-! ## Number tokens -/

/-- Digits, perhaps with a point and more digits. -/
def Numeral (cs : List Char) : Prop :=
  ∃ ds tail, cs = ds ++ tail ∧ ds ≠ [] ∧ (∀ c ∈ ds, c.isDigit = true)
    ∧ (tail = [] ∨ ∃ fs, tail = '.' :: fs ∧ ∀ c ∈ fs, c.isDigit = true)

/-- Every numeral is read as a number. -/
theorem exists_unsigned?_eq_some {cs : List Char} (h : Numeral cs) :
    ∃ x, Decimal.unsigned? cs = some x := by
  obtain ⟨ds, tail, rfl, hne, hds, htail⟩ := h
  have hhead : ∀ c ∈ tail.head?, c.isDigit = false := by
    rcases htail with rfl | ⟨fs, rfl, -⟩
    · simp
    · intro c hc
      cases hc
      decide
  have hempty : ds.isEmpty = false := by simpa using hne
  unfold Decimal.unsigned?
  rw [spanDigits_append hds hhead]
  dsimp only
  rw [hempty]
  rcases htail with rfl | ⟨fs, rfl, hfs⟩
  · exact ⟨_, rfl⟩
  · have hspan : Decimal.spanDigits (fs ++ []) = (fs, []) := spanDigits_append hfs (by simp)
    rw [List.append_nil] at hspan
    rw [Decimal.spanFraction, hspan]
    exact ⟨_, rfl⟩

theorem Numeral.exists_parse?_eq_some {cs : List Char} (h : Numeral cs) :
    ∃ x, Decimal.parse? cs = some x := by
  obtain ⟨x, hx⟩ := exists_unsigned?_eq_some h
  obtain ⟨ds, tail, rfl, hne, hds, -⟩ := h
  obtain ⟨d, ds, rfl⟩ := List.exists_cons_of_ne_nil hne
  have hd := hds d (List.mem_cons_self ..)
  refine ⟨x, ?_⟩
  rw [List.cons_append] at hx ⊢
  unfold Decimal.parse?
  split
  · next heq =>
    cases heq
    cases hd
  · next heq =>
    cases heq
    cases hd
  · exact hx

/-- The pattern of numbers matches numerals only. -/
theorem numeral_of_mem {cs : List Char} (h : cs ∈ Pattern.numeral) : Numeral cs := by
  rcases Pattern.mem_numeral.mp h with h | ⟨ds, fs, rfl, hds, hfs⟩
  · obtain ⟨hne, hdigits⟩ := Pattern.mem_digits.mp h
    exact ⟨cs, [], (List.append_nil cs).symm, hne, hdigits, .inl rfl⟩
  · obtain ⟨hne, hdigits⟩ := Pattern.mem_digits.mp hds
    exact ⟨ds, _, rfl, hne, hdigits, .inr ⟨fs, rfl, (Pattern.mem_digits.mp hfs).2⟩⟩

/-- Every number among the tokens of a text can be read. -/
theorem readable_of_tokenize {source : String} {ls : List Lexeme} (h : tokenize source = .ok ls) :
    Grammar.Readable ls := by
  intro l hl text htext
  obtain ⟨slice, hdenotes⟩ := (tokenize_eq_ok_iff_cuts.mp h).exists_denotes hl
  rw [htext] at hdenotes
  obtain rfl : text = String.ofList slice := hdenotes.keeps
  rw [String.toList_ofList]
  exact (numeral_of_mem hdenotes.fits).exists_parse?_eq_some

/-! ## Texts -/

/-- A text is read as the expression that the grammar derives from its tokens. -/
theorem Expr.parse_eq_ok_iff {source : String} {e : Expr} :
    Expr.parse source = .ok e ↔ ∃ ls, tokenize source = .ok ls
      ∧ Grammar.Derives maxNesting (.operand 0) 1 (ls.map Lexeme.token) e := by
  constructor
  · intro h
    obtain ⟨ls, hls, hres⟩ := Grammar.of_bind_eq_ok h
    obtain ⟨⟨e', rest⟩, he, hres⟩ := Grammar.of_bind_eq_ok hres
    obtain ⟨u, hend, hres⟩ := Grammar.of_bind_eq_ok hres
    cases hres
    rw [Grammar.endOfText_sound hend] at he
    obtain ⟨-, ms, rfl, hms⟩ := Grammar.expression_sound _ _ _ _ (readable_of_tokenize hls) he
    exact ⟨_, hls, by rwa [List.append_nil]⟩
  · rintro ⟨ls, hls, hderives⟩
    have hread := (hderives.readsAs_expression (Text.byteLength source.toList)).2 ls [] rfl
      (Grammar.stops_nil 0)
    rw [List.append_nil] at hread
    unfold Expr.parse
    simp only [hls, bind, Except.bind, hread]
    rfl

/-- A text is read as the statements that the grammar derives from its tokens. -/
theorem Program.parse_eq_ok_iff {source : String} {p : Program} :
    Program.parse source = .ok p ↔ p.source = Text.trimmed source ∧ ∃ ls, tokenize source = .ok ls
      ∧ Grammar.DerivesProgram maxNesting (ls.map Lexeme.token) p.statements := by
  constructor
  · intro h
    obtain ⟨ls, hls, hres⟩ := Grammar.of_bind_eq_ok h
    obtain ⟨ss, hss, hres⟩ := Grammar.of_bind_eq_ok hres
    cases hres
    exact ⟨rfl, ls, hls, Grammar.program_sound (readable_of_tokenize hls) hss⟩
  · rintro ⟨hsource, ls, hls, hderives⟩
    obtain ⟨text, ss⟩ := p
    rw [show text = Text.trimmed source from hsource]
    unfold Program.parse
    simp only [hls, bind, Except.bind, hderives.program_eq_ok _ rfl]

namespace Grammar

/-- Tokens with no positions. -/
theorem exists_lexemes (ts : List Token) : ∃ ls : List Lexeme, ls.map Lexeme.token = ts :=
  ⟨ts.map fun t => ⟨t, 0, 0⟩, by rw [List.map_map]; exact List.map_id ts⟩

/-- The grammar of expressions is unambiguous. -/
theorem Derives.unique {ts : List Token} {e e' : Expr} (h : Derives maxNesting (.operand 0) 1 ts e)
    (h' : Derives maxNesting (.operand 0) 1 ts e') : e = e' := by
  obtain ⟨ls, hls⟩ := exists_lexemes ts
  have hread := (h.readsAs_expression 0).2 ls [] hls (stops_nil 0)
  have hread' := (h'.readsAs_expression 0).2 ls [] hls (stops_nil 0)
  exact congrArg Prod.fst (Except.ok.inj (hread.symm.trans hread'))

/-- So is that of actions. -/
theorem DerivesProgram.unique {ts : List Token} {ss ss' : List Statement}
    (h : DerivesProgram maxNesting ts ss) (h' : DerivesProgram maxNesting ts ss') : ss = ss' := by
  obtain ⟨ls, hls⟩ := exists_lexemes ts
  exact Except.ok.inj ((h.program_eq_ok 0 hls).symm.trans (h'.program_eq_ok 0 hls))

/-- **The parser accepts exactly the grammar**, for expressions and for actions, and what it
returns is the only thing that the tokens derive. -/
theorem parse_eq_ok_iff_derives (source : String) :
    (∀ e, Expr.parse source = .ok e ↔ ∃ ls, tokenize source = .ok ls
        ∧ Derives maxNesting (.operand 0) 1 (ls.map Lexeme.token) e)
      ∧ (∀ ss, (∃ p, Program.parse source = .ok p ∧ p.statements = ss)
        ↔ ∃ ls, tokenize source = .ok ls
        ∧ DerivesProgram maxNesting (ls.map Lexeme.token) ss)
      ∧ (∀ ts e e', Derives maxNesting (.operand 0) 1 ts e →
        Derives maxNesting (.operand 0) 1 ts e' →
        e = e')
      ∧ ∀ ts ss ss', DerivesProgram maxNesting ts ss → DerivesProgram maxNesting ts ss' →
        ss = ss' := by
  refine ⟨fun e => Expr.parse_eq_ok_iff, fun ss => ?_, fun ts e e' h h' => h.unique h',
    fun ts ss ss' h h' => h.unique h'⟩
  constructor
  · rintro ⟨p, hp, rfl⟩
    exact (Program.parse_eq_ok_iff.mp hp).2
  · intro h
    exact ⟨⟨Text.trimmed source, ss⟩, Program.parse_eq_ok_iff.mpr ⟨rfl, h⟩, rfl⟩

end Grammar

end PageLang
