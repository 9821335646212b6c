import Mathlib.Data.List.TakeWhile
import PageLang.Proofs.Expr.Completeness

/-!
# What the parser reads is derived

Whatever the parser for depth `m` accepts, the tokens it has taken derive the tree it returns at
that depth. The layers are taken from the deepest up:

> `soundLayer_layer`: with `n` levels left, so at depth `limit + 1 - n`, operands and chains are
> sound.

A chain is sound for whatever beginning it is entered with, so one round of the loop is one more
operator of the derivation.
-/

namespace PageLang.Grammar

open PageLang.Parser

/-- A result of two steps is a result of each. -/
theorem of_bind_eq_ok {ε α β : Type} {x : Except ε α} {f : α → Except ε β} {b : β}
    (h : (x >>= f) = .ok b) : ∃ a, x = .ok a ∧ f a = .ok b := by
  cases x with
  | error _ => cases h
  | ok a => exact ⟨a, rfl, h⟩

theorem of_map_eq_ok {ε α β : Type} {x : Except ε α} {f : α → β} {b : β}
    (h : f <$> x = .ok b) : ∃ a, x = .ok a ∧ f a = b := by
  cases x with
  | error _ => cases h
  | ok a => exact ⟨a, rfl, Except.ok.inj h⟩

/-- The numbers among some tokens can be read. -/
def Readable (ls : List Lexeme) : Prop :=
  ∀ l ∈ ls, ∀ text, l.token = .number text → ∃ x, Decimal.parse? text.toList = some x

/-- What is left of readable lexemes is readable. -/
theorem Readable.right {ls rest : List Lexeme} (h : Readable (ls ++ rest)) : Readable rest :=
  fun l hl => h l (List.mem_append_right _ hl)

theorem Readable.tail {l : Lexeme} {rest : List Lexeme} (h : Readable (l :: rest)) :
    Readable rest :=
  fun l' hl' => h l' (List.mem_cons_of_mem _ hl')

/-- The tokens between `input` and `rest` derive `e` at depth `m`, which is allowed. -/
def Taken (limit : Nat) (form : Form) (m : Nat) (input : List Lexeme) (e : Expr)
    (rest : List Lexeme) : Prop :=
  m ≤ limit ∧ ∃ ls, input = ls ++ rest ∧ Derives limit form m (ls.map Lexeme.token) e

/-- What a parser of operands returns is what the grammar derives. -/
def Sound (limit r m : Nat) (p : Parser Expr) : Prop :=
  ∀ input e rest, Readable input → p input = .ok (e, rest) → Taken limit (.operand r) m input e rest

/-- Operands and chains of one layer are sound. -/
structure SoundLayer (limit m : Nat) (layer : Layer) : Prop where
  unary : Sound limit unaryStrength m layer.unary
  operand : ∀ r ≤ unaryStrength, Sound limit r m (layer.operand (levels.drop r))
  chain : ∀ {r k n ts left}, n + k = m → Derives limit (.chain r k) n ts left →
    ∀ input e rest, Readable input →
      layer.chain (levelOf r) (levels.drop (r + 1)) left input = .ok (e, rest) →
        ∃ ls, input = ls ++ rest ∧ Derives limit (.operand r) n (ts ++ ls.map Lexeme.token) e

/-! ## Names and arguments -/

/-- A name is read from one token. -/
theorem identifier_sound {eof : Nat} {input rest : List Lexeme} {name : String}
    (h : identifier eof input = .ok (name, rest)) : ∃ a b, input = ⟨.ident name, a, b⟩ :: rest := by
  unfold identifier at h
  split at h
  · cases h
    exact ⟨_, _, rfl⟩
  · cases h

/-- So is the end of the arguments. -/
theorem closingParen_sound {eof : Nat} {input rest : List Lexeme}
    (h : closingParen eof input = .ok rest) : ∃ a b, input = ⟨.rightParen, a, b⟩ :: rest := by
  unfold closingParen at h
  split at h
  · cases h
    exact ⟨_, _, rfl⟩
  · cases h

/-- A name is a target, and one that is not qualified is a single token. -/
theorem target_sound {eof : Nat} {input rest : List Lexeme} {name : String} {qualified : Bool}
    (h : target eof input = .ok ((name, qualified), rest)) :
    ∃ ls, input = ls ++ rest ∧ Target (ls.map Lexeme.token) name
      ∧ (qualified = false → ls.map Lexeme.token = [.ident name]) := by
  unfold target at h
  split at h
  · obtain ⟨⟨word, ts⟩, hword, hres⟩ := of_bind_eq_ok h
    obtain ⟨a, b, rfl⟩ := identifier_sound hword
    cases hres
    exact ⟨[_, _, _], rfl, .inr rfl, fun hq => by cases hq⟩
  · obtain ⟨⟨word, ts⟩, hword, hres⟩ := of_bind_eq_ok h
    obtain ⟨a, b, rfl⟩ := identifier_sound hword
    cases hres
    exact ⟨[_], rfl, .inl rfl, fun _ => rfl⟩

/-- The arguments that were read, with the tokens of each. -/
def TakenAll (limit m : Nat) (input : List Lexeme) (es : List Expr) (rest : List Lexeme) : Prop :=
  ∃ (ls : List Lexeme) (items : List (List Token × Expr)), input = ls ++ rest
    ∧ es = items.map Prod.snd
    ∧ Arguments (items.map Prod.fst) (ls.map Lexeme.token)
    ∧ ∀ item ∈ items, m ≤ limit ∧ Derives limit (.operand 0) m item.1 item.2

theorem takenAll_nil (limit m : Nat) (rest : List Lexeme) : TakenAll limit m rest [] rest :=
  ⟨[], [], rfl, rfl, arguments_nil.mpr rfl, by simp⟩

/-- What is read as arguments is derived as arguments. -/
theorem argumentsWith_sound {limit m : Nat} {expression : Parser Expr}
    (hexp : Sound limit 0 m expression) {fuel : Nat} {input rest : List Lexeme} {es : List Expr}
    (hinput : Readable input) (h : argumentsWith expression fuel input = .ok (es, rest)) :
    TakenAll limit m input es rest := by
  induction fuel generalizing input es with
  | zero =>
    cases h
    exact takenAll_nil limit m _
  | succ fuel ih =>
    cases input with
    | nil =>
      cases h
      exact takenAll_nil limit m _
    | cons l ts =>
      by_cases hl : l.token = .rightParen
      · obtain ⟨_, a, b⟩ := l
        cases hl
        cases h
        exact takenAll_nil limit m _
      · rw [argumentsWith_succ rfl hl] at h
        obtain ⟨⟨e, us⟩, he, hres⟩ := of_bind_eq_ok h
        obtain ⟨hm, ls, hls, hderives⟩ := hexp _ _ _ hinput he
        rw [hls] at hinput ⊢
        dsimp only at hres
        split at hres
        · -- A comma: the arguments after it may be none, and then it is the trailing one.
          next a b vs =>
          obtain ⟨⟨es', ws⟩, hes, hres⟩ := of_bind_eq_ok hres
          cases hres
          obtain ⟨ms, items, rfl, rfl, hbetween, heach⟩ := ih hinput.right.tail hes
          refine ⟨ls ++ ⟨.comma, a, b⟩ :: ms, (ls.map Lexeme.token, e) :: items, by simp,
            rfl, ?_, ?_⟩
          · rw [List.map_cons, arguments_cons]
            exact .inr ⟨_, hbetween, by simp⟩
          · exact List.forall_mem_cons.mpr ⟨⟨hm, hderives⟩, heach⟩
        · cases hres
          refine ⟨ls, [(ls.map Lexeme.token, e)], rfl, rfl, ?_, ?_⟩
          · exact arguments_cons.mpr (.inl ⟨rfl, rfl⟩)
          · exact List.forall_mem_cons.mpr ⟨⟨hm, hderives⟩, by simp⟩

/-- The same up to the closing parenthesis. -/
theorem arguments_sound {limit m eof : Nat} {expression : Parser Expr}
    (hexp : Sound limit 0 m expression) {input rest : List Lexeme} {es : List Expr}
    (hinput : Readable input) (h : arguments eof expression input = .ok (es, rest)) :
    ∃ a b, TakenAll limit m input es (⟨.rightParen, a, b⟩ :: rest) := by
  obtain ⟨⟨es', ts⟩, hes, hres⟩ := of_bind_eq_ok h
  obtain ⟨ts', hclose, hres⟩ := of_bind_eq_ok hres
  cases hres
  obtain ⟨a, b, rfl⟩ := closingParen_sound hclose
  exact ⟨a, b, argumentsWith_sound hexp hinput hes⟩

/-! ## Layers -/

section Layer

variable {limit m eof : Nat} {input rest : List Lexeme} {e : Expr}

/-- What is read without an operator is derived as an operand. -/
theorem primary_sound {expression : Parser Expr} (hexp : Sound limit 0 (m + 1) expression)
    (hinput : Readable input) (h : primary eof expression input = .ok (e, rest)) :
    ∃ ls, input = ls ++ rest
      ∧ Derives limit (.operand unaryStrength) m (ls.map Lexeme.token) e := by
  unfold primary at h
  split at h
  · next text a b ts =>
    obtain ⟨x, hx⟩ := hinput _ (List.mem_cons_self ..) text rfl
    rw [hx] at h
    cases h
    exact ⟨[_], rfl, .number hx⟩
  · cases h
    exact ⟨[_], rfl, .string⟩
  · cases h
    exact ⟨[_], rfl, .trueWord⟩
  · cases h
    exact ⟨[_], rfl, .falseWord⟩
  · next a b ts =>
    obtain ⟨⟨e', us⟩, he, hres⟩ := of_bind_eq_ok h
    obtain ⟨vs, hclose, hres⟩ := of_bind_eq_ok hres
    cases hres
    obtain ⟨hm, ls, rfl, hderives⟩ := hexp _ _ _ hinput.tail he
    obtain ⟨c, d, rfl⟩ := closingParen_sound hclose
    refine ⟨⟨.leftParen, a, b⟩ :: (ls ++ [⟨.rightParen, c, d⟩]), by simp, ?_⟩
    rw [List.map_cons, List.map_append]
    exact .parens hm hderives
  · next word a b ts =>
    obtain ⟨⟨⟨name, qualified⟩, us⟩, hname, hres⟩ := of_bind_eq_ok h
    obtain ⟨ls, hls, htarget, hplain⟩ := target_sound hname
    rw [hls] at hinput ⊢
    dsimp only at hres
    split at hres
    · next c d vs =>
      obtain ⟨⟨es, ws⟩, hes, hres⟩ := of_bind_eq_ok hres
      cases hres
      obtain ⟨x, y, ms, items, rfl, rfl, hbetween, heach⟩ :=
        arguments_sound hexp hinput.right.tail hes
      -- Only a name that is not qualified is called, so the name is a single token.
      obtain ⟨x', y', rfl⟩ := exists_lexeme_singleton (hplain rfl)
      refine ⟨⟨.ident name, x', y'⟩ :: ⟨.leftParen, c, d⟩ :: (ms ++ [⟨.rightParen, x, y⟩]),
        by simp, ?_⟩
      rw [List.map_cons, List.map_cons, List.map_append]
      refine .call (fun hne => ?_) (fun item hitem => (heach item hitem).2) hbetween
      obtain ⟨item, hitem⟩ := List.exists_mem_of_ne_nil _ hne
      exact (heach item hitem).1
    · cases hres
      exact ⟨ls, rfl, .entry htarget⟩
  · cases h

/-- With its prefix operators it is derived as an operand. -/
theorem unaryAbove_sound {below : Layer} (hbelow : SoundLayer limit (m + 1) below)
    (hm : m ≤ limit) : Sound limit unaryStrength m (unaryAbove eof below) := by
  intro input e rest hinput h
  have hexp : Sound limit 0 (m + 1) (below.operand levels) := hbelow.operand 0 (Nat.zero_le _)
  refine ⟨hm, ?_⟩
  cases input with
  | nil => exact primary_sound hexp hinput h
  | cons l ts =>
    rw [unaryAbove] at h
    cases hop : prefixOp? l.token with
    | none =>
      rw [hop] at h
      exact primary_sound hexp hinput h
    | some op =>
      rw [hop] at h
      obtain ⟨⟨e', us⟩, he, hres⟩ := of_bind_eq_ok h
      cases hres
      obtain ⟨hm', ls, rfl, hderives⟩ := hbelow.unary _ _ _ hinput.tail he
      refine ⟨l :: ls, rfl, ?_⟩
      rw [List.map_cons, prefixOp?_eq_some_iff.mp hop]
      exact .unary op hm' hderives

/-- One round of the loop is one more operator of the derivation. -/
theorem chainAbove_sound {below : Layer} (hbelow : SoundLayer limit (m + 1) below) {r k n : Nat}
    {ts : List Token} {left : Expr} (hn : n + k = m) (hleft : Derives limit (.chain r k) n ts left)
    (hinput : Readable input)
    (h : chainAbove below (levelOf r) (levels.drop (r + 1)) left input = .ok (e, rest)) :
    ∃ ls, input = ls ++ rest ∧ Derives limit (.operand r) n (ts ++ ls.map Lexeme.token) e := by
  cases input with
  | nil =>
    cases h
    exact ⟨[], rfl, by simpa using Derives.operand hleft⟩
  | cons l us =>
    rw [chainAbove] at h
    cases hop : levelOf r l.token with
    | none =>
      rw [hop] at h
      cases h
      exact ⟨[], rfl, by simpa using Derives.operand hleft⟩
    | some op =>
      rw [hop] at h
      obtain ⟨⟨right, vs⟩, hright, hres⟩ := of_bind_eq_ok h
      obtain ⟨htoken, rfl⟩ := levelOf_eq_some_iff.mp hop
      obtain ⟨hm, ms, rfl, hms⟩ := hbelow.operand _ (strength_lt op) _ _ _ hinput.tail hright
      -- The loop goes on one layer down, entered with the beginning that has this operator in it.
      have hdepth : n + (k + 1) = m + 1 := by omega
      have hnext := Derives.next op (hdepth ▸ hm) hleft (hdepth ▸ hms)
      obtain ⟨ns, rfl, hns⟩ := hbelow.chain hdepth hnext _ _ _ hinput.tail.right hres
      refine ⟨l :: (ms ++ ns), by simp, ?_⟩
      rw [List.map_cons, List.map_append, htoken]
      simpa using hns

/-- At every strength, what is read is derived at this strength. -/
theorem operandAbove_sound {below : Layer} (hbelow : SoundLayer limit (m + 1) below)
    (hm : m ≤ limit) {tighter : List Level} {r : Nat} (hr : r ≤ unaryStrength)
    (htighter : levels.drop r = tighter) :
    Sound limit r m (operandAbove eof below tighter) := by
  induction tighter generalizing r with
  | nil =>
    have hlen : unaryStrength ≤ r := List.drop_eq_nil_iff.mp htighter
    rw [Nat.le_antisymm hr hlen]
    exact unaryAbove_sound hbelow hm
  | cons level tighter ih =>
    have hlt : r < unaryStrength := by
      rcases Nat.lt_or_eq_of_le hr with hlt | rfl
      · exact hlt
      · cases htighter
    rw [levels_drop hlt] at htighter
    obtain ⟨rfl, htail⟩ := List.cons.inj htighter
    intro input e rest hinput h
    obtain ⟨⟨left, us⟩, hleft, hres⟩ := of_bind_eq_ok h
    obtain ⟨-, ms, rfl, hms⟩ := ih hlt htail _ _ _ hinput hleft
    rw [← htail] at hres
    obtain ⟨ns, rfl, hns⟩ :=
      chainAbove_sound hbelow (Nat.add_zero m) (.first hlt hms) hinput.right hres
    exact ⟨hm, ms ++ ns, by simp, by rwa [List.map_append]⟩

/-- **Every layer of the parser is sound for its depth.** -/
theorem soundLayer_layer (eof : Nat) {n : Nat} (h : n + m = limit + 1) :
    SoundLayer limit m (layer eof n) := by
  induction n generalizing m with
  | zero =>
    -- No depth is left: nothing is accepted.
    refine ⟨?_, ?_, ?_⟩
    · intro input e rest _ h
      cases h
    · intro r _ input e rest _ h
      cases h
    · intro r k n ts left _ _ input e rest _ h
      cases h
  | succ n ih =>
    have hbelow := ih (m := m + 1) (by omega)
    have hm : m ≤ limit := by omega
    refine ⟨unaryAbove_sound hbelow hm, fun r hr => operandAbove_sound hbelow hm hr rfl, ?_⟩
    intro r k n ts left hn hleft input e rest hinput h
    exact chainAbove_sound hbelow hn hleft hinput h

end Layer

/-- What is read as an expression is derived as one. -/
theorem expression_sound (eof : Nat) : Sound maxNesting 0 1 (expression eof) :=
  (soundLayer_layer eof rfl).operand 0 (Nat.zero_le _)

/-! ## Statements and actions -/

section Statements

variable {eof : Nat} {input rest : List Lexeme}

/-- What follows a target makes a statement of it. -/
theorem afterTarget_sound {start : Nat} {name : String} {qualified : Bool} {s : Statement}
    {ts : List Token} (htarget : Target ts name) (hplain : qualified = false → ts = [.ident name])
    (hinput : Readable input) (h : afterTarget eof start name qualified input = .ok (s, rest)) :
    ∃ ls, input = ls ++ rest ∧ DerivesStatement maxNesting (ts ++ ls.map Lexeme.token) s := by
  cases input with
  | nil => cases h
  | cons l us =>
    rw [afterTarget] at h
    split at h
    · next op hop =>
      obtain ⟨⟨e, vs⟩, he, hres⟩ := of_bind_eq_ok h
      cases hres
      obtain ⟨-, ms, rfl, hms⟩ := expression_sound eof _ _ _ hinput.tail he
      exact ⟨l :: ms, rfl, .compound htarget (compoundOp?_eq_some_iff.mp hop) hms⟩
    · next ht _ =>
      obtain ⟨⟨e, vs⟩, he, hres⟩ := of_bind_eq_ok h
      cases hres
      obtain ⟨-, ms, rfl, hms⟩ := expression_sound eof _ _ _ hinput.tail he
      refine ⟨l :: ms, rfl, ?_⟩
      rw [List.map_cons, ht]
      exact .assign htarget hms
    · next ht _ =>
      cases h
      refine ⟨[l], rfl, ?_⟩
      rw [List.map_singleton, ht]
      exact .incrementAfter htarget
    · next ht _ =>
      cases h
      refine ⟨[l], rfl, ?_⟩
      rw [List.map_singleton, ht]
      exact .decrementAfter htarget
    · next ht _ =>
      cases qualified with
      | true => cases h
      | false =>
        obtain ⟨⟨es, vs⟩, hes, hres⟩ := of_bind_eq_ok h
        cases hres
        obtain ⟨a, b, ms, items, rfl, rfl, hbetween, heach⟩ :=
          arguments_sound (expression_sound eof) hinput.tail hes
        refine ⟨l :: (ms ++ [⟨.rightParen, a, b⟩]), by simp, ?_⟩
        rw [hplain rfl, List.map_cons, List.map_append, ht]
        exact .call (fun item hitem => (heach item hitem).2) hbetween
    · cases h

/-- What is read as a statement is derived as one. -/
theorem statement_sound {s : Statement} (hinput : Readable input)
    (h : statement eof input = .ok (s, rest)) :
    ∃ ls, input = ls ++ rest ∧ DerivesStatement maxNesting (ls.map Lexeme.token) s := by
  unfold statement at h
  split at h
  · obtain ⟨⟨⟨name, qualified⟩, us⟩, hname, hres⟩ := of_bind_eq_ok h
    obtain ⟨ls, rfl, htarget, -⟩ := target_sound hname
    cases hres
    exact ⟨_ :: ls, rfl, .incrementBefore htarget⟩
  · obtain ⟨⟨⟨name, qualified⟩, us⟩, hname, hres⟩ := of_bind_eq_ok h
    obtain ⟨ls, rfl, htarget, -⟩ := target_sound hname
    cases hres
    exact ⟨_ :: ls, rfl, .decrementBefore htarget⟩
  · obtain ⟨⟨⟨name, qualified⟩, us⟩, hname, hres⟩ := of_bind_eq_ok h
    obtain ⟨ls, rfl, htarget, hplain⟩ := target_sound hname
    obtain ⟨ms, rfl, hms⟩ := afterTarget_sound htarget hplain hinput.right hres
    exact ⟨ls ++ ms, by simp, by rwa [List.map_append]⟩

/-- A run of semicolons ends where something else begins. -/
theorem exists_semicolons (ls : List Lexeme) :
    ∃ semis n, ls = semis ++ ls.dropWhile isSemicolon
      ∧ semis.map Lexeme.token = List.replicate n .semicolon := by
  refine ⟨ls.takeWhile isSemicolon, (ls.takeWhile isSemicolon).length,
    List.takeWhile_append_dropWhile.symm, ?_⟩
  refine List.eq_replicate_iff.mpr ⟨by simp, fun t ht => ?_⟩
  obtain ⟨l, hl, rfl⟩ := List.mem_map.mp ht
  have hsemi : isSemicolon l = true := List.mem_takeWhile_imp hl
  exact of_decide_eq_true hsemi

/-- The statements that were read derive the tokens that were taken, unless there are none. -/
theorem statements_sound {fuel : Nat} {ss : List Statement} (hinput : Readable input)
    (h : statements eof fuel input = .ok (ss, rest)) :
    ∃ ls, input = ls ++ rest
      ∧ (ss = [] ∧ ls = [] ∨ DerivesProgram maxNesting (ls.map Lexeme.token) ss) := by
  induction fuel generalizing input ss with
  | zero =>
    cases h
    exact ⟨[], rfl, .inl ⟨rfl, rfl⟩⟩
  | succ fuel ih =>
    cases input with
    | nil =>
      cases h
      exact ⟨[], rfl, .inl ⟨rfl, rfl⟩⟩
    | cons l ts =>
      rw [statements_succ] at h
      obtain ⟨⟨s, us⟩, hs, hres⟩ := of_bind_eq_ok h
      obtain ⟨ls, hls, hderives⟩ := statement_sound hinput hs
      rw [hls] at hinput ⊢
      dsimp only at hres
      split at hres
      · next a b vs =>
        obtain ⟨⟨ss', ws⟩, hss, hres⟩ := of_bind_eq_ok hres
        cases hres
        obtain ⟨semis, n, hvs, hsemis⟩ := exists_semicolons vs
        have hrest : Readable (vs.dropWhile isSemicolon) := by
          have := hinput.right.tail
          rw [hvs] at this
          exact this.right
        obtain ⟨ms, hms, hprogram⟩ := ih hrest hss
        refine ⟨ls ++ (⟨.semicolon, a, b⟩ :: semis ++ ms), ?_, .inr ?_⟩
        · rw [hvs, hms]
          simp
        · have hrun : ((⟨.semicolon, a, b⟩ :: semis : List Lexeme)).map Lexeme.token
              = List.replicate (n + 1) .semicolon := by
            rw [List.map_cons, hsemis, List.replicate_succ]
          rw [List.map_append, List.map_append, hrun]
          rcases hprogram with ⟨rfl, rfl⟩ | hprogram
          · -- Nothing was read after the run, so it ends the action.
            rw [List.map_nil, List.append_nil]
            exact .last (n + 1) hderives
          · exact .next n hderives hprogram
      · cases hres
        refine ⟨ls, rfl, .inr ?_⟩
        simpa using DerivesProgram.last 0 hderives

theorem endOfText_sound {u : Unit} (h : endOfText eof input = .ok u) : input = [] := by
  cases input with
  | nil => rfl
  | cons l ts => cases h

/-- What is read as an action is derived as one, up to the end of the text. -/
theorem program_sound {ss : List Statement} (hinput : Readable input)
    (h : program eof input = .ok ss) : DerivesProgram maxNesting (input.map Lexeme.token) ss := by
  obtain ⟨⟨ss', ts⟩, hss, hres⟩ := of_bind_eq_ok h
  obtain ⟨u, hend, hres⟩ := of_bind_eq_ok hres
  rw [endOfText_sound hend] at hss
  obtain ⟨ls, rfl, hprogram⟩ := statements_sound hinput hss
  rw [List.append_nil]
  rcases hprogram with ⟨rfl, -⟩ | hprogram
  · -- An action without statements is refused.
    cases hres
  · split at hres
    · cases hres
    · cases hres
      exact hprogram

end Statements

end PageLang.Grammar
