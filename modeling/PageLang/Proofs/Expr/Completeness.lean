import PageLang.Proofs.Expr.Grammar

/-!
# The parser reads what the grammar derives

`layerAt eof limit m` is the part of the parser for depth `m`. Derived tokens are read to the tree
they derive, whatever follows them, as long as it cannot continue them:

> `Derives.reads`: an operand of strength `r` is read off any list that goes on with a token which
> is neither `(`, `.` nor an operator of strength at least `r`.

For the beginning of a chain the statement is about the parser in the middle of its loop: reading
the whole is the same as entering the loop with the tree of the beginning, `k` levels further
down.
-/

namespace PageLang.Grammar

open PageLang.Parser

/-! ## The parser at a depth -/

section Depth

variable {eof limit m : Nat}

/-- The part of the parser for depth `m`. -/
def layerAt (eof limit m : Nat) : Layer := layer eof (limit + 1 - m)

/-- Within the limit, the parser for a depth is made from that for the next deeper one. -/
theorem layerAt_of_le (h : m ≤ limit) :
    layerAt eof limit m = .above eof (layerAt eof limit (m + 1)) := by
  have hn : limit + 1 - m = (limit + 1 - (m + 1)) + 1 := by omega
  unfold layerAt
  rw [hn]
  rfl

/-- An operand with prefix operators is an operand that no binary operator joins. -/
theorem unary_layerAt : (layerAt eof limit m).unary = (layerAt eof limit m).operand [] := by
  unfold layerAt
  cases limit + 1 - m <;> rfl

/-- At the greatest strength no level of operators is left. -/
theorem operand_unaryStrength (h : m ≤ limit) :
    (layerAt eof limit m).operand (levels.drop unaryStrength)
      = unaryAbove eof (layerAt eof limit (m + 1)) := by
  rw [layerAt_of_le h, levels_drop_unaryStrength]
  rfl

/-- Below the prefix operators an operand is read, and then the loop over the operators is
entered. -/
theorem operand_binary (h : m ≤ limit) {r : Nat} (hr : r < unaryStrength) (ts : List Lexeme) :
    (layerAt eof limit m).operand (levels.drop r) ts = (do
      let (left, ts) ← (layerAt eof limit m).operand (levels.drop (r + 1)) ts
      (layerAt eof limit m).chain (levelOf r) (levels.drop (r + 1)) left ts) := by
  rw [layerAt_of_le h, levels_drop hr]
  rfl

/-- The rest of a chain is read by the parser for the next deeper level. -/
theorem chain_layerAt (h : m ≤ limit) :
    (layerAt eof limit m).chain = chainAbove (layerAt eof limit (m + 1)) := by
  rw [layerAt_of_le h]
  rfl

theorem expression_eq_layerAt :
    expression eof = (layerAt eof maxNesting 1).operand (levels.drop 0) := rfl

end Depth

/-! ## What cannot continue an operand -/

/-- The tokens `rest` cannot continue an operand of strength `r`. -/
def Stops (r : Nat) (rest : List Lexeme) : Prop :=
  ∀ l ∈ rest.head?, l.token ≠ .leftParen ∧ l.token ≠ .dot
    ∧ ∀ op : BinaryOp, l.token = op.token → op.strength < r

theorem stops_nil (r : Nat) : Stops r [] := by
  intro l hl
  cases hl

/-- Whether tokens stop an operand is decided by the first of them. -/
theorem stops_cons {r : Nat} {l : Lexeme} {rest : List Lexeme} :
    Stops r (l :: rest) ↔ l.token ≠ .leftParen ∧ l.token ≠ .dot
      ∧ ∀ op : BinaryOp, l.token = op.token → op.strength < r := by
  simp [Stops]

/-- What stops an operand stops a tighter one. -/
theorem Stops.mono {r r' : Nat} {rest : List Lexeme} (h : Stops r rest) (hr : r ≤ r') :
    Stops r' rest := by
  intro l hl
  obtain ⟨hparen, hdot, hop⟩ := h l hl
  exact ⟨hparen, hdot, fun op ht => Nat.lt_of_lt_of_le (hop op ht) hr⟩

/-- An operator is known by its token. -/
theorem token_inj {op op' : BinaryOp} (h : op.token = op'.token) : op = op' := by
  cases op <;> cases op' <;> simp_all [BinaryOp.token]

/-- A weaker operator stops an operand. -/
theorem stops_operator {r : Nat} {op : BinaryOp} (h : op.strength < r) {l : Lexeme}
    (hl : l.token = op.token) (rest : List Lexeme) : Stops r (l :: rest) := by
  refine stops_cons.mpr ⟨?_, ?_, fun op' hop' => ?_⟩
  · rw [hl]
    cases op <;> simp [BinaryOp.token]
  · rw [hl]
    cases op <;> simp [BinaryOp.token]
  · rw [← token_inj (hl.symm.trans hop')]
    exact h

/-- What closes an argument, a call, parentheses or a statement stops every expression. -/
theorem stops_closing {l : Lexeme} (h : l.token = .rightParen ∨ l.token = .comma
    ∨ l.token = .semicolon) (rest : List Lexeme) : Stops 0 (l :: rest) := by
  refine stops_cons.mpr ⟨?_, ?_, fun op hop => ?_⟩
  · rcases h with h | h | h <;> simp [h]
  · rcases h with h | h | h <;> simp [h]
  · rw [hop] at h
    cases op <;> simp [BinaryOp.token] at h

/-! ## Names and arguments -/

/-- Lexemes with a first token have a first lexeme. -/
theorem exists_lexeme_cons {ls : List Lexeme} {t : Token} {ts : List Token}
    (h : ls.map Lexeme.token = t :: ts) :
    ∃ a b ms, ls = ⟨t, a, b⟩ :: ms ∧ ms.map Lexeme.token = ts := by
  obtain ⟨⟨_, a, b⟩, ms, rfl, rfl, hms⟩ := List.map_eq_cons_iff.mp h
  exact ⟨a, b, ms, rfl, hms⟩

theorem exists_lexeme_singleton {ls : List Lexeme} {t : Token} (h : ls.map Lexeme.token = [t]) :
    ∃ a b, ls = [⟨t, a, b⟩] := by
  obtain ⟨a, b, ms, rfl, hms⟩ := exists_lexeme_cons h
  exact ⟨a, b, by rw [List.map_eq_nil_iff.mp hms]⟩

/-- A name that no point follows is a target on its own. -/
theorem target_ident {eof a b : Nat} {name : String} {rest : List Lexeme}
    (h : ∀ l ∈ rest.head?, l.token ≠ .dot) :
    target eof (⟨.ident name, a, b⟩ :: rest) = .ok ((name, false), rest) := by
  unfold target
  split
  · next heq =>
    obtain ⟨-, rfl⟩ := List.cons.inj heq
    exact absurd rfl (h _ rfl)
  · rfl

/-- Unless the arguments end here, an expression is read, and a comma goes on with the next. -/
theorem argumentsWith_succ {expression : Parser Expr} {fuel : Nat} {l : Lexeme}
    {ts us : List Lexeme} (hts : ts = l :: us) (hl : l.token ≠ .rightParen) :
    argumentsWith expression (fuel + 1) ts = (do
      let (e, ts) ← expression ts
      match ts with
      | ⟨.comma, _, _⟩ :: ts =>
        let (es, ts) ← argumentsWith expression fuel ts
        .ok (e :: es, ts)
      | ts => .ok ([e], ts)) := by
  subst hts
  refine argumentsWith.eq_4 expression (l :: us) fuel ?_ ?_
  · intro h
    cases h
  · intro start stop ts h
    obtain ⟨rfl, -⟩ := List.cons.inj h
    exact hl rfl

/-- A parser reads the tokens `ts` as the expression `e` before anything that stops an
expression. -/
def ReadsAs (expression : Parser Expr) (ts : List Token) (e : Expr) : Prop :=
  (∃ t us, ts = t :: us ∧ ¬ Closes t)
    ∧ ∀ ls rest, ls.map Lexeme.token = ts → Stops 0 rest → expression (ls ++ rest) = .ok (e, rest)

/-- One argument is read, and what follows it decides whether there are more. -/
theorem ReadsAs.argumentsWith {expression : Parser Expr} {ls : List Lexeme} {e : Expr}
    (h : ReadsAs expression (ls.map Lexeme.token) e) (fuel : Nat) (tail : List Lexeme) :
    Stops 0 tail → argumentsWith expression (fuel + 1) (ls ++ tail) = (
      match tail with
      | ⟨.comma, _, _⟩ :: ts => do
        let (es, ts) ← Parser.argumentsWith expression fuel ts
        .ok (e :: es, ts)
      | ts => .ok ([e], ts)) := by
  intro htail
  obtain ⟨⟨t, us, hhead, ht⟩, hread⟩ := h
  obtain ⟨l, ls', rfl, hl, -⟩ := List.map_eq_cons_iff.mp hhead
  have hne : l.token ≠ .rightParen := by
    rw [hl]
    exact fun h => ht (.inl h)
  rw [argumentsWith_succ (List.cons_append ..) hne, hread _ tail rfl htail]
  rfl

/-- All arguments are read up to the closing parenthesis, with a comma before it or not. -/
theorem argumentsWith_eq_ok {expression : Parser Expr} {items : List (List Token × Expr)}
    (each : ∀ item ∈ items, ReadsAs expression item.1 item.2) {ls : List Lexeme}
    (between : Arguments (items.map Prod.fst) (ls.map Lexeme.token))
    {fuel : Nat} (hfuel : ls.length ≤ fuel) (a b : Nat) (rest : List Lexeme) :
    argumentsWith expression fuel (ls ++ ⟨.rightParen, a, b⟩ :: rest)
      = .ok (items.map Prod.snd, ⟨.rightParen, a, b⟩ :: rest) := by
  induction items generalizing ls fuel with
  | nil =>
    have hls : ls = [] := List.map_eq_nil_iff.mp (arguments_nil.mp between)
    subst hls
    cases fuel <;> rfl
  | cons item items ih =>
    have hitem := each item (List.mem_cons_self ..)
    rw [List.map_cons, arguments_cons] at between
    rcases between with ⟨hitems, hls⟩ | ⟨vs, hvs, hls⟩
    · -- The last argument, with no comma after it.
      rw [← hls] at hitem
      obtain ⟨fuel, rfl⟩ : ∃ n, fuel = n + 1 := by
        obtain ⟨⟨t, us, hhead, -⟩, -⟩ := hitem
        have := congrArg List.length hhead
        simp only [List.length_map, List.length_cons] at this
        exact ⟨fuel - 1, by omega⟩
      rw [hitem.argumentsWith _ _ (stops_closing (.inl rfl) rest)]
      rw [List.map_eq_nil_iff.mp hitems]
      rfl
    · obtain ⟨ms, cs, rfl, hms, hcs⟩ := List.map_eq_append_iff.mp hls
      obtain ⟨c, d, ns, rfl, rfl⟩ := exists_lexeme_cons hcs
      rw [← hms] at hitem
      rw [List.length_append, List.length_cons] at hfuel
      obtain ⟨fuel, rfl⟩ : ∃ n, fuel = n + 1 := ⟨fuel - 1, by omega⟩
      rw [List.append_assoc, List.cons_append,
        hitem.argumentsWith _ _ (stops_closing (.inr (.inl rfl)) _)]
      dsimp only
      rw [ih (fun i hi => each i (List.mem_cons_of_mem _ hi)) hvs (by omega)]
      rfl

/-- The closing parenthesis is taken as well. -/
theorem arguments_eq_ok {expression : Parser Expr} {items : List (List Token × Expr)}
    (each : ∀ item ∈ items, ReadsAs expression item.1 item.2) {ls : List Lexeme}
    (between : Arguments (items.map Prod.fst) (ls.map Lexeme.token)) (eof a b : Nat)
    (rest : List Lexeme) :
    arguments eof expression (ls ++ ⟨.rightParen, a, b⟩ :: rest)
      = .ok (items.map Prod.snd, rest) := by
  unfold arguments
  rw [argumentsWith_eq_ok each between (by simp)]
  rfl

/-- The tokens of a call after its name. -/
theorem exists_lexemes_call {name : String} {ts : List Token} {ls : List Lexeme}
    (h : ls.map Lexeme.token = .ident name :: .leftParen :: (ts ++ [.rightParen])) :
    ∃ a b c d x y ms, ms.map Lexeme.token = ts
      ∧ ls = ⟨.ident name, a, b⟩ :: ⟨.leftParen, c, d⟩ :: (ms ++ [⟨.rightParen, x, y⟩]) := by
  obtain ⟨a, b, _, rfl, h₁⟩ := exists_lexeme_cons h
  obtain ⟨c, d, _, rfl, h₂⟩ := exists_lexeme_cons h₁
  obtain ⟨ms, _, rfl, hms, h₃⟩ := List.map_eq_append_iff.mp h₂
  obtain ⟨x, y, rfl⟩ := exists_lexeme_singleton h₃
  exact ⟨a, b, c, d, x, y, ms, hms, rfl⟩

/-! ## Derivations are followed -/

/-- What a derivation promises of the parser at its depth. -/
def Reads (eof limit : Nat) : Form → Nat → List Token → Expr → Prop
  | .operand r, m, ts, e => m ≤ limit → ∀ ls rest, ls.map Lexeme.token = ts → Stops r rest →
      (layerAt eof limit m).operand (levels.drop r) (ls ++ rest) = .ok (e, rest)
  | .chain r k, m, ts, e => m ≤ limit → r < unaryStrength ∧ m + k ≤ limit
      ∧ ∀ ls rest, ls.map Lexeme.token = ts → Stops (r + 1) rest →
        (layerAt eof limit m).operand (levels.drop r) (ls ++ rest)
          = (layerAt eof limit (m + k)).chain (levelOf r) (levels.drop (r + 1)) e rest

section Reads

variable {eof limit m : Nat} {ts : List Token} {e : Expr}

/-- Tokens that start with no prefix operator are read as a primary expression. -/
theorem reads_of_primary
    (h : m ≤ limit → ∀ ls rest, ls.map Lexeme.token = ts → Stops unaryStrength rest →
      ∃ l us, ls = l :: us ∧ prefixOp? l.token = none
        ∧ primary eof ((layerAt eof limit (m + 1)).operand levels) (ls ++ rest) = .ok (e, rest)) :
    Reads eof limit (.operand unaryStrength) m ts e := by
  intro hm ls rest hls hrest
  obtain ⟨l, us, rfl, hl, hprimary⟩ := h hm ls rest hls hrest
  rw [operand_unaryStrength hm, List.cons_append, unaryAbove, hl]
  exact hprimary

/-- A token that is a whole primary expression. -/
theorem reads_literal {t : Token} (hpre : prefixOp? t = none)
    (h : ∀ a b rest, primary eof ((layerAt eof limit (m + 1)).operand levels) (⟨t, a, b⟩ :: rest)
      = .ok (e, rest)) :
    Reads eof limit (.operand unaryStrength) m [t] e := by
  refine reads_of_primary fun _ ls rest hls _ => ?_
  obtain ⟨a, b, rfl⟩ := exists_lexeme_singleton hls
  exact ⟨_, _, rfl, hpre, h a b rest⟩

/-- A target in an expression is read as a variable. -/
theorem reads_entry {name : String} (target : Target ts name) :
    Reads eof limit (.operand unaryStrength) m ts (.variable name) := by
  refine reads_of_primary fun _ ls rest hls hrest => ?_
  rcases target with rfl | rfl
  · obtain ⟨a, b, rfl⟩ := exists_lexeme_singleton hls
    refine ⟨_, _, rfl, rfl, ?_⟩
    rw [List.singleton_append, primary, target_ident fun l hl => (hrest l hl).2.1]
    simp only [bind, Except.bind]
    split
    · -- A parenthesis would make it a call.
      exact absurd rfl (stops_cons.mp hrest).1
    · rfl
  · obtain ⟨a, b, _, rfl, h₁⟩ := exists_lexeme_cons hls
    obtain ⟨c, d, _, rfl, h₂⟩ := exists_lexeme_cons h₁
    obtain ⟨x, y, rfl⟩ := exists_lexeme_singleton h₂
    exact ⟨_, _, rfl, rfl, rfl⟩

/-- An expression in parentheses is read one level deeper. -/
theorem reads_parens (depth : m + 1 ≤ limit) (inner : Reads eof limit (.operand 0) (m + 1) ts e) :
    Reads eof limit (.operand unaryStrength) m (.leftParen :: (ts ++ [.rightParen])) e := by
  refine reads_of_primary fun _ ls rest hls hrest => ?_
  obtain ⟨a, b, _, rfl, h₁⟩ := exists_lexeme_cons hls
  obtain ⟨ms, _, rfl, hms, h₂⟩ := List.map_eq_append_iff.mp h₁
  obtain ⟨x, y, rfl⟩ := exists_lexeme_singleton h₂
  refine ⟨_, _, rfl, rfl, ?_⟩
  have hread := inner depth ms (⟨.rightParen, x, y⟩ :: rest) hms (stops_closing (.inl rfl) rest)
  rw [List.drop_zero] at hread
  rw [List.cons_append, List.append_assoc, List.singleton_append, primary, hread]
  rfl

/-- A call reads its arguments one level deeper. -/
theorem reads_call {name : String} {items : List (List Token × Expr)}
    (each : ∀ item ∈ items, ReadsAs ((layerAt eof limit (m + 1)).operand levels) item.1 item.2)
    (between : Arguments (items.map Prod.fst) ts) :
    Reads eof limit (.operand unaryStrength) m (.ident name :: .leftParen :: (ts ++ [.rightParen]))
      (.call name (items.map Prod.snd)) := by
  refine reads_of_primary fun _ ls rest hls hrest => ?_
  obtain ⟨a, b, c, d, x, y, ms, rfl, rfl⟩ := exists_lexemes_call hls
  refine ⟨_, _, rfl, rfl, ?_⟩
  have hread := arguments_eq_ok each between eof x y rest
  rw [List.cons_append, List.cons_append, List.append_assoc, List.singleton_append, primary,
    target_ident (by simp)]
  simp only [bind, Except.bind]
  rw [hread]

/-- The operand of a prefix operator is read one level deeper. -/
theorem reads_unary (op : UnaryOp) (depth : m + 1 ≤ limit)
    (inner : Reads eof limit (.operand unaryStrength) (m + 1) ts e) :
    Reads eof limit (.operand unaryStrength) m (op.token :: ts) (.unary op e) := by
  intro hm ls rest hls hrest
  obtain ⟨a, b, ms, rfl, hms⟩ := exists_lexeme_cons hls
  have hread := inner depth ms rest hms hrest
  rw [levels_drop_unaryStrength] at hread
  rw [operand_unaryStrength hm, List.cons_append, unaryAbove, prefixOp?_eq_some_iff.mpr rfl]
  dsimp only
  rw [unary_layerAt, hread]
  rfl

/-- A chain starts with one operand and no operator. -/
theorem reads_first {r : Nat} (binary : r < unaryStrength)
    (left : Reads eof limit (.operand (r + 1)) m ts e) : Reads eof limit (.chain r 0) m ts e := by
  intro hm
  refine ⟨binary, hm, fun ls rest hls hrest => ?_⟩
  rw [operand_binary hm binary, left hm ls rest hls hrest]
  rfl

/-- One more operator of the chain is one more round of the loop. -/
theorem reads_next {k : Nat} {us : List Token} {left right : Expr} (op : BinaryOp)
    (depth : m + (k + 1) ≤ limit) (before : Reads eof limit (.chain op.strength k) m ts left)
    (after : Reads eof limit (.operand (op.strength + 1)) (m + (k + 1)) us right) :
    Reads eof limit (.chain op.strength (k + 1)) m (ts ++ op.token :: us)
      (.binary left op right) := by
  intro hm
  obtain ⟨hr, hk, hbefore⟩ := before hm
  refine ⟨hr, depth, fun ls rest hls hrest => ?_⟩
  obtain ⟨ms, _, rfl, hms, hrs⟩ := List.map_eq_append_iff.mp hls
  obtain ⟨a, b, ns, rfl, hns⟩ := exists_lexeme_cons hrs
  -- The operator ends the beginning of the chain, as it is too weak to go on inside its last
  -- operand.
  have hstop : Stops (op.strength + 1) (⟨op.token, a, b⟩ :: (ns ++ rest)) :=
    stops_operator (Nat.lt_succ_self _) rfl _
  rw [List.append_assoc, List.cons_append, hbefore ms _ hms hstop, chain_layerAt hk, chainAbove,
    levelOf_token]
  dsimp only
  rw [Nat.add_assoc, after depth ns rest hns hrest]
  rfl

/-- The loop ends before a token that stops the chain. -/
theorem reads_operand {r k : Nat} (whole : Reads eof limit (.chain r k) m ts e) :
    Reads eof limit (.operand r) m ts e := by
  intro hm ls rest hls hrest
  obtain ⟨hr, hk, hwhole⟩ := whole hm
  rw [hwhole ls rest hls (hrest.mono (Nat.le_succ r)), chain_layerAt hk]
  cases rest with
  | nil => rfl
  | cons l rest =>
    have hnone : levelOf r l.token = none := by
      refine Option.eq_none_iff_forall_ne_some.mpr fun op hop => ?_
      obtain ⟨ht, hs⟩ := levelOf_eq_some_iff.mp hop
      exact absurd ((stops_cons.mp hrest).2.2 op ht) (by omega)
    rw [chainAbove, hnone]

end Reads

/-- **Derived tokens are read to the tree they derive.** -/
theorem Derives.reads {limit m : Nat} {form : Form} {ts : List Token} {e : Expr}
    (h : Derives limit form m ts e) (eof : Nat) : Reads eof limit form m ts e := by
  induction h with
  | number readable => exact reads_literal rfl fun _ _ _ => by rw [primary, readable]; rfl
  | string => exact reads_literal rfl fun _ _ _ => rfl
  | trueWord => exact reads_literal rfl fun _ _ _ => rfl
  | falseWord => exact reads_literal rfl fun _ _ _ => rfl
  | entry target => exact reads_entry target
  | parens depth _ ih => exact reads_parens depth ih
  | call depth each between ih =>
    -- The depth of the arguments is allowed only if there are any, and `item` is one.
    refine reads_call (fun item hitem => ⟨(each item hitem).exists_head, ?_⟩) between
    exact ih item hitem (depth (List.ne_nil_of_mem hitem))
  | unary op depth _ ih => exact reads_unary op depth ih
  | first binary _ ih => exact reads_first binary ih
  | next op depth _ _ ihBefore ihAfter => exact reads_next op depth ihBefore ihAfter
  | operand _ ih => exact reads_operand ih

/-- What the grammar derives at the outermost level is read as an expression. -/
theorem Derives.readsAs_expression {ts : List Token} {e : Expr}
    (h : Derives maxNesting (.operand 0) 1 ts e) (eof : Nat) : ReadsAs (expression eof) ts e := by
  refine ⟨h.exists_head, fun ls rest hls hrest => ?_⟩
  rw [expression_eq_layerAt]
  exact h.reads eof (by decide) ls rest hls hrest

/-! ## Statements and actions -/

section Statements

variable {ls rest : List Lexeme}

/-- A target is read, whether or not it is written with `state.`. -/
theorem Target.target_eq_ok {ts : List Token} {name : String} (h : Target ts name) (eof : Nat)
    (hls : ls.map Lexeme.token = ts) (hrest : ∀ l ∈ rest.head?, l.token ≠ .dot) :
    ∃ qualified, target eof (ls ++ rest) = .ok ((name, qualified), rest) := by
  rcases h with rfl | rfl
  · obtain ⟨a, b, rfl⟩ := exists_lexeme_singleton hls
    exact ⟨false, target_ident hrest⟩
  · obtain ⟨a, b, _, rfl, h₁⟩ := exists_lexeme_cons hls
    obtain ⟨c, d, _, rfl, h₂⟩ := exists_lexeme_cons h₁
    obtain ⟨x, y, rfl⟩ := exists_lexeme_singleton h₂
    exact ⟨true, rfl⟩

/-- A target starts with a name. -/
theorem Target.exists_ident {ts : List Token} {name : String} (h : Target ts name)
    (hls : ls.map Lexeme.token = ts) : ∃ word a b ms, ls = ⟨.ident word, a, b⟩ :: ms := by
  rcases h with rfl | rfl
  · obtain ⟨a, b, ms, rfl, -⟩ := exists_lexeme_cons hls
    exact ⟨_, a, b, ms, rfl⟩
  · obtain ⟨a, b, ms, rfl, -⟩ := exists_lexeme_cons hls
    exact ⟨_, a, b, ms, rfl⟩

theorem statement_of_ident {name : String} {eof a b : Nat} :
    statement eof (⟨.ident name, a, b⟩ :: rest) = (do
      let ((name, qualified), rest) ← target eof (⟨.ident name, a, b⟩ :: rest)
      afterTarget eof a name qualified rest) := rfl

/-- A statement that starts with a target is read by what follows the target. -/
theorem Target.statement_eq {ts us : List Token} {name : String} {t : Token} (h : Target ts name)
    (eof : Nat) (hls : ls.map Lexeme.token = ts ++ t :: us) (ht : t ≠ .dot) (rest : List Lexeme) :
    ∃ a b start qualified ns, ns.map Lexeme.token = us
      ∧ statement eof (ls ++ rest)
        = afterTarget eof start name qualified (⟨t, a, b⟩ :: (ns ++ rest)) := by
  obtain ⟨ms, _, rfl, hms, h₁⟩ := List.map_eq_append_iff.mp hls
  obtain ⟨a, b, ns, rfl, hns⟩ := exists_lexeme_cons h₁
  obtain ⟨qualified, hq⟩ := h.target_eq_ok eof hms
    (show ∀ l ∈ (⟨t, a, b⟩ :: (ns ++ rest) : List Lexeme).head?, l.token ≠ .dot by simpa using ht)
  obtain ⟨word, c, d, us', rfl⟩ := h.exists_ident hms
  rw [List.cons_append] at hq
  rw [List.append_assoc, List.cons_append, List.cons_append, statement_of_ident, hq]
  exact ⟨a, b, c, qualified, ns, hns, rfl⟩

/-- A statement is read before the end of the action and before a semicolon. -/
theorem DerivesStatement.statement_eq_ok {ts : List Token} {s : Statement}
    (h : DerivesStatement maxNesting ts s) (eof : Nat) (hls : ls.map Lexeme.token = ts)
    (rest : List Lexeme) (hrest : ∀ l ∈ rest.head?, l.token = .semicolon) :
    statement eof (ls ++ rest) = .ok (s, rest) := by
  have hdot : ∀ l ∈ rest.head?, l.token ≠ .dot := fun l hl => by simp [hrest l hl]
  have hstop : Stops 0 rest := by
    cases rest with
    | nil => exact stops_nil 0
    | cons l rest => exact stops_closing (.inr (.inr (hrest l rfl))) rest
  cases h with
  | assign target value =>
    obtain ⟨a, b, start, q, ns, hns, heq⟩ := target.statement_eq eof hls (by simp) rest
    rw [heq, afterTarget]
    dsimp only [compoundOp?]
    rw [(value.readsAs_expression eof).2 ns rest hns hstop]
    rfl
  | @compound _ us name e op t target written value =>
    have hop := compoundOp?_eq_some_iff.mpr written
    have ht : t ≠ .dot := by
      rintro rfl
      cases hop
    obtain ⟨a, b, start, q, ns, hns, heq⟩ := target.statement_eq eof hls ht rest
    rw [heq, afterTarget]
    dsimp only
    rw [hop]
    dsimp only
    rw [(value.readsAs_expression eof).2 ns rest hns hstop]
    rfl
  | incrementAfter target =>
    obtain ⟨a, b, start, q, ns, hns, heq⟩ := target.statement_eq eof hls (by simp) rest
    rw [heq, List.map_eq_nil_iff.mp hns]
    rfl
  | decrementAfter target =>
    obtain ⟨a, b, start, q, ns, hns, heq⟩ := target.statement_eq eof hls (by simp) rest
    rw [heq, List.map_eq_nil_iff.mp hns]
    rfl
  | incrementBefore target =>
    obtain ⟨a, b, ms, rfl, hms⟩ := exists_lexeme_cons hls
    obtain ⟨q, hq⟩ := target.target_eq_ok eof hms hdot
    rw [List.cons_append, statement, hq]
    rfl
  | decrementBefore target =>
    obtain ⟨a, b, ms, rfl, hms⟩ := exists_lexeme_cons hls
    obtain ⟨q, hq⟩ := target.target_eq_ok eof hms hdot
    rw [List.cons_append, statement, hq]
    rfl
  | call each between =>
    obtain ⟨a, b, c, d, x, y, ms, rfl, rfl⟩ := exists_lexemes_call hls
    have hread :=
      arguments_eq_ok (fun item hitem => (each item hitem).readsAs_expression eof) between
      eof x y rest
    rw [List.cons_append, List.cons_append, List.append_assoc, List.singleton_append,
      statement_of_ident, target_ident (by simp)]
    simp only [bind, Except.bind, afterTarget, compoundOp?]
    simp [hread]

/-- A statement is read, and semicolons go on with the next. -/
theorem statements_succ {eof fuel : Nat} {l : Lexeme} {ts : List Lexeme} :
    statements eof (fuel + 1) (l :: ts) = (do
      let (s, ts) ← statement eof (l :: ts)
      match ts with
      | ⟨.semicolon, _, _⟩ :: ts =>
        let (ss, ts) ← statements eof fuel (ts.dropWhile isSemicolon)
        .ok (s :: ss, ts)
      | ts => .ok ([s], ts)) := rfl

/-- A run of semicolons is dropped as a whole. -/
theorem dropWhile_semicolons {n : Nat} (hls : ls.map Lexeme.token = List.replicate n .semicolon)
    (hrest : ∀ l ∈ rest.head?, l.token ≠ .semicolon) :
    (ls ++ rest).dropWhile isSemicolon = rest := by
  have hall : ∀ l ∈ ls, isSemicolon l = true := by
    intro l hl
    have hmem : l.token ∈ List.replicate n Token.semicolon := hls ▸ List.mem_map_of_mem hl
    exact decide_eq_true (List.eq_of_mem_replicate hmem)
  rw [List.dropWhile_append_of_pos hall]
  cases rest with
  | nil => rfl
  | cons l rest => exact List.dropWhile_cons_of_neg (by simpa [isSemicolon] using hrest l rfl)

/-- After a statement and a run of semicolons the parser goes on with the rest. -/
theorem DerivesStatement.statements_eq {ts : List Token} {s : Statement}
    (h : DerivesStatement maxNesting ts s) (eof fuel : Nat) {semis : List Lexeme} {n : Nat}
    (hls : ls.map Lexeme.token = ts)
    (hsemis : semis.map Lexeme.token = List.replicate (n + 1) .semicolon) (rest : List Lexeme)
    (hrest : ∀ l ∈ rest.head?, l.token ≠ .semicolon) :
    statements eof (fuel + 1) (ls ++ (semis ++ rest)) = (do
      let (ss, ts) ← statements eof fuel rest
      .ok (s :: ss, ts)) := by
  obtain ⟨t, us, rfl, -⟩ := h.exists_head
  obtain ⟨a, b, ms, rfl, hms⟩ := exists_lexeme_cons hls
  obtain ⟨c, d, ns, rfl, hns⟩ := exists_lexeme_cons (hsemis.trans List.replicate_succ)
  have hread := h.statement_eq_ok eof hls (⟨.semicolon, c, d⟩ :: ns ++ rest) (by simp)
  rw [List.cons_append] at hread ⊢
  rw [statements_succ, hread]
  simp only [bind, Except.bind, List.cons_append]
  rw [dropWhile_semicolons hns hrest]

theorem statements_nil (eof fuel : Nat) : statements eof fuel [] = .ok ([], []) := by
  cases fuel <;> rfl

/-- No statement is empty, so there are never more statements than tokens. -/
theorem DerivesStatement.length_pos {ts : List Token} {s : Statement} {limit : Nat}
    (h : DerivesStatement limit ts s) (hls : ls.map Lexeme.token = ts) : 0 < ls.length := by
  obtain ⟨t, us, rfl, -⟩ := h.exists_head
  obtain ⟨a, b, ms, rfl, -⟩ := exists_lexeme_cons hls
  exact Nat.succ_pos _

/-- **A derived action is read to the end.** -/
theorem DerivesProgram.statements_eq_ok {ts : List Token} {ss : List Statement}
    (h : DerivesProgram maxNesting ts ss) (eof : Nat) {fuel : Nat} (hls : ls.map Lexeme.token = ts)
    (hfuel : ls.length ≤ fuel) : statements eof fuel ls = .ok (ss, []) := by
  induction h generalizing ls fuel with
  | @last ts s n only =>
    obtain ⟨ms, semis, rfl, hms, hsemis⟩ := List.map_eq_append_iff.mp hls
    have hpos := only.length_pos hms
    rw [List.length_append] at hfuel
    obtain ⟨fuel, rfl⟩ : ∃ k, fuel = k + 1 := ⟨fuel - 1, by omega⟩
    cases n with
    | zero =>
      have hread := only.statement_eq_ok eof hms [] (by simp)
      obtain ⟨l, ms, rfl⟩ := List.exists_cons_of_length_pos hpos
      rw [List.append_nil] at hread
      rw [List.map_eq_nil_iff.mp hsemis, List.append_nil, statements_succ, hread]
      rfl
    | succ n =>
      have hread := only.statements_eq eof fuel hms hsemis [] (by simp)
      rw [List.append_nil, statements_nil] at hread
      exact hread
  | next n head tail ih =>
    obtain ⟨ms, _, rfl, hms, h₁⟩ := List.map_eq_append_iff.mp hls
    obtain ⟨semis, ns, rfl, hsemis, hns⟩ := List.map_eq_append_iff.mp h₁
    have hpos := head.length_pos hms
    rw [List.length_append, List.length_append] at hfuel
    obtain ⟨fuel, rfl⟩ : ∃ k, fuel = k + 1 := ⟨fuel - 1, by omega⟩
    -- The run of semicolons is over where the next statement begins.
    have hrest : ∀ l ∈ ns.head?, l.token ≠ .semicolon := by
      obtain ⟨t, us, rfl, ht⟩ := tail.exists_head
      obtain ⟨a, b, ms, rfl, -⟩ := exists_lexeme_cons hns
      intro l hl h
      cases hl
      exact ht (.inr h)
    rw [head.statements_eq eof fuel hms hsemis ns hrest, ih hns (by omega)]
    rfl

/-- What the grammar derives as an action is read as one. -/
theorem DerivesProgram.program_eq_ok {ts : List Token} {ss : List Statement}
    (h : DerivesProgram maxNesting ts ss) (eof : Nat) (hls : ls.map Lexeme.token = ts) :
    program eof ls = .ok ss := by
  have hne : ss.isEmpty = false := by
    cases h <;> rfl
  unfold program
  rw [h.statements_eq_ok eof hls (Nat.le_refl _)]
  simp only [bind, Except.bind, endOfText, hne]
  rfl

end Statements

end PageLang.Grammar
