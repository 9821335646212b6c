import PageLang.Expr.Parser

/-!
# The grammar that expressions and actions follow

The grammar is stated on lists of tokens and without the parser: which token writes an operator,
how strongly the operator binds, and which lists of tokens derive which tree. An operand of
strength `r` is a chain of operators of strength `r` between operands of strength `r + 1`; past
the strongest binary operators stand prefix operators, and inside them the literals, names, calls
and parentheses.

`Derives limit form m ts e` carries the depth `m` at which the tokens stand. Parentheses,
arguments and the operand of a prefix operator are one deeper than where they occur, the `k`-th
right operand of a chain that starts at depth `m` is at depth `m + k`, and none of these depths
may exceed `limit`.
-/

namespace PageLang

/-- The token that writes a binary operator. -/
def BinaryOp.token : BinaryOp → Token
  | .add => .plus
  | .subtract => .minus
  | .multiply => .star
  | .divide => .slash
  | .remainder => .percent
  | .equals => .equal
  | .notEquals => .notEqual
  | .lessThan => .less
  | .lessThanOrEqual => .lessEqual
  | .greaterThan => .greater
  | .greaterThanOrEqual => .greaterEqual
  | .and => .and
  | .or => .or

/-- How strongly a binary operator binds: disjunction, conjunction, equality, comparison, sum,
product. -/
def BinaryOp.strength : BinaryOp → Nat
  | .or => 0
  | .and => 1
  | .equals | .notEquals => 2
  | .lessThan | .lessThanOrEqual | .greaterThan | .greaterThanOrEqual => 3
  | .add | .subtract => 4
  | .multiply | .divide | .remainder => 5

/-- The token of a compound assignment, for the operators that have one. -/
def BinaryOp.assignToken? : BinaryOp → Option Token
  | .add => some .plusAssign
  | .subtract => some .minusAssign
  | .multiply => some .starAssign
  | .divide => some .slashAssign
  | _ => none

/-- The token that writes a prefix operator. -/
def UnaryOp.token : UnaryOp → Token
  | .not => .bang
  | .negate => .minus

namespace Grammar

/-- The strength of an operand that no binary operator joins. -/
def unaryStrength : Nat := 6

/-- What a list of tokens derives: an operand of a strength, or the first `count + 1` operands of
a chain of operators of a strength. -/
inductive Form where
  | operand (strength : Nat)
  | chain (strength count : Nat)

/-- `name` or `state.name`. -/
def Target (ts : List Token) (name : String) : Prop :=
  ts = [.ident name] ∨ ts = [.ident "state", .dot, .ident name]

/-- The tokens between the parentheses of a call whose arguments have the tokens `items`: a comma
between any two, and perhaps one after the last. -/
def Arguments (items : List (List Token)) (ts : List Token) : Prop :=
  ts = [Token.comma].intercalate items
    ∨ items ≠ [] ∧ ts = [Token.comma].intercalate items ++ [.comma]

/-- The tokens `ts`, standing at depth `m`, derive the expression `e` as the given form. -/
inductive Derives (limit : Nat) : Form → Nat → List Token → Expr → Prop
  | number {m text x} (readable : Decimal.parse? text.toList = some x) :
      Derives limit (.operand unaryStrength) m [.number text] (.number x)
  | string {m body} :
      Derives limit (.operand unaryStrength) m [.string body]
        (.string (String.ofList (Parser.unescape body.toList)))
  | trueWord {m} : Derives limit (.operand unaryStrength) m [.trueWord] (.boolean true)
  | falseWord {m} : Derives limit (.operand unaryStrength) m [.falseWord] (.boolean false)
  | entry {m ts name} (target : Target ts name) :
      Derives limit (.operand unaryStrength) m ts (.variable name)
  | parens {m ts e} (depth : m + 1 ≤ limit) (inner : Derives limit (.operand 0) (m + 1) ts e) :
      Derives limit (.operand unaryStrength) m (.leftParen :: (ts ++ [.rightParen])) e
  | call {m name ts} {items : List (List Token × Expr)}
      (depth : items ≠ [] → m + 1 ≤ limit)
      (each : ∀ item ∈ items, Derives limit (.operand 0) (m + 1) item.1 item.2)
      (between : Arguments (items.map Prod.fst) ts) :
      Derives limit (.operand unaryStrength) m (.ident name :: .leftParen :: (ts ++ [.rightParen]))
        (.call name (items.map Prod.snd))
  | unary {m ts e} (op : UnaryOp) (depth : m + 1 ≤ limit)
      (inner : Derives limit (.operand unaryStrength) (m + 1) ts e) :
      Derives limit (.operand unaryStrength) m (op.token :: ts) (.unary op e)
  | first {r m ts e} (binary : r < unaryStrength) (left : Derives limit (.operand (r + 1)) m ts e) :
      Derives limit (.chain r 0) m ts e
  | next {k m ts us left right} (op : BinaryOp) (depth : m + (k + 1) ≤ limit)
      (before : Derives limit (.chain op.strength k) m ts left)
      (after : Derives limit (.operand (op.strength + 1)) (m + (k + 1)) us right) :
      Derives limit (.chain op.strength (k + 1)) m (ts ++ op.token :: us) (.binary left op right)
  | operand {r k m ts e} (whole : Derives limit (.chain r k) m ts e) :
      Derives limit (.operand r) m ts e

/-- The tokens `ts` derive the statement `s`; the expressions in it are at depth 1. -/
inductive DerivesStatement (limit : Nat) : List Token → Statement → Prop
  | assign {ts us name e} (target : Target ts name) (value : Derives limit (.operand 0) 1 us e) :
      DerivesStatement limit (ts ++ .assign :: us) (.assign name e)
  | compound {ts us name e op t} (target : Target ts name) (written : op.assignToken? = some t)
      (value : Derives limit (.operand 0) 1 us e) :
      DerivesStatement limit (ts ++ t :: us) (.compound name op e)
  | incrementAfter {ts name} (target : Target ts name) :
      DerivesStatement limit (ts ++ [.increment]) (.increment name)
  | decrementAfter {ts name} (target : Target ts name) :
      DerivesStatement limit (ts ++ [.decrement]) (.decrement name)
  | incrementBefore {ts name} (target : Target ts name) :
      DerivesStatement limit (.increment :: ts) (.increment name)
  | decrementBefore {ts name} (target : Target ts name) :
      DerivesStatement limit (.decrement :: ts) (.decrement name)
  | call {name ts} {items : List (List Token × Expr)}
      (each : ∀ item ∈ items, Derives limit (.operand 0) 1 item.1 item.2)
      (between : Arguments (items.map Prod.fst) ts) :
      DerivesStatement limit (.ident name :: .leftParen :: (ts ++ [.rightParen]))
        (.call name (items.map Prod.snd))

/-- The tokens `ts` derive the statements of an action: runs of semicolons stand between
statements, and perhaps one after the last. -/
inductive DerivesProgram (limit : Nat) : List Token → List Statement → Prop
  | last {ts s} (n : Nat) (only : DerivesStatement limit ts s) :
      DerivesProgram limit (ts ++ List.replicate n .semicolon) [s]
  | next {ts us s ss} (n : Nat) (head : DerivesStatement limit ts s)
      (tail : DerivesProgram limit us ss) :
      DerivesProgram limit (ts ++ (List.replicate (n + 1) .semicolon ++ us)) (s :: ss)

/-- Every binary operator is weaker than the prefix operators. -/
theorem strength_lt (op : BinaryOp) : op.strength < unaryStrength := by
  cases op <;> decide

theorem arguments_nil {ts : List Token} : Arguments [] ts ↔ ts = [] := by
  simp [Arguments]

/-- The arguments are read from the left: after the first there is nothing, or a comma and the
rest. -/
theorem arguments_cons {i : List Token} {items : List (List Token)} {ts : List Token} :
    Arguments (i :: items) ts
      ↔ (items = [] ∧ ts = i) ∨ ∃ us, Arguments items us ∧ ts = i ++ .comma :: us := by
  cases items with
  | nil => simp [Arguments]
  | cons j items =>
    have hjoin : [Token.comma].intercalate (i :: j :: items)
        = i ++ .comma :: [Token.comma].intercalate (j :: items) := by
      simp [List.intercalate]
    unfold Arguments
    rw [hjoin]
    constructor
    · rintro (rfl | ⟨-, rfl⟩)
      · exact .inr ⟨_, .inl rfl, rfl⟩
      · exact .inr ⟨_, .inr ⟨List.cons_ne_nil _ _, rfl⟩, by simp⟩
    · rintro (⟨h, -⟩ | ⟨us, rfl | ⟨-, rfl⟩, rfl⟩)
      · exact absurd h (List.cons_ne_nil _ _)
      · exact .inl rfl
      · exact .inr ⟨List.cons_ne_nil _ _, by simp⟩

/-- An operand may stand where a looser one is asked for. -/
theorem derives_loosen {limit m : Nat} {ts : List Token} {e : Expr}
    (h : Derives limit (.operand unaryStrength) m ts e) (k : Nat) :
    Derives limit (.operand (unaryStrength - k)) m ts e := by
  induction k with
  | zero => exact h
  | succ k ih =>
    by_cases hk : k < unaryStrength
    · have hsub : unaryStrength - k = unaryStrength - (k + 1) + 1 := by omega
      rw [hsub] at ih
      exact .operand (.first (by omega) ih)
    · have hsub : unaryStrength - (k + 1) = unaryStrength - k := by omega
      rwa [hsub]

/-- A token that no expression and no statement starts with. -/
def Closes (t : Token) : Prop := t = .rightParen ∨ t = .semicolon

/-- No target starts with a closing token. -/
theorem Target.exists_head {ts : List Token} {name : String} (h : Target ts name) :
    ∃ t us, ts = t :: us ∧ ¬ Closes t := by
  rcases h with rfl | rfl <;> exact ⟨_, _, rfl, by simp [Closes]⟩

theorem not_closes_token (op : UnaryOp) : ¬ Closes op.token := by
  cases op <;> simp [Closes, UnaryOp.token]

/-- No expression does. -/
theorem Derives.exists_head {limit m : Nat} {form : Form} {ts : List Token} {e : Expr}
    (h : Derives limit form m ts e) : ∃ t us, ts = t :: us ∧ ¬ Closes t := by
  induction h with
  | number _ => exact ⟨_, _, rfl, by simp [Closes]⟩
  | string => exact ⟨_, _, rfl, by simp [Closes]⟩
  | trueWord => exact ⟨_, _, rfl, by simp [Closes]⟩
  | falseWord => exact ⟨_, _, rfl, by simp [Closes]⟩
  | entry target => exact target.exists_head
  | parens _ _ _ => exact ⟨_, _, rfl, by simp [Closes]⟩
  | call _ _ _ _ => exact ⟨_, _, rfl, by simp [Closes]⟩
  | unary op _ _ _ => exact ⟨_, _, rfl, not_closes_token op⟩
  | first _ _ ih => exact ih
  | next op _ _ _ ih _ =>
    obtain ⟨t, us, rfl, ht⟩ := ih
    exact ⟨t, _, rfl, ht⟩
  | operand _ ih => exact ih

/-- No statement does. -/
theorem DerivesStatement.exists_head {limit : Nat} {ts : List Token} {s : Statement}
    (h : DerivesStatement limit ts s) : ∃ t us, ts = t :: us ∧ ¬ Closes t := by
  have extend {us vs name} (target : Target us name) :
      ∃ t ws, us ++ vs = t :: ws ∧ ¬ Closes t := by
    obtain ⟨t, ws, rfl, ht⟩ := target.exists_head
    exact ⟨t, _, rfl, ht⟩
  cases h with
  | assign target _ => exact extend target
  | compound target _ _ => exact extend target
  | incrementAfter target => exact extend target
  | decrementAfter target => exact extend target
  | incrementBefore _ => exact ⟨_, _, rfl, by simp [Closes]⟩
  | decrementBefore _ => exact ⟨_, _, rfl, by simp [Closes]⟩
  | call _ _ => exact ⟨_, _, rfl, by simp [Closes]⟩

/-- No action does. -/
theorem DerivesProgram.exists_head {limit : Nat} {ts : List Token} {ss : List Statement}
    (h : DerivesProgram limit ts ss) : ∃ t us, ts = t :: us ∧ ¬ Closes t := by
  cases h with
  | last _ only =>
    obtain ⟨t, us, rfl, ht⟩ := only.exists_head
    exact ⟨t, _, rfl, ht⟩
  | next _ head _ =>
    obtain ⟨t, us, rfl, ht⟩ := head.exists_head
    exact ⟨t, _, rfl, ht⟩

/-! ## The parser's tables -/

open PageLang.Parser

/-- The operators that the parser tries between operands of strength `r + 1`. -/
def levelOf (r : Nat) : Level := levels.getD r fun _ => none

/-- The levels from a strength on start with the one of this strength. -/
theorem levels_drop {r : Nat} (h : r < unaryStrength) :
    levels.drop r = levelOf r :: levels.drop (r + 1) := by
  have hr : r < levels.length := h
  rw [List.drop_eq_getElem_cons hr, levelOf, List.getD_eq_getElem?_getD,
    List.getElem?_eq_getElem hr, Option.getD_some]

theorem levels_drop_unaryStrength : levels.drop unaryStrength = [] := rfl

/-- An operator is found on the level of its strength. -/
theorem levelOf_token (op : BinaryOp) : levelOf op.strength op.token = some op := by
  cases op <;> rfl

/-- A level holds the operators of its strength. -/
theorem levelOf_eq_some_iff {r : Nat} {t : Token} {op : BinaryOp} :
    levelOf r t = some op ↔ t = op.token ∧ op.strength = r := by
  constructor
  · intro h
    match r with
    | 0 | 1 | 2 | 3 | 4 | 5 => cases t <;> cases h <;> exact ⟨rfl, rfl⟩
    | _ + 6 => cases h
  · rintro ⟨rfl, rfl⟩
    exact levelOf_token op

/-- A prefix operator is known by its token. -/
theorem prefixOp?_eq_some_iff {t : Token} {op : UnaryOp} :
    prefixOp? t = some op ↔ t = op.token := by
  constructor
  · intro h
    cases t <;> cases h <;> rfl
  · rintro rfl
    cases op <;> rfl

/-- A compound assignment is known by its token. -/
theorem compoundOp?_eq_some_iff {t : Token} {op : BinaryOp} :
    compoundOp? t = some op ↔ op.assignToken? = some t := by
  constructor
  · intro h
    cases t <;> cases h <;> rfl
  · intro h
    cases op <;> cases h <;> rfl

end Grammar

end PageLang
