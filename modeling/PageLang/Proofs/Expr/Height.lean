import PageLang.Proofs.Expr.Language

/-!
# How tall the accepted expressions are

The nesting limit bounds the depth at which an operand is read. The left operand of a chain is
read at the depth of the chain and is pushed down afterwards, once for every operator that follows
it, and each of the six kinds of chains may do so again. So the trees are far taller than the
limit, but not without bound:

> `accepted_height_le_sharp`: no accepted expression is taller than 12160, and one is that tall.
> The limit is the bound where nothing is pushed down.

`tallest r d` is the greatest height of an operand of strength `r` with `d` levels left below it.
The upper bound is an induction on derivations; for the lower bound the tallest expression is
written down, with a text, its tokens and its tree side by side.
-/

namespace PageLang

open PageLang.Parser

mutual

/-- How many operators and calls lie inside one another in an expression. -/
def Expr.height : Expr → Nat
  | .unary _ operand => operand.height + 1
  | .binary left _ right => max left.height right.height + 1
  | .call _ arguments => Expr.heightAll arguments + 1
  | _ => 0

/-- The height of the tallest of some expressions. -/
def Expr.heightAll : List Expr → Nat
  | [] => 0
  | e :: es => max e.height (Expr.heightAll es)

end

/-- A bound on all of some expressions bounds the tallest. -/
theorem Expr.heightAll_le {es : List Expr} {bound : Nat} (h : ∀ e ∈ es, e.height ≤ bound) :
    Expr.heightAll es ≤ bound := by
  induction es with
  | nil => exact Nat.zero_le _
  | cons e es ih =>
    rw [Expr.heightAll]
    exact Nat.max_le.mpr
      ⟨h e (List.mem_cons_self ..), ih fun e' he' => h e' (List.mem_cons_of_mem _ he')⟩

/-- A literal, a name, or a chain of operators of one strength between these. -/
def Expr.Flat (strength : Nat) : Expr → Prop
  | .binary left op right => op.strength = strength ∧ right.height = 0 ∧ left.Flat strength
  | e => e.height = 0

namespace Grammar

/-! ## The bound -/

/-- The greatest height of an operand that no binary operator joins, with `d` levels left. Without
a level left there is still a call without arguments. -/
def tallestUnary : Nat → Nat
  | 0 => 1
  | d + 1 => tallestUnary d + unaryStrength * d + 1

/-- The greatest height of an operand of strength `r` with `d` levels left. -/
def tallest (r d : Nat) : Nat := tallestUnary d + (unaryStrength - r) * d

/-- At the greatest strength no chain adds to the height. -/
theorem tallest_unaryStrength (d : Nat) : tallest unaryStrength d = tallestUnary d := by
  rw [tallest, Nat.sub_self, Nat.zero_mul, Nat.add_zero]

/-- One level deeper, any expression may stand inside an operand. -/
theorem tallestUnary_succ (d : Nat) : tallestUnary (d + 1) = tallest 0 d + 1 := rfl

/-- A kind of chains adds as much as there are levels. -/
theorem tallest_of_lt {r : Nat} (hr : r < unaryStrength) (d : Nat) :
    tallest r d = tallest (r + 1) d + d := by
  have hsub : unaryStrength - r = unaryStrength - (r + 1) + 1 := by omega
  rw [tallest, tallest, hsub, Nat.succ_mul, Nat.add_assoc]

/-- A call is always possible. -/
theorem tallestUnary_pos (d : Nat) : 1 ≤ tallestUnary d := by
  cases d with
  | zero => exact Nat.le_refl 1
  | succ d => exact Nat.le_add_left 1 _

/-- More levels allow more height. -/
theorem tallestUnary_mono {d d' : Nat} (h : d ≤ d') : tallestUnary d ≤ tallestUnary d' := by
  induction h with
  | refl => exact Nat.le_refl _
  | step _ ih =>
    rw [tallestUnary]
    omega

/-- The same at every strength. -/
theorem tallest_mono (r : Nat) {d d' : Nat} (h : d ≤ d') : tallest r d ≤ tallest r d' :=
  Nat.add_le_add (tallestUnary_mono h) (Nat.mul_le_mul_left _ h)

/-- The height that the form allows at depth `m`. The first operands of a chain are bounded by
what stands between its operators, and by how many operators there have been. -/
def Allows (limit m height : Nat) : Form → Prop
  | .operand r => height ≤ tallest r (limit - m)
  | .chain r k => r < unaryStrength ∧ m + k ≤ limit ∧ height ≤ tallest (r + 1) (limit - m) + k

theorem allows_unary {limit m height : Nat} (h : height ≤ tallestUnary (limit - m)) :
    Allows limit m height (.operand unaryStrength) := by
  rw [Allows, tallest_unaryStrength]
  exact h

/-- A literal or a name is allowed everywhere. -/
theorem allows_leaf (limit m : Nat) : Allows limit m 0 (.operand unaryStrength) :=
  allows_unary (Nat.zero_le _)

/-- What is nested one level deeper leaves room for one more operator around it. -/
theorem succ_le_tallestUnary {limit m height : Nat} (hm : m + 1 ≤ limit)
    (h : height ≤ tallest 0 (limit - (m + 1))) : height + 1 ≤ tallestUnary (limit - m) := by
  have hd : limit - m = limit - (m + 1) + 1 := by omega
  rw [hd, tallestUnary_succ]
  exact Nat.add_le_add_right h 1

/-- **A derived tree is no taller than its form allows.** -/
theorem Derives.allows {limit m : Nat} {form : Form} {ts : List Token} {e : Expr}
    (h : Derives limit form m ts e) (hm : m ≤ limit) : Allows limit m e.height form := by
  induction h with
  | number _ => exact allows_leaf limit _
  | string => exact allows_leaf limit _
  | trueWord => exact allows_leaf limit _
  | falseWord => exact allows_leaf limit _
  | entry _ => exact allows_leaf limit _
  | parens depth _ ih =>
    have hstep := succ_le_tallestUnary depth (ih depth)
    exact allows_unary (Nat.le_of_succ_le hstep)
  | @call m name ts items depth _ _ ih =>
    rw [Expr.height]
    by_cases hitems : items = []
    · -- A call without arguments needs no level of its own.
      subst hitems
      exact allows_unary (tallestUnary_pos _)
    · have hdepth := depth hitems
      refine allows_unary (succ_le_tallestUnary hdepth (Expr.heightAll_le fun e he => ?_))
      obtain ⟨item, hitem, rfl⟩ := List.mem_map.mp he
      exact ih item hitem hdepth
  | @unary m ts e op depth _ ih =>
    have hoperand : e.height ≤ tallest unaryStrength (limit - (m + 1)) := ih depth
    refine allows_unary (succ_le_tallestUnary depth (Nat.le_trans hoperand ?_))
    rw [tallest_unaryStrength]
    exact Nat.le_add_right _ _
  | first binary _ ih => exact ⟨binary, hm, ih hm⟩
  | @next k m ts us left right op depth _ _ ihbefore ihafter =>
    obtain ⟨hr, _, hleft⟩ := ihbefore hm
    have hright : right.height ≤ tallest (op.strength + 1) (limit - m) :=
      Nat.le_trans (ihafter depth) (tallest_mono _ (by omega))
    refine ⟨hr, depth, ?_⟩
    rw [Expr.height]
    omega
  | @operand r k m ts e _ ih =>
    -- Every operator of the chain took a level, so there are no more of them than levels.
    obtain ⟨hr, hk, hheight⟩ := ih hm
    rw [Allows, tallest_of_lt hr]
    omega

/-! ## Where the limit is the bound -/

/-- Of every operator within an expression the left operand is of a kind that depends on the
operator. -/
def LeftOperands (kind : BinaryOp → Expr → Prop) (e : Expr) : Prop :=
  ∀ left op right, .binary left op right ∈ e.subterms → kind op left

theorem mem_subterms_self (e : Expr) : e ∈ e.subterms := by
  cases e <;> exact List.mem_cons_self ..

/-- The subterms of one of some expressions are among those of all. -/
theorem subterms_subset_of_mem {e : Expr} {es : List Expr} (h : e ∈ es) :
    e.subterms ⊆ Expr.subtermsOf es := by
  induction es with
  | nil => cases h
  | cons e' es ih =>
    rw [Expr.subtermsOf]
    rcases List.mem_cons.mp h with rfl | h
    · exact List.subset_append_left _ _
    · exact List.subset_append_of_subset_right _ (ih h)

/-- What holds of all left operands holds of those in a part. -/
theorem LeftOperands.mono {kind : BinaryOp → Expr → Prop} {e e' : Expr} (h : LeftOperands kind e)
    (hsub : e'.subterms ⊆ e.subterms) : LeftOperands kind e' :=
  fun left op right hmem => h left op right (hsub hmem)

/-- The tokens of an argument are among those between the parentheses. -/
theorem Arguments.subset {items : List (List Token)} {ts : List Token} (h : Arguments items ts) :
    ∀ i ∈ items, i ⊆ ts := by
  induction items generalizing ts with
  | nil => exact fun i hi => absurd hi List.not_mem_nil
  | cons j items ih =>
    intro i hi
    rcases arguments_cons.mp h with ⟨rfl, rfl⟩ | ⟨us, hus, rfl⟩
    · rw [List.mem_singleton.mp hi]
      exact List.Subset.refl _
    · rcases List.mem_cons.mp hi with rfl | hi
      · exact List.subset_append_left _ _
      · exact List.subset_append_of_subset_right _ (List.subset_cons_of_subset _ (ih hus i hi))

/-- The limit bounds the height if left operands are no taller than the chain before them is
long. -/
theorem Derives.height_le_of_left {limit : Nat} {allowed : Token → Prop}
    {kind : BinaryOp → Expr → Prop}
    (hkind : ∀ {op k m ts left}, Derives limit (.chain op.strength k) m ts left →
      (∀ t ∈ ts, allowed t) →
      kind op left → left.height ≤ k)
    {m : Nat} {form : Form} {ts : List Token} {e : Expr} (h : Derives limit form m ts e)
    (hm : m ≤ limit) (hts : ∀ t ∈ ts, allowed t) (he : LeftOperands kind e) :
    e.height ≤ limit - m + 1 := by
  induction h with
  | number _ => exact Nat.zero_le _
  | string => exact Nat.zero_le _
  | trueWord => exact Nat.zero_le _
  | falseWord => exact Nat.zero_le _
  | entry _ => exact Nat.zero_le _
  | parens depth _ ih =>
    have hinner :=
      ih depth (fun t ht => hts t (List.mem_cons_of_mem _ (List.mem_append_left _ ht))) he
    omega
  | @call m name ts items depth _ between ih =>
    rw [Expr.height]
    by_cases hitems : items = []
    · subst hitems
      exact Nat.le_add_left 1 _
    · have hdepth := depth hitems
      have harguments : Expr.heightAll (items.map Prod.snd) ≤ limit - (m + 1) + 1 := by
        refine Expr.heightAll_le fun e hmem => ?_
        obtain ⟨item, hitem, rfl⟩ := List.mem_map.mp hmem
        have hsub : item.1 ⊆ ts := between.subset item.1 (List.mem_map_of_mem hitem)
        refine ih item hitem hdepth (fun t ht => hts t ?_) (he.mono ?_)
        · exact List.mem_cons_of_mem _ (List.mem_cons_of_mem _ (List.mem_append_left _ (hsub ht)))
        · rw [Expr.subterms]
          exact List.subset_cons_of_subset _ (subterms_subset_of_mem hmem)
      omega
  | unary op depth _ ih =>
    have hinner := ih depth (fun t ht => hts t (List.mem_cons_of_mem _ ht))
      (he.mono (by rw [Expr.subterms]; exact List.subset_cons_self _ _))
    rw [Expr.height]
    omega
  | first _ _ ih => exact ih hm hts he
  | @next k m ts us left right op depth before _ _ ihafter =>
    have hleft : left.height ≤ k :=
      hkind before (fun t ht => hts t (List.mem_append_left _ ht))
        (he left op right (mem_subterms_self _))
    have hright := ihafter depth
      (fun t ht => hts t (List.mem_append_right _ (List.mem_cons_of_mem _ ht)))
      (he.mono (by
        rw [Expr.subterms]
        exact List.subset_cons_of_subset _ (List.subset_append_right _ _)))
    rw [Expr.height]
    omega
  | operand _ ih => exact ih hm hts he

/-- What a form allows of an expression that is a chain of operators of one strength. An operand in
parentheses may be any chain; without them an operand has no looser operators in it. -/
def AllowsFlat (e : Expr) : Form → Prop
  | .operand r => ∀ q < r, e.Flat q → e.height = 0
  | .chain r k => (e.Flat r → e.height ≤ k) ∧ ∀ q < r, e.Flat q → e.height = 0

/-- A literal or a name is flat at every strength. -/
theorem allowsFlat_atom {e : Expr} (h : e.height = 0) (r : Nat) : AllowsFlat e (.operand r) :=
  fun _ _ _ => h

/-- Without parentheses a chain is as tall as it is long. -/
theorem Derives.allowsFlat {limit m : Nat} {form : Form} {ts : List Token} {e : Expr}
    (h : Derives limit form m ts e) (hts : ∀ t ∈ ts, t ≠ .leftParen) : AllowsFlat e form := by
  induction h with
  | number _ => exact allowsFlat_atom rfl _
  | string => exact allowsFlat_atom rfl _
  | trueWord => exact allowsFlat_atom rfl _
  | falseWord => exact allowsFlat_atom rfl _
  | entry _ => exact allowsFlat_atom rfl _
  | parens _ _ _ => exact absurd rfl (hts _ (List.mem_cons_self ..))
  | call _ _ _ _ => exact absurd rfl (hts _ (List.mem_cons_of_mem _ (List.mem_cons_self ..)))
  | unary op _ _ _ => exact fun _ _ hflat => hflat
  | @first r m ts e _ _ ih =>
    have hoperand := ih hts
    exact ⟨fun hflat => Nat.le_of_eq (hoperand r (Nat.lt_succ_self r) hflat),
      fun q hq hflat => hoperand q (Nat.lt_succ_of_lt hq) hflat⟩
  | next op _ _ _ ihbefore _ =>
    obtain ⟨hchain, -⟩ := ihbefore fun t ht => hts t (List.mem_append_left _ ht)
    refine ⟨fun hflat => ?_, fun q hq hflat => ?_⟩
    · obtain ⟨-, hright, hleft⟩ := hflat
      have hheight := hchain hleft
      rw [Expr.height, hright]
      omega
    · -- The operator itself is not of the looser strength.
      obtain ⟨hstrength, -, -⟩ := hflat
      omega
  | operand _ ih => exact (ih hts).2

/-! ## What is accepted -/

/-- The expressions in a statement are derived, at depth 1, by some of its tokens. -/
theorem DerivesStatement.exists_derives {limit : Nat} {ts : List Token} {s : Statement}
    (h : DerivesStatement limit ts s) :
    ∀ e ∈ s.operands, ∃ us, us ⊆ ts ∧ Derives limit (.operand 0) 1 us e := by
  intro e he
  cases h with
  | @assign ts us name e' _ value =>
    rw [List.mem_singleton.mp he]
    exact ⟨us, List.subset_append_of_subset_right _ (List.subset_cons_self _ _), value⟩
  | @compound ts us name e' op t _ _ value =>
    rw [List.mem_singleton.mp he]
    exact ⟨us, List.subset_append_of_subset_right _ (List.subset_cons_self _ _), value⟩
  | incrementAfter _ => cases he
  | decrementAfter _ => cases he
  | incrementBefore _ => cases he
  | decrementBefore _ => cases he
  | call each between =>
    obtain ⟨item, hitem, rfl⟩ := List.mem_map.mp he
    refine ⟨item.1, fun t ht => ?_, each item hitem⟩
    have hmem := between.subset item.1 (List.mem_map_of_mem hitem) ht
    exact List.mem_cons_of_mem _ (List.mem_cons_of_mem _ (List.mem_append_left _ hmem))

/-- Every expression of an action is derived from some of its tokens. -/
theorem DerivesProgram.exists_derives {limit : Nat} {ts : List Token} {ss : List Statement}
    (h : DerivesProgram limit ts ss) :
    ∀ s ∈ ss, ∀ e ∈ s.operands, ∃ us, us ⊆ ts ∧ Derives limit (.operand 0) 1 us e := by
  induction h with
  | last n only =>
    intro s hs e he
    rw [List.mem_singleton.mp hs] at he
    obtain ⟨us, hus, hderives⟩ := only.exists_derives e he
    exact ⟨us, List.subset_append_of_subset_left _ hus, hderives⟩
  | next n head _ ih =>
    intro s hs e he
    rcases List.mem_cons.mp hs with rfl | hs
    · obtain ⟨us, hus, hderives⟩ := head.exists_derives e he
      exact ⟨us, List.subset_append_of_subset_left _ hus, hderives⟩
    · obtain ⟨us, hus, hderives⟩ := ih s hs e he
      exact ⟨us, List.subset_append_of_subset_right _ (List.subset_append_of_subset_right _ hus),
        hderives⟩

end Grammar

/-- An expression stands in an accepted text: as the whole of it, or in a statement of an action. -/
def Accepts (source : String) (e : Expr) : Prop :=
  Expr.parse source = .ok e
    ∨ ∃ p, Program.parse source = .ok p ∧ ∃ s ∈ p.statements, e ∈ s.operands

/-- Every expression in an accepted text is derived from some of its tokens. -/
theorem Accepts.exists_derives {source : String} {e : Expr} (h : Accepts source e) :
    ∃ ls us, tokenize source = .ok ls ∧ us ⊆ ls.map Lexeme.token
      ∧ Grammar.Derives maxNesting (.operand 0) 1 us e := by
  rcases h with h | ⟨p, h, s, hs, he⟩
  · obtain ⟨ls, hls, hderives⟩ := Expr.parse_eq_ok_iff.mp h
    exact ⟨ls, _, hls, List.Subset.refl _, hderives⟩
  · obtain ⟨-, ls, hls, hprogram⟩ := Program.parse_eq_ok_iff.mp h
    obtain ⟨us, hus, hderives⟩ := hprogram.exists_derives s hs e he
    exact ⟨ls, us, hls, hus, hderives⟩

/-! ## Texts with known tokens -/

namespace Token

/-- The text is cut into the tokens, wherever it stands and whatever follows it. -/
def Lexes (cs : List Char) (ts : List Token) : Prop :=
  ∀ pos rest, ∃ stop ls, lexFrom pos (cs ++ rest) = (ls ++ ·) <$> lexFrom stop rest
    ∧ ls.map Lexeme.token = ts

/-- Texts that are cut by themselves are cut the same behind each other. -/
theorem Lexes.append {cs cs' : List Char} {ts ts' : List Token} (h : Lexes cs ts)
    (h' : Lexes cs' ts') : Lexes (cs ++ cs') (ts ++ ts') := by
  intro pos rest
  obtain ⟨mid, ls, hls, rfl⟩ := h pos (cs' ++ rest)
  obtain ⟨stop, ls', hls', rfl⟩ := h' mid rest
  refine ⟨stop, ls ++ ls', ?_, List.map_append⟩
  rw [List.append_assoc, hls, hls']
  cases lexFrom stop rest with
  | error _ => rfl
  | ok ms =>
    show Except.ok (ls ++ (ls' ++ ms)) = Except.ok (ls ++ ls' ++ ms)
    rw [List.append_assoc]

/-- One token with a blank after it. -/
theorem lexes_token (c : Char) (cs : List Char) {t : Token} (hgap : isGap c = false)
    (hfirst : ∀ rest, first? (c :: (cs ++ ' ' :: rest)) = some (t, cs.length + 1)) :
    Lexes (c :: cs ++ [' ']) [t] := by
  intro pos rest
  have hblank (p : Nat) : lexFrom p (' ' :: rest) = lexFrom (p + ' '.utf8Size) rest := by
    rw [lexFrom, if_pos (by decide)]
  have hdrop : (cs ++ ' ' :: rest).drop (cs.length + 1 - 1) = ' ' :: rest := by simp
  rw [List.append_assoc, List.singleton_append, List.cons_append, lexFrom, if_neg (by simp [hgap]),
    hfirst]
  dsimp only
  rw [hdrop, hblank]
  exact ⟨_, [_], rfl, rfl⟩

/-- An operator with a blank behind it is cut into its token. -/
theorem lexes_symbol (op : BinaryOp) : Lexes (op.symbol.toList ++ [' ']) [op.token] := by
  cases op <;> exact lexes_token _ _ rfl fun _ => rfl

theorem lexes_a : Lexes ['a', ' '] [.ident "a"] := lexes_token 'a' [] rfl fun _ => rfl

theorem lexes_leftParen : Lexes ['f', ' ', '(', ' '] [.ident "f", .leftParen] :=
  (lexes_token 'f' [] rfl fun _ => rfl).append (lexes_token '(' [] rfl fun _ => rfl)

theorem lexes_rightParen : Lexes [')', ' '] [.rightParen] := lexes_token ')' [] rfl fun _ => rfl

/-- A text that is cut into tokens tokenizes. -/
theorem Lexes.tokenize_eq_ok {cs : List Char} {ts : List Token} (h : Lexes cs ts) :
    ∃ ls, tokenize (String.ofList cs) = .ok ls ∧ ls.map Lexeme.token = ts := by
  obtain ⟨stop, ls, hls, hts⟩ := h 0 []
  rw [List.append_nil, lexFrom] at hls
  refine ⟨ls ++ [], ?_, by rw [List.append_nil]; exact hts⟩
  rw [tokenize, String.toList_ofList, hls]
  rfl

end Token

namespace Grammar

/-! ## The tallest expression -/

/-- A text with its tokens and the tree that they derive. -/
structure Phrase where
  text : List Char
  tokens : List Token
  tree : Expr

namespace Phrase

/-- The text has the tokens, and they derive the tree as an operand of strength `r` at depth `m`. -/
structure Spells (limit r m : Nat) (p : Phrase) : Prop where
  lexes : Token.Lexes p.text p.tokens
  derives : Derives limit (.operand r) m p.tokens p.tree

/-- The phrase with a number of operators of one kind after it, each with the operand `a`. -/
def joined (p : Phrase) (op : BinaryOp) : Nat → Phrase
  | 0 => p
  | k + 1 =>
    ⟨(p.joined op k).text ++ (op.symbol.toList ++ [' '] ++ ['a', ' ']),
      (p.joined op k).tokens ++ op.token :: [.ident "a"],
      .binary (p.joined op k).tree op (.variable "a")⟩

/-- A call of `f` with the phrase as its argument, or with none. -/
def called : Option Phrase → Phrase
  | none =>
    ⟨['f', ' ', '(', ' '] ++ [')', ' '], [.ident "f", .leftParen] ++ [.rightParen], .call "f" []⟩
  | some p =>
    ⟨['f', ' ', '(', ' '] ++ (p.text ++ [')', ' ']),
      [.ident "f", .leftParen] ++ (p.tokens ++ [.rightParen]), .call "f" [p.tree]⟩

/-- The phrase with as many operators of every strength after it as there are levels, the tightest
first. -/
def tower (d : Nat) (p : Phrase) : Phrase :=
  (((((p.joined .multiply d).joined .add d).joined .lessThan d).joined .equals d).joined .and
    d).joined
    .or d

/-- The tallest operand that no binary operator joins, with `d` levels left. -/
def tall : Nat → Phrase
  | 0 => called none
  | d + 1 => called (some (tower d (tall d)))

/-- Every operator adds one to the height. -/
theorem height_joined (p : Phrase) (op : BinaryOp) (k : Nat) :
    (p.joined op k).tree.height = p.tree.height + k := by
  induction k with
  | zero => rfl
  | succ k ih =>
    have hleaf : (Expr.variable "a").height = 0 := rfl
    rw [joined, Expr.height, ih, hleaf]
    omega

/-- A tower adds as many operators as there are levels for every strength. -/
theorem height_tower (d : Nat) (p : Phrase) :
    (tower d p).tree.height = p.tree.height + unaryStrength * d := by
  have hsix : unaryStrength = 6 := rfl
  simp only [tower, height_joined, hsix]
  omega

/-- The tallest operand has the greatest height there can be. -/
theorem height_tall (d : Nat) : (tall d).tree.height = tallestUnary d := by
  induction d with
  | zero => rfl
  | succ d ih =>
    rw [tall, called, Expr.height, Expr.heightAll, Expr.heightAll, height_tower, ih, tallestUnary]
    omega

variable {limit m : Nat} {p : Phrase}

theorem derives_a {r : Nat} (hr : r ≤ unaryStrength) :
    Derives limit (.operand r) m [.ident "a"] (.variable "a") := by
  have hloose := derives_loosen (.entry (.inl rfl) : Derives limit _ m _ (.variable "a"))
    (unaryStrength - r)
  rwa [Nat.sub_sub_self hr] at hloose

/-- A chain may have as many operators as there are levels left. -/
theorem Spells.joined (op : BinaryOp) {k : Nat} (h : p.Spells limit (op.strength + 1) m)
    (hk : m + k ≤ limit) : (p.joined op k).Spells limit op.strength m := by
  suffices hchain : Token.Lexes (p.joined op k).text (p.joined op k).tokens
      ∧ Derives limit (.chain op.strength k) m (p.joined op k).tokens (p.joined op k).tree from
    ⟨hchain.1, .operand hchain.2⟩
  induction k with
  | zero => exact ⟨h.lexes, .first (strength_lt op) h.derives⟩
  | succ k ih =>
    obtain ⟨hlexes, hderives⟩ := ih (by omega)
    exact ⟨hlexes.append ((Token.lexes_symbol op).append Token.lexes_a),
      .next op hk hderives (derives_a (strength_lt op))⟩

/-- The operators of all strengths can be put on top of each other. -/
theorem Spells.tower (h : p.Spells limit unaryStrength m) {d : Nat} (hd : m + d ≤ limit) :
    (tower d p).Spells limit 0 m := by
  have hproducts := Spells.joined .multiply h hd
  have hsums := Spells.joined .add hproducts hd
  have hcomparisons := Spells.joined .lessThan hsums hd
  have hequalities := Spells.joined .equals hcomparisons hd
  have hconjunctions := Spells.joined .and hequalities hd
  exact Spells.joined .or hconjunctions hd

theorem spells_called_none : (called none).Spells limit unaryStrength m where
  lexes := Token.lexes_leftParen.append Token.lexes_rightParen
  derives :=
    @Derives.call limit m "f" [] [] (fun h => absurd rfl h) (by simp) (arguments_nil.mpr rfl)

/-- An argument is spelled one level deeper. -/
theorem Spells.called (h : p.Spells limit 0 (m + 1)) (hm : m + 1 ≤ limit) :
    (called (some p)).Spells limit unaryStrength m where
  lexes := Token.lexes_leftParen.append (h.lexes.append Token.lexes_rightParen)
  derives := @Derives.call limit m "f" p.tokens [(p.tokens, p.tree)] (fun _ => hm)
    (by simpa using h.derives)
    (arguments_cons.mpr (.inl ⟨rfl, rfl⟩))

/-- The tallest operand is spelled within the limit. -/
theorem spells_tall {d : Nat} (hd : m + d ≤ limit) : (tall d).Spells limit unaryStrength m := by
  induction d generalizing m with
  | zero => exact spells_called_none
  | succ d ih =>
    have hinner : m + 1 + d ≤ limit := by omega
    exact ((ih hinner).tower hinner).called (by omega)

end Phrase

/-- The tallest expression is accepted. -/
theorem exists_parse_height_eq :
    ∃ source e, Expr.parse source = .ok e ∧ e.height = tallest 0 (maxNesting - 1) := by
  have hspells :
      (Phrase.tower (maxNesting - 1) (Phrase.tall (maxNesting - 1))).Spells maxNesting 0 1 :=
    (Phrase.spells_tall (by decide)).tower (by decide)
  obtain ⟨ls, hls, htokens⟩ := hspells.lexes.tokenize_eq_ok
  refine ⟨_, _, Expr.parse_eq_ok_iff.mpr ⟨ls, hls, htokens ▸ hspells.derives⟩, ?_⟩
  rw [Phrase.height_tower, Phrase.height_tall]
  rfl

end Grammar

/-- **What the nesting limit bounds.** Every expression in an accepted text has a height of at
most 12160, and one has just that. The limit itself is the bound where no left operand has to be
pushed down after it was read: where left operands are literals and names, or, in a text without
parentheses, where they are chains of these by the same operators. -/
theorem accepted_height_le_sharp (source : String) :
    (∀ e, Accepts source e → e.height ≤ 12160
      ∧ ((∀ left op right, .binary left op right ∈ e.subterms → left.height = 0) →
        e.height ≤ maxNesting)
      ∧ ((∀ ls, tokenize source = .ok ls → ∀ l ∈ ls, l.token ≠ .leftParen) →
        (∀ left op right, .binary left op right ∈ e.subterms → left.Flat op.strength) →
        e.height ≤ maxNesting))
      ∧ ∃ source' e, Accepts source' e ∧ e.height = 12160 := by
  have hlimit : 1 ≤ maxNesting := by decide
  have hbound : Grammar.tallest 0 (maxNesting - 1) = 12160 := by decide
  refine ⟨fun e h => ?_, ?_⟩
  · obtain ⟨ls, us, hls, hus, hderives⟩ := h.exists_derives
    refine ⟨hbound ▸ hderives.allows hlimit, fun hleft => ?_, fun hparens hleft => ?_⟩
    · have hkind {op : BinaryOp} {k m : Nat} {ts : List Token} {left : Expr}
          (_ : Grammar.Derives maxNesting (.chain op.strength k) m ts left) (_ : ∀ t ∈ ts, True)
          (hatom : left.height = 0) : left.height ≤ k := by
        omega
      exact hderives.height_le_of_left hkind hlimit (fun _ _ => trivial) hleft
    · refine hderives.height_le_of_left
        (fun hchain hts hflat => (hchain.allowsFlat hts).1 hflat) hlimit
        (fun t ht => ?_) hleft
      obtain ⟨l, hl, rfl⟩ := List.mem_map.mp (hus ht)
      exact hparens ls hls l hl
  · obtain ⟨source', e, hparse, hheight⟩ := Grammar.exists_parse_height_eq
    exact ⟨source', e, .inl hparse, hheight.trans hbound⟩

/-- A product of 64 factors in a sum of three. -/
def productInSum : String :=
  "a*a*a*a*a*a*a*a*a*a*a*a*a*a*a*a*a*a*a*a*a*a*a*a*a*a*a*a*a*a*a*a*"
    ++ "a*a*a*a*a*a*a*a*a*a*a*a*a*a*a*a*a*a*a*a*a*a*a*a*a*a*a*a*a*a*a*a+a+a"

/-- Each of two chains stays within the limit by itself, and the tree is taller than the limit. -/
theorem exists_accepted_taller_than_maxNesting :
    ∃ e, Expr.parse productInSum = .ok e ∧ maxNesting < e.height := by
  have hheight : (Expr.parse productInSum).toOption.map Expr.height = some 65 := by decide +kernel
  cases hparse : Expr.parse productInSum with
  | error _ =>
    rw [hparse] at hheight
    cases hheight
  | ok e =>
    rw [hparse] at hheight
    have he : e.height = 65 := Option.some.inj hheight
    exact ⟨e, rfl, by rw [he]; decide⟩

end PageLang
