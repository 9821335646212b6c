import PageLang.Proofs.Expr.Language
import PageLang.Proofs.Session.Rollback
import PageLang.Proofs.Token.Lexing

/-!
# Actions one after the other

Two actions with a semicolon between them are one action. No token reaches across the semicolon,
so the tokens of the whole are those of the parts (`exists_tokenize_append`); statements are
derived apart from each other, so these come one after the other
(`Grammar.DerivesProgram.append`); and carrying them out goes on with the second where the first
has stopped (`Program.execute_append`). As one action the two stand and fall together, though:

> `Program.parse_sequence`: the action runs to the state that the second part leads to after the
> first, or fails with the first error of the two, and then the state is the one before both.
-/

namespace PageLang

open Text (byteLength)

/-! ## Texts -/

/-- The tokens of two texts with a semicolon between them. -/
theorem exists_tokenize_append {a b : String} {ls ms : List Lexeme} (ha : tokenize a = .ok ls)
    (hb : tokenize b = .ok ms) : ∃ ns, tokenize (a ++ ";" ++ b) = .ok ns
      ∧ ns.map Lexeme.token = ls.map Lexeme.token ++ .semicolon :: ms.map Lexeme.token := by
  have hsource : (a ++ ";" ++ b).toList = a.toList ++ ([';'] ++ b.toList) := by
    rw [String.toList_append, String.toList_append, List.append_assoc]
    rfl
  obtain ⟨ns, hns, htokens⟩ :=
    (tokenize_eq_ok_iff_cuts.mp hb).exists_from (0 + byteLength a.toList + byteLength [';'])
  have hcuts := (tokenize_eq_ok_iff_cuts.mp ha).append (by rintro c ⟨⟩; decide) (.token rfl hns)
  refine ⟨_, tokenize_eq_ok_iff_cuts.mpr (hsource ▸ hcuts), ?_⟩
  rw [List.map_append, List.map_cons, htokens]

/-- Statements are derived apart from those before them. -/
theorem Grammar.DerivesProgram.append {limit : Nat} {ts us : List Token} {ss rs : List Statement}
    (h : DerivesProgram limit ts ss) (h' : DerivesProgram limit us rs) :
    DerivesProgram limit (ts ++ .semicolon :: us) (ss ++ rs) := by
  induction h with
  | @last ts s n only =>
    -- The semicolons after the last statement and the one between the actions are one run.
    have hrun : List.replicate n Token.semicolon ++ .semicolon :: us = List.replicate
        (n + 1) .semicolon ++ us := by
      rw [List.replicate_succ', List.append_assoc]
      rfl
    rw [List.append_assoc, hrun]
    exact .next n only h'
  | next n head _ ih =>
    rw [List.append_assoc, List.append_assoc, List.cons_append]
    exact .next n head ih

/-! ## States -/

theorem Program.execute_append (start s : State) {p q r : Program}
    (h : r.statements = p.statements ++ q.statements) :
    r.execute start s = p.execute start s >>= q.execute start := by
  rw [execute_eq_foldlM, execute_eq_foldlM, h, List.foldlM_append]
  exact congrArg (List.foldlM _ _ _ >>= ·) (funext fun t => (q.execute_eq_foldlM start t).symm)

/-- **Two actions with a semicolon between them are one action.** Its statements are those of the
first and then those of the second. Carried out on a state it leads where the second leads after
the first, and fails with the error of the first, or with that of the second after the first; in
both cases the state is left as it was before the first. -/
theorem Program.parse_sequence (a b : String) (p q : Program) (ha : Program.parse a = .ok p)
    (hb : Program.parse b = .ok q) :
    ∃ r, Program.parse (a ++ ";" ++ b) = .ok r ∧ r.statements = p.statements ++ q.statements
      ∧ ∀ start s : State,
        (∀ u, r.execute start s = .ok u ↔ ∃ t, p.execute start s = .ok t
          ∧ q.execute start t = .ok u)
        ∧ (∀ e, r.execute start s = .error e ↔
          p.execute start s = .error e ∨ ∃ t, p.execute start s = .ok t
            ∧ q.execute start t = .error e)
        ∧ (∀ u, r.execute start s = .ok u → r.commit start s = (u, none))
        ∧ ∀ e, r.execute start s = .error e → r.commit start s = (s, some e) := by
  obtain ⟨-, ls, hls, hp⟩ := Program.parse_eq_ok_iff.mp ha
  obtain ⟨-, ms, hms, hq⟩ := Program.parse_eq_ok_iff.mp hb
  obtain ⟨ns, hns, htokens⟩ := exists_tokenize_append hls hms
  let r : Program := ⟨Text.trimmed (a ++ ";" ++ b), p.statements ++ q.statements⟩
  refine ⟨r, Program.parse_eq_ok_iff.mpr ⟨rfl, ns, hns, htokens ▸ hp.append hq⟩, rfl,
    fun start s => ?_⟩
  have hexecute : r.execute start s = p.execute start s >>= q.execute start :=
    Program.execute_append start s rfl
  rw [Program.commit_eq, hexecute]
  cases hfirst : p.execute start s with
  | error e => simp [bind, Except.bind]
  | ok t => cases hsecond : q.execute start t <;> simp [bind, Except.bind, hsecond]

/-- An action that ends in a semicolon and changes an entry, and after it one that fails. -/
theorem Program.parse_sequence_undone :
    ∃ r, Program.parse ("x=true;" ++ ";" ++ "y++") = .ok r
      ∧ r.statements = [.assign "x" (.boolean true), .increment "y"]
      ∧ r.commit ∅ ((∅ : State).insert "x" (.boolean false))
        = ((∅ : State).insert "x" (.boolean false), some (.unknownState "y")) := by
  have hfirst : Program.parse "x=true;" = .ok ⟨"x=true;", [.assign "x" (.boolean true)]⟩ := by
    have hcuts : Token.Cuts 0 (['x'] ++ (['='] ++ (['t', 'r', 'u', 'e'] ++ ([';'] ++ [])))) _ :=
      .token rfl (.token rfl (.token rfl (.token rfl .done)))
    refine Program.parse_eq_ok_iff.mpr ⟨by decide, _, tokenize_eq_ok_iff_cuts.mpr hcuts, ?_⟩
    exact .last 1 (.assign (.inl rfl) (Grammar.derives_loosen .trueWord Grammar.unaryStrength))
  have hsecond : Program.parse "y++" = .ok ⟨"y++", [.increment "y"]⟩ := by
    have hcuts : Token.Cuts 0 (['y'] ++ (['+', '+'] ++ [])) _ := .token rfl (.token rfl .done)
    refine Program.parse_eq_ok_iff.mpr ⟨by decide, _, tokenize_eq_ok_iff_cuts.mpr hcuts, ?_⟩
    exact .last 0 (.incrementAfter (.inl rfl))
  obtain ⟨r, hr, hstatements, hruns⟩ := Program.parse_sequence "x=true;" "y++" _ _ hfirst hsecond
  obtain ⟨-, herror, -, hundone⟩ := hruns ∅ ((∅ : State).insert "x" (.boolean false))
  refine ⟨r, hr, hstatements,
    hundone _ ((herror _).mpr (.inr ⟨(∅ : State).insert "x" (.boolean true), ?_, ?_⟩))⟩
  · rfl
  · rfl

end PageLang
