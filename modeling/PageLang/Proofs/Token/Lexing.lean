import Mathlib.Data.String.Basic
import PageLang.ParseError
import PageLang.Proofs.Token.Pattern

/-!
# Texts cut into tokens

`Token.Cuts` says of a text what its tokens are: gaps are passed over, and at any other place
stands the longest token there. Tokenising finds these cuts and nothing else
(`Token.lexFrom_eq_ok_iff`), and where there are none it names the first place that is neither a
gap nor the start of a token (`Token.exists_of_lexFrom_eq_error`).

Tokens are found one by one, and a gap or a semicolon ends whatever is outside quotes; so texts
can be put together at such a character (`Token.Cuts.append`). From this come the two directions
of

> `tokenize_lossless`: the tokens are all there is in a source but for gaps, each is the longest
> at its place, and written with blanks between them they are read again as they are.
-/

namespace PageLang

open Text (isNameChar isQuote byteLength byteLength_cons byteLength_append)

namespace Token

variable {c : Char} {cs rest slice : List Char} {t : Token} {n : Nat}

/-! ## What ends a token -/

/-- A gap or a semicolon. None of these can go on with a token, except inside quotes. -/
def isBreak (c : Char) : Bool := isGap c || c = ';'

theorem isBreak_eq_false_of_isNameChar (h : isNameChar c = true) : isBreak c = false := by
  rw [← Bool.not_eq_true]
  intro hbreak
  simp only [isBreak, isGap, Bool.or_eq_true, decide_eq_true_eq] at hbreak
  rcases hbreak with (((rfl | rfl) | rfl) | rfl) | rfl <;> cases h

theorem isNameChar_of_isDigit (h : c.isDigit = true) : isNameChar c = true := by
  simp [isNameChar, Char.isAlphanum, h]

/-- Only strings have breaks in them. -/
theorem isBreak_of_mem_tail (h : slice ∈ t.pattern) (hstring : ∀ body, t ≠ .string body) :
    ∀ c ∈ slice.tail, isBreak c = false := by
  have hdigits {ds : List Char} (hds : ds ∈ Pattern.digits) : ∀ c ∈ ds, isBreak c = false :=
    fun c hc =>
    isBreak_eq_false_of_isNameChar (isNameChar_of_isDigit ((Pattern.mem_digits.mp hds).2 c hc))
  cases t with
  | ident _ =>
    obtain ⟨c, cs, rfl, -, hcs⟩ := Pattern.mem_name.mp h
    exact fun d hd => isBreak_eq_false_of_isNameChar (hcs d hd)
  | number _ =>
    intro c hc
    have hmem := List.mem_of_mem_tail hc
    rcases Pattern.mem_numeral.mp h with h | ⟨ds, fs, rfl, hds, hfs⟩
    · exact hdigits h c hmem
    · rcases List.mem_append.mp hmem with hc | hc
      · exact hdigits hds c hc
      · rcases List.mem_cons.mp hc with rfl | hc
        · decide
        · exact hdigits hfs c hc
  | string body => exact absurd rfl (hstring body)
  | _ =>
    obtain rfl := Set.mem_singleton_iff.mp h
    intro c hc
    exact Bool.not_eq_eq_eq_not.mp
      (List.all_eq_true (p := fun c => !isBreak c) |>.mp (by decide) c hc)

/-- A token starts with a character that is no gap. -/
theorem exists_cons_of_mem_pattern (h : slice ∈ t.pattern) :
    ∃ c cs, slice = c :: cs ∧ isGap c = false := by
  cases t with
  | ident _ =>
    obtain ⟨c, cs, rfl, hc, -⟩ := Pattern.mem_name.mp h
    have hbreak := isBreak_eq_false_of_isNameChar (isNameChar_of_isNameStart hc)
    exact ⟨c, cs, rfl, (Bool.or_eq_false_iff.mp hbreak).1⟩
  | number _ =>
    obtain ⟨c, cs, rfl, hc⟩ := Pattern.exists_digit_of_mem_numeral h
    have hbreak := isBreak_eq_false_of_isNameChar (isNameChar_of_isDigit hc)
    exact ⟨c, cs, rfl, (Bool.or_eq_false_iff.mp hbreak).1⟩
  | string _ =>
    rcases h with h | h
    · obtain ⟨body, -, rfl⟩ := Pattern.mem_quoted.mp h
      exact ⟨_, _, rfl, by decide⟩
    · obtain ⟨body, -, rfl⟩ := Pattern.mem_quoted.mp h
      exact ⟨_, _, rfl, by decide⟩
  | _ =>
    obtain rfl := Set.mem_singleton_iff.mp h
    exact ⟨_, _, rfl, by decide⟩

/-- A string that is found is found whatever follows. -/
theorem first?_quote_append {q : Char} (hq : isQuote q = true) {found : Token × Nat}
    (h : first? (q :: cs) = some found) (more : List Char) :
    first? (q :: (cs ++ more)) = some found := by
  rw [first?_quote hq] at h ⊢
  obtain ⟨body, hbody, rfl⟩ := Option.map_eq_some_iff.mp h
  obtain ⟨hpieces, rest, rfl⟩ := of_stringBody? hbody
  rw [List.append_assoc, List.cons_append, stringBody?_of_mem hq hpieces, Option.map_some]

/-- **What is found does not depend on what follows from a break on.** -/
theorem first?_append_of_isBreak {more : List Char} (hbreak : ∀ c ∈ more.head?, isBreak c = true)
    (h : first? (slice ++ rest) = some (t, slice.length)) :
    first? (slice ++ (rest ++ more)) = some (t, slice.length) := by
  obtain ⟨hdenotes, hnone⟩ := first?_append_eq_some_iff.mp h
  obtain ⟨c, cs, rfl, -⟩ := exists_cons_of_mem_pattern hdenotes.fits
  by_cases hquote : isQuote c = true
  · rw [List.cons_append, ← List.append_assoc]
    exact first?_quote_append hquote h more
  · refine first?_append_eq_some_iff.mpr ⟨hdenotes, fun longer hpre hlength t' ht' => ?_⟩
    rw [← List.append_assoc] at hpre
    by_cases hinside : longer.length ≤ (c :: cs ++ rest).length
    · exact hnone longer (List.prefix_of_prefix_length_le hpre (List.prefix_append _ _) hinside)
        hlength t' ht'
    · -- A longer prefix would have the break in it, and it starts with no quote.
      obtain ⟨tail, rfl⟩ :=
        List.prefix_of_prefix_length_le (List.prefix_append _ more) hpre (by omega)
      obtain ⟨d, tail, rfl⟩ :=
        List.exists_cons_of_ne_nil (l := tail) (by rintro rfl; simp at hinside)
      have hd : isBreak d = true := by
        obtain ⟨end', rfl⟩ := (List.prefix_append_right_inj _).mp hpre
        exact hbreak d rfl
      have hstring : ∀ body, t' ≠ .string body := by
        rintro body rfl
        obtain ⟨q, hq, hquoted⟩ := mem_pattern_string.mp ht'
        obtain ⟨body', -, heq⟩ := Pattern.mem_quoted.mp hquoted
        exact hquote ((List.cons.inj heq).1 ▸ hq)
      have hnot := isBreak_of_mem_tail ht' hstring d (by simp)
      rw [hd] at hnot
      cases hnot

/-! ## Token by token -/

/-- What holds of the end of a text, and goes back over gaps, tokens and stray characters, holds
of every text. -/
@[elab_as_elim]
theorem cut_induction {motive : Nat → List Char → Prop} (done : ∀ pos, motive pos [])
    (gap : ∀ pos c rest, isGap c = true → motive (pos + c.utf8Size) rest → motive pos (c :: rest))
    (stray : ∀ pos c rest, isGap c = false → first? (c :: rest) = none → motive pos (c :: rest))
    (token : ∀ pos slice rest t, first? (slice ++ rest) = some (t, slice.length) →
      motive (pos + byteLength slice) rest → motive pos (slice ++ rest)) (pos : Nat)
    (cs : List Char) : motive pos cs := by
  fun_induction lexFrom pos cs with
  | case1 pos => exact done pos
  | case2 pos c rest hgap ih => exact gap pos c rest hgap ih
  | case3 pos c rest hgap hnone => exact stray pos c rest (by simpa using hgap) hnone
  | case4 pos c rest hgap t n hfirst stop =>
    rename_i ih
    obtain ⟨hle, hdenotes⟩ := denotes_of_first? hfirst
    have hlength : ((c :: rest).take n).length = n := by rw [List.length_take, Nat.min_eq_left hle]
    have hdrop : rest.drop (n - 1) = (c :: rest).drop n := by
      cases n with
      | zero =>
        obtain ⟨d, ds, hnil, -⟩ := exists_cons_of_mem_pattern hdenotes.fits
        cases hnil
      | succ n => rfl
    have hsplit := List.take_append_drop n (c :: rest)
    rw [hdrop] at ih
    have hall :=
      token pos ((c :: rest).take n) ((c :: rest).drop n) t (by rw [hsplit, hlength, hfirst]) ih
    rwa [hsplit] at hall

variable {pos : Nat} {ls : List Lexeme}

/-- A gap is skipped. -/
theorem lexFrom_cons_of_isGap (h : isGap c = true) :
    lexFrom pos (c :: rest) = lexFrom (pos + c.utf8Size) rest := by
  rw [lexFrom, if_pos h]

/-- A character that begins no token ends the lexing at its position. -/
theorem lexFrom_cons_of_stray (hgap : isGap c = false) (hnone : first? (c :: rest) = none) :
    lexFrom pos (c :: rest) = .error pos := by
  rw [lexFrom, if_neg (by simp [hgap]), hnone]

/-- The first token is taken, and the rest is lexed behind it. -/
theorem lexFrom_append_of_first? (h : first? (slice ++ rest) = some (t, slice.length)) :
    lexFrom pos (slice ++ rest)
      = (⟨t, pos, pos + byteLength slice⟩ :: ·) <$> lexFrom (pos + byteLength slice) rest := by
  obtain ⟨c, cs, rfl, hc⟩ := exists_cons_of_mem_pattern (first?_append_eq_some_iff.mp h).1.fits
  have hslice : (c :: (cs ++ rest)).take (c :: cs).length = c :: cs := List.take_left
  have hrest : (cs ++ rest).drop ((c :: cs).length - 1) = rest := List.drop_left
  rw [List.cons_append] at h ⊢
  rw [lexFrom, if_neg (by simp [hc]), h]
  dsimp only
  rw [hslice, hrest]

/-! ## Cuts -/

/-- The lexemes of a text that starts at byte `pos`. -/
inductive Cuts : Nat → List Char → List Lexeme → Prop
  | done {pos : Nat} : Cuts pos [] []
  | gap {pos : Nat} {c : Char} {rest : List Char} {ls : List Lexeme} (blank : isGap c = true)
    (next : Cuts (pos + c.utf8Size) rest ls) : Cuts pos (c :: rest) ls
  | token {pos : Nat} {slice rest : List Char} {t : Token} {ls : List Lexeme}
    (first : first? (slice ++ rest) = some (t, slice.length))
      (next : Cuts (pos + byteLength slice) rest ls) :
    Cuts pos (slice ++ rest) (⟨t, pos, pos + byteLength slice⟩ :: ls)

/-- A text that can be cut into tokens is lexed to them. -/
theorem lexFrom_of_cuts (h : Cuts pos cs ls) : lexFrom pos cs = .ok ls := by
  induction h with
  | done => rw [lexFrom]
  | gap blank _ ih => rw [lexFrom_cons_of_isGap blank, ih]
  | token first _ ih =>
    rw [lexFrom_append_of_first? first, ih]
    rfl

/-- What a text is lexed to is a way to cut it. -/
theorem cuts_of_lexFrom (h : lexFrom pos cs = .ok ls) : Cuts pos cs ls := by
  induction pos, cs using cut_induction generalizing ls with
  | done pos =>
    rw [lexFrom] at h
    cases h
    exact .done
  | gap pos c rest hgap ih =>
    rw [lexFrom_cons_of_isGap hgap] at h
    exact .gap hgap (ih h)
  | stray pos c rest hgap hnone =>
    rw [lexFrom_cons_of_stray hgap hnone] at h
    cases h
  | token pos slice rest t hfirst ih =>
    rw [lexFrom_append_of_first? hfirst] at h
    cases hls : lexFrom (pos + byteLength slice) rest with
    | error e =>
      rw [hls] at h
      cases h
    | ok ls' =>
      rw [hls] at h
      cases h
      exact .token hfirst (ih hls)

/-- **Tokenising finds the cuts of a text.** -/
theorem lexFrom_eq_ok_iff : lexFrom pos cs = .ok ls ↔ Cuts pos cs ls :=
  ⟨cuts_of_lexFrom, lexFrom_of_cuts⟩

/-- Where a text has no cuts, they go as far as a character that is no gap and at which no token
starts. -/
theorem exists_of_lexFrom_eq_error {stray : Nat} (h : lexFrom pos cs = .error stray) :
    ∃ before c after ls, cs = before ++ c :: after ∧ stray = pos + byteLength before
      ∧ Cuts pos before ls
      ∧ isGap c = false ∧ first? (c :: after) = none := by
  induction pos, cs using cut_induction with
  | done pos =>
    rw [lexFrom] at h
    cases h
  | gap pos c rest hgap ih =>
    rw [lexFrom_cons_of_isGap hgap] at h
    obtain ⟨before, d, after, ls, rfl, rfl, hcuts, hd⟩ := ih h
    refine ⟨c :: before, d, after, ls, rfl, ?_, .gap hgap hcuts, hd⟩
    rw [byteLength_cons, Nat.add_assoc]
  | stray pos c rest hgap hnone =>
    rw [lexFrom_cons_of_stray hgap hnone] at h
    cases h
    exact ⟨[], c, rest, [], rfl, rfl, .done, hgap, hnone⟩
  | token pos slice rest t hfirst ih =>
    rw [lexFrom_append_of_first? hfirst] at h
    cases hls : lexFrom (pos + byteLength slice) rest with
    | ok ls' =>
      rw [hls] at h
      cases h
    | error e =>
      rw [hls] at h
      cases h
      obtain ⟨before, d, after, ls, rfl, rfl, hcuts, hd⟩ := ih hls
      refine ⟨slice ++ before, d, after, _, (List.append_assoc ..).symm, ?_,
        .token (first?_of_append hfirst) hcuts, hd⟩
      rw [byteLength_append, Nat.add_assoc]

namespace Cuts

variable {xs ys : List Char} {ms : List Lexeme}

/-- A text that goes on with a break keeps its cuts. -/
theorem append (hx : Cuts pos xs ls) (hbreak : ∀ c ∈ ys.head?, isBreak c = true)
    (hy : Cuts (pos + byteLength xs) ys ms) : Cuts pos (xs ++ ys) (ls ++ ms) := by
  induction hx with
  | done => exact hy
  | gap blank _ ih =>
    rw [byteLength_cons, ← Nat.add_assoc] at hy
    exact .gap blank (ih hy)
  | token first _ ih =>
    rw [byteLength_append, ← Nat.add_assoc] at hy
    rw [List.append_assoc]
    exact .token (first?_append_of_isBreak hbreak first) (ih hy)

/-- The tokens do not depend on where a text starts. -/
theorem exists_from (h : Cuts pos cs ls) (start : Nat) :
    ∃ ms, Cuts start cs ms ∧ ms.map Lexeme.token = ls.map Lexeme.token := by
  induction h generalizing start with
  | done => exact ⟨[], .done, rfl⟩
  | gap blank _ ih =>
    obtain ⟨ms, hms, htokens⟩ := ih _
    exact ⟨ms, .gap blank hms, htokens⟩
  | token first _ ih =>
    obtain ⟨ms, hms, htokens⟩ := ih _
    exact ⟨_, .token first hms, congrArg (List.cons _) htokens⟩

/-- A lexeme is cut out of the text at its place. -/
theorem exists_slice (h : Cuts pos cs ls) {l : Lexeme} (hl : l ∈ ls) :
    ∃ before slice after, cs = before ++ (slice ++ after) ∧ l.start = pos + byteLength before
      ∧ l.stop = l.start + byteLength slice
      ∧ first? (slice ++ after) = some (l.token, slice.length) := by
  induction h with
  | done => cases hl
  | @gap pos c rest ls blank _ ih =>
    obtain ⟨before, slice, after, rfl, hstart, hrest⟩ := ih hl
    refine ⟨c :: before, slice, after, rfl, ?_, hrest⟩
    rw [hstart, byteLength_cons, Nat.add_assoc]
  | @token pos slice rest t ls first _ ih =>
    rcases List.mem_cons.mp hl with rfl | hl
    · exact ⟨[], slice, rest, rfl, rfl, rfl, first⟩
    · obtain ⟨before, slice', after, rfl, hstart, hrest⟩ := ih hl
      refine ⟨slice ++ before, slice', after, (List.append_assoc ..).symm, ?_, hrest⟩
      rw [hstart, byteLength_append, Nat.add_assoc]

/-- Every lexeme of a cut stands for a slice of the text. -/
theorem exists_denotes (h : Cuts pos cs ls) {l : Lexeme} (hl : l ∈ ls) :
    ∃ slice, Denotes slice l.token := by
  obtain ⟨before, slice, after, -, -, -, hfirst⟩ := h.exists_slice hl
  exact ⟨slice, (first?_append_eq_some_iff.mp hfirst).1⟩

/-- A lexeme ends before the next one starts. -/
theorem pairwise (h : Cuts pos cs ls) : ls.Pairwise fun l r => l.stop ≤ r.start := by
  induction h with
  | done => exact .nil
  | gap _ _ ih => exact ih
  | token _ next ih =>
    refine .cons (fun r hr => ?_) ih
    obtain ⟨before, -, -, -, hstart, -⟩ := next.exists_slice hr
    rw [hstart]
    exact Nat.le_add_right _ _

/-- What no lexeme covers is a gap. -/
theorem isGap_of_uncovered (h : Cuts pos cs ls) {before after : List Char}
    (hcs : cs = before ++ c :: after)
    (huncovered :
      ∀ l ∈ ls, ¬ (l.start ≤ pos + byteLength before ∧ pos + byteLength before < l.stop)) :
    isGap c = true := by
  induction h generalizing before with
  | done => simp at hcs
  | @gap pos d rest ls blank _ ih =>
    cases before with
    | nil =>
      obtain ⟨rfl, -⟩ := List.cons.inj hcs
      exact blank
    | cons b before =>
      obtain ⟨rfl, rfl⟩ := List.cons.inj hcs
      rw [byteLength_cons, ← Nat.add_assoc] at huncovered
      exact ih rfl huncovered
  | @token pos slice rest t ls _ _ ih =>
    rw [List.forall_mem_cons] at huncovered
    rcases List.append_eq_append_iff.mp hcs with ⟨before', rfl, hrest⟩ | ⟨tail, hslice, htail⟩
    · rw [byteLength_append, ← Nat.add_assoc] at huncovered
      exact ih hrest huncovered.2
    · -- The character lies in the token, so the token covers it.
      have hbefore : byteLength slice = byteLength before + byteLength tail := by
        rw [hslice, byteLength_append]
      cases tail with
      | nil =>
        rw [hslice, List.append_nil] at ih
        exact ih (show rest = [] ++ c :: after from htail.symm) huncovered.2
      | cons d tail =>
        obtain ⟨rfl, -⟩ := List.cons.inj htail
        have hpos : 0 < c.utf8Size := c.utf8Size_pos
        rw [byteLength_cons] at hbefore
        exact absurd ⟨by dsimp only; omega, by dsimp only; omega⟩ huncovered.1

/-- A text that denotes a token is cut into this token. -/
theorem of_denotes (h : Denotes slice t) (pos : Nat) :
    Cuts pos slice [⟨t, pos, pos + byteLength slice⟩] := by
  have hfirst : first? (slice ++ []) = some (t, slice.length) := by
    refine first?_append_eq_some_iff.mpr ⟨h, fun longer hpre hlength => ?_⟩
    rw [List.append_nil] at hpre
    exact absurd hpre.length_le (by omega)
  have hcuts : Cuts pos (slice ++ []) _ := .token hfirst .done
  rwa [List.append_nil] at hcuts

/-- Texts that denote tokens, with blanks between them, are cut into these tokens. -/
theorem exists_intercalate {f : Lexeme → List Char} (h : ∀ l ∈ ls, Denotes (f l) l.token)
    (pos : Nat) :
    ∃ ms, Cuts pos ([' '].intercalate (ls.map f)) ms
      ∧ ms.map Lexeme.token = ls.map Lexeme.token := by
  induction ls generalizing pos with
  | nil => exact ⟨[], .done, rfl⟩
  | cons l ls ih =>
    obtain ⟨hl, hls⟩ := List.forall_mem_cons.mp h
    cases ls with
    | nil =>
      rw [List.map_singleton, List.intercalate_singleton]
      exact ⟨_, of_denotes hl pos, rfl⟩
    | cons r ls =>
      obtain ⟨ms, hms, htokens⟩ := ih hls (pos + byteLength (f l) + ' '.utf8Size)
      have hjoined : [' '].intercalate ((l :: r :: ls).map f) = f l ++ ' ' :: [' '].intercalate
          ((r :: ls).map f) := by
        rw [List.map_cons, List.map_cons, List.intercalate_cons_cons, List.append_assoc]
        rfl
      rw [hjoined]
      refine ⟨_, (of_denotes hl pos).append (by rintro c ⟨⟩; decide) (.gap (by decide) hms), ?_⟩
      rw [List.map_append, htokens]
      rfl

end Cuts

end Token

/-! ## Sources -/

/-- The part of a source that a lexeme covers. -/
def Lexeme.slice (source : String) (l : Lexeme) : String :=
  String.Pos.Raw.extract source ⟨l.start⟩ ⟨l.stop⟩

theorem Text.utf8Len_eq_byteLength (cs : List Char) : String.utf8Len cs = byteLength cs := by
  induction cs with
  | nil => rfl
  | cons c cs ih => rw [String.utf8Len_cons, ih, byteLength_cons, Nat.add_comm]

/-- A lexeme covers the text between its two positions. -/
theorem Lexeme.slice_eq {source : String} {l : Lexeme} {before slice after : List Char}
    (hsource : source.toList = before ++ (slice ++ after)) (hstart : l.start = byteLength before)
    (hstop : l.stop = l.start + byteLength slice) : l.slice source = String.ofList slice := by
  have hextract := String.extract_of_valid before slice after
  rw [Text.utf8Len_eq_byteLength, Text.utf8Len_eq_byteLength, List.append_assoc, ← hsource,
    String.ofList_toList] at hextract
  rw [Lexeme.slice, hstop, hstart, hextract]

theorem tokenize_eq_ok_iff {source : String} {ls : List Lexeme} :
    tokenize source = .ok ls ↔ Token.lexFrom 0 source.toList = .ok ls := by
  unfold tokenize
  cases Token.lexFrom 0 source.toList <;> simp [Except.mapError]

/-- A text has the tokens it can be cut into. -/
theorem tokenize_eq_ok_iff_cuts {source : String} {ls : List Lexeme} :
    tokenize source = .ok ls ↔ Token.Cuts 0 source.toList ls :=
  tokenize_eq_ok_iff.trans Token.lexFrom_eq_ok_iff

/-- The lexemes account for a whole source. -/
structure Accounts (source : String) (ls : List Lexeme) : Prop where
  /-- No span is empty, and all lie in the source. -/
  spans : ∀ l ∈ ls, l.start < l.stop ∧ l.stop ≤ source.utf8ByteSize
  /-- The spans are in order and apart from each other. -/
  ordered : ls.Pairwise fun l r => l.stop ≤ r.start
  /-- A character outside all spans is a blank, a tab or part of a line end. -/
  gaps : ∀ before c after, source.toList = before ++ c :: after →
    (∀ l ∈ ls, ¬ (l.start ≤ byteLength before ∧ byteLength before < l.stop)) →
      c = ' ' ∨ c = '\t' ∨ c = '\r' ∨ c = '\n'
  /-- A token is the one that its slice denotes, and no longer text from its start on fits a
  pattern. -/
  longest : ∀ l ∈ ls, Token.Denotes (l.slice source).toList l.token ∧
    ∃ before after, source.toList = before ++ ((l.slice source).toList ++ after)
      ∧ byteLength before = l.start
      ∧ Token.NoneLonger (l.slice source).length ((l.slice source).toList ++ after)
  /-- The slices with single blanks between them have the same tokens. -/
  again : (tokenize (" ".intercalate (ls.map (·.slice source)))).map (·.map Lexeme.token)
    = .ok (ls.map Lexeme.token)

theorem Token.Cuts.accounts {source : String} {ls : List Lexeme}
    (h : Token.Cuts 0 source.toList ls) : Accounts source ls := by
  have hslice : ∀ l ∈ ls, ∃ before slice after, source.toList = before ++ (slice ++ after)
      ∧ l.start = byteLength before
      ∧ l.stop = l.start + byteLength slice ∧ l.slice source = String.ofList slice
      ∧ Token.first? (slice ++ after) = some (l.token, slice.length) := by
    intro l hl
    obtain ⟨before, slice, after, hsource, hstart, hstop, hfirst⟩ := h.exists_slice hl
    rw [Nat.zero_add] at hstart
    exact ⟨before, slice, after, hsource, hstart, hstop,
      Lexeme.slice_eq hsource hstart hstop, hfirst⟩
  have hdenotes : ∀ l ∈ ls, Token.Denotes (l.slice source).toList l.token := by
    intro l hl
    obtain ⟨before, slice, after, -, -, -, heq, hfirst⟩ := hslice l hl
    rw [heq, String.toList_ofList]
    exact (Token.first?_append_eq_some_iff.mp hfirst).1
  constructor
  · intro l hl
    obtain ⟨before, slice, after, hsource, hstart, hstop, -, hfirst⟩ := hslice l hl
    obtain ⟨c, cs, rfl, -⟩ :=
      Token.exists_cons_of_mem_pattern (Token.first?_append_eq_some_iff.mp hfirst).1.fits
    have hpos : 0 < byteLength (c :: cs) := by
      rw [byteLength_cons]
      exact Nat.add_pos_left c.utf8Size_pos _
    rw [← String.utf8Len_toList, Text.utf8Len_eq_byteLength, hsource, byteLength_append,
      byteLength_append]
    omega
  · exact h.pairwise
  · intro before c after hsource huncovered
    have hgap := h.isGap_of_uncovered hsource (by rwa [Nat.zero_add])
    simpa [Token.isGap, or_assoc] using hgap
  · intro l hl
    obtain ⟨before, slice, after, hsource, hstart, hstop, heq, hfirst⟩ := hslice l hl
    refine ⟨hdenotes l hl, before, after, ?_, hstart.symm, ?_⟩
    · rw [heq, String.toList_ofList, hsource]
    · rw [heq, String.toList_ofList, String.length_ofList]
      exact (Token.first?_append_eq_some_iff.mp hfirst).2
  · obtain ⟨ms, hms, htokens⟩ := Token.Cuts.exists_intercalate hdenotes 0
    have hjoined : (" ".intercalate (ls.map (·.slice source))).toList
        = [' '].intercalate (ls.map fun l => (l.slice source).toList) := by
      rw [String.toList_intercalate, List.map_map]
      rfl
    rw [← hjoined] at hms
    rw [tokenize_eq_ok_iff_cuts.mpr hms]
    exact congrArg Except.ok htokens

/-- **Tokenising loses nothing and takes the longest token everywhere.** When it fails, the text
before the place that it names has tokens, a character that is no gap stands there, and no text
from there on fits a pattern. -/
theorem tokenize_lossless (source : String) :
    (∀ ls, tokenize source = .ok ls → Accounts source ls)
      ∧ ∀ err, tokenize source = .error err → ∃ before c after, source.toList = before ++ c :: after
        ∧ err = .strayCharacter (byteLength before)
        ∧ (∃ ls, tokenize (String.ofList before) = .ok ls)
        ∧ Token.isGap c = false ∧ ∀ slice, slice <+: c :: after →
          ∀ t : Token, slice ∉ t.pattern := by
  constructor
  · exact fun ls h => (tokenize_eq_ok_iff_cuts.mp h).accounts
  · intro err h
    cases hlex : Token.lexFrom 0 source.toList with
    | ok ls =>
      rw [tokenize, hlex] at h
      cases h
    | error stray =>
      rw [tokenize, hlex] at h
      cases h
      obtain ⟨before, c, after, ls, hsource, rfl, hcuts, hgap, hnone⟩ :=
        Token.exists_of_lexFrom_eq_error hlex
      refine ⟨before, c, after, hsource, by rw [Nat.zero_add], ⟨ls, ?_⟩, hgap,
        Token.first?_eq_none_iff.mp hnone⟩
      rw [tokenize_eq_ok_iff_cuts, String.toList_ofList]
      exact hcuts

/-- Marks, a number, a point and a string with nothing between them, and a mark that is short of a
character. -/
theorem tokenize_lossless_adjacent :
    Accounts "a+++1.5.'\\'é'" [⟨.ident "a", 0, 1⟩, ⟨.increment, 1, 3⟩, ⟨.plus, 3, 4⟩,
        ⟨.number "1.5", 4, 7⟩, ⟨.dot, 7, 8⟩, ⟨.string "\\'é", 8, 14⟩]
      ∧ tokenize "truer &&& x" = .error (.strayCharacter 8)
      ∧ ∃ before c after, "truer &&& x".toList = before ++ c :: after
        ∧ ParseError.strayCharacter 8 = .strayCharacter (byteLength before)
        ∧ (∃ ls, tokenize (String.ofList before) = .ok ls)
        ∧ Token.isGap c = false ∧ ∀ slice, slice <+: c :: after →
          ∀ t : Token, slice ∉ t.pattern := by
  have hcuts : Token.Cuts 0 (['a'] ++ (['+', '+'] ++ (['+'] ++ (['1', '.', '5'] ++ (['.'] ++
      (['\x27', '\\', '\x27', 'é', '\x27'] ++ [])))))) _ :=
    .token rfl (.token rfl (.token rfl (.token rfl (.token rfl (.token rfl .done)))))
  have hok : tokenize "a+++1.5.'\\'é'" = .ok [⟨.ident "a", 0, 1⟩, ⟨.increment, 1, 3⟩, ⟨.plus, 3, 4⟩,
      ⟨.number "1.5", 4, 7⟩, ⟨.dot, 7, 8⟩, ⟨.string "\\'é", 8, 14⟩] :=
        tokenize_eq_ok_iff_cuts.mpr hcuts
  have herr : tokenize "truer &&& x" = .error (.strayCharacter 8) := by
    have hsource :
        "truer &&& x".toList = ['t', 'r', 'u', 'e', 'r']
            ++ (' ' :: (['&', '&'] ++ ['&', ' ', 'x'])) := by
      decide
    rw [tokenize, hsource, Token.lexFrom_append_of_first? rfl, Token.lexFrom_cons_of_isGap rfl,
      Token.lexFrom_append_of_first? rfl, Token.lexFrom_cons_of_stray rfl rfl]
    rfl
  exact ⟨(tokenize_lossless _).1 _ hok, herr, (tokenize_lossless _).2 _ herr⟩

end PageLang
