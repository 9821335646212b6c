import PageLang.Document.Line
import PageLang.Proofs.Expr.Language
import PageLang.Proofs.Markup.Text
import PageLang.Proofs.Text.Trim
import PageLang.Template.Lowering

/-!
# Names of state entries

A state line may declare any identifier, made of the letters and numerals of every script. The
expression language and the markers in texts know words of ASCII only, and two of these words are
values and no names. So not every entry that is declared can be used:

> `StateEntry.usable_iff`: the name of a declared entry is read as that entry, can be counted up
> by an action and is shown by its marker exactly if it has ASCII characters only, where
> expressions and actions ask besides that it is neither `true` nor `false`.

`StateEntry.declared_unusable` has a name that fails all of it and one that only its marker knows.
-/

namespace PageLang

open Text (isNameStart isNameChar isLetter isAlphanumeric)

/-- A word of ASCII: a letter or `_`, followed by letters, digits and `_`. -/
structure IsWord (cs : List Char) : Prop where
  ne_nil : cs ≠ []
  start : ∀ c ∈ cs.head?, isNameStart c = true
  chars : ∀ c ∈ cs, isNameChar c = true

instance (cs : List Char) : Decidable (IsWord cs) :=
  decidable_of_iff (cs ≠ [] ∧ cs.head?.all isNameStart = true ∧ cs.all isNameChar = true)
    ⟨fun h => ⟨h.1, Option.all_eq_true _ _ |>.mp h.2.1, List.all_eq_true.mp h.2.2⟩,
      fun h => ⟨h.ne_nil, Option.all_eq_true _ _ |>.mpr h.start, List.all_eq_true.mpr h.chars⟩⟩

/-! ## Words as tokens -/

theorem isBlank_of_isNameChar {c : Char} (h : isNameChar c = true) : Text.isBlank c = false := by
  simp only [isNameChar, Bool.or_eq_true, beq_iff_eq] at h
  rcases h with h | rfl
  · exact Text.inRanges_eq_false_of_apart (by decide) (Text.inRanges_of_isAlphanum h)
  · decide

namespace Token

/-- The pattern of names matches the words. -/
theorem mem_name_iff_isWord {word : List Char} : word ∈ Pattern.name ↔ IsWord word := by
  rw [Pattern.mem_name]
  constructor
  · rintro ⟨c, cs, rfl, hc, hcs⟩
    refine ⟨List.cons_ne_nil c cs, ?_, List.forall_mem_cons.mpr ⟨isNameChar_of_isNameStart hc, hcs⟩⟩
    rintro d ⟨⟩
    exact hc
  · intro h
    obtain ⟨c, cs, rfl⟩ := List.exists_cons_of_ne_nil h.ne_nil
    exact ⟨c, cs, rfl, h.start c rfl, (List.forall_mem_cons.mp h.chars).2⟩

/-- A word is one token, up to the first character that does not belong to it. -/
theorem lexFrom_word {word : List Char} (h : IsWord word) (rest : List Char)
    (hrest : ∀ c ∈ rest.head?, isNameChar c = false) (pos : Nat) :
    lexFrom pos (word ++ rest)
      = (⟨ofWord word, pos, pos + Text.byteLength word⟩ :: ·)
        <$> lexFrom (pos + Text.byteLength word) rest := by
  have hstop : ([] ++ rest).takeWhile isNameChar = [] :=
    Text.takeWhile_append_of_stop (List.forall_mem_nil _) hrest
  have hfirst := first?_name (mem_name_iff_isWord.mpr h) rest
  rw [List.nil_append] at hstop
  rw [hstop, List.append_nil, List.length_nil, Nat.add_zero] at hfirst
  exact lexFrom_append_of_first? hfirst

/-- A name that the expression language knows. -/
def IsName (name : String) : Prop := IsWord name.toList ∧ name ≠ "true" ∧ name ≠ "false"

theorem ofWord_of_isName {name : String} (h : IsName name) : ofWord name.toList = .ident name := by
  unfold ofWord
  dsimp only
  rw [String.ofList_toList, if_neg h.2.1, if_neg h.2.2]

/-- Only names are lexed to names. -/
theorem isName_of_denotes {slice : List Char} {name : String} (h : Denotes slice (.ident name)) :
    IsName name := by
  obtain rfl : name = String.ofList slice := h.keeps
  obtain ⟨htrue, hfalse⟩ := h.keyword _ rfl
  refine ⟨?_, fun heq => htrue (String.ofList_injective heq),
    fun heq => hfalse (String.ofList_injective heq)⟩
  rw [String.toList_ofList]
  exact mem_name_iff_isWord.mp h.fits

/-- Only names are lexed as names. -/
theorem isName_of_lexFrom {pos : Nat} {cs : List Char} {ls : List Lexeme}
    (h : lexFrom pos cs = .ok ls) {name : String} (hname : .ident name ∈ ls.map Lexeme.token) :
    IsName name := by
  obtain ⟨l, hl, htoken⟩ := List.mem_map.mp hname
  obtain ⟨slice, hdenotes⟩ := (lexFrom_eq_ok_iff.mp h).exists_denotes hl
  rw [htoken] at hdenotes
  exact isName_of_denotes hdenotes

end Token

/-! ## Words in expressions and actions -/

namespace Grammar

theorem Target.mem {ts : List Token} {name : String} (h : Target ts name) : .ident name ∈ ts := by
  rcases h with rfl | rfl <;> simp

/-- An entry is named by the tokens that derive it. -/
theorem Derives.mem_of_variable {limit m : Nat} {form : Form} {ts : List Token} {name : String}
    (h : Derives limit form m ts (.variable name)) : .ident name ∈ ts := by
  generalize he : Expr.variable name = e at h
  induction h with
  | number | string | trueWord | falseWord | call | unary | next => cases he
  | entry target =>
    cases he
    exact target.mem
  | parens _ _ ih => exact List.mem_cons_of_mem _ (List.mem_append_left _ (ih he))
  | first _ _ ih => exact ih he
  | operand _ ih => exact ih he

theorem DerivesProgram.mem_of_increment {limit : Nat} {ts : List Token} {name : String}
    (h : DerivesProgram limit ts [.increment name]) : .ident name ∈ ts := by
  have hstatement {us : List Token} (h : DerivesStatement limit us (.increment name)) :
      .ident name ∈ us := by
    cases h with
    | incrementAfter target => exact List.mem_append_left _ target.mem
    | incrementBefore target => exact List.mem_cons_of_mem _ target.mem
  cases h with
  | last n only => exact List.mem_append_left _ (hstatement only)
  | next n head tail => exact List.mem_append_left _ (hstatement head)

end Grammar

/-- Exactly the names are read as variables. -/
theorem Expr.parse_name_iff (name : String) :
    Expr.parse name = .ok (.variable name) ↔ Token.IsName name := by
  constructor
  · intro h
    obtain ⟨ls, hls, hderives⟩ := Expr.parse_eq_ok_iff.mp h
    exact Token.isName_of_lexFrom (tokenize_eq_ok_iff.mp hls) hderives.mem_of_variable
  · intro h
    have hlex := Token.lexFrom_word h.1 [] (fun _ hc => nomatch hc) 0
    rw [List.append_nil, Token.ofWord_of_isName h, Token.lexFrom] at hlex
    refine Expr.parse_eq_ok_iff.mpr ⟨_, tokenize_eq_ok_iff.mpr hlex, ?_⟩
    exact Grammar.derives_loosen (.entry (.inl rfl)) Grammar.unaryStrength

/-- Exactly the names can be incremented. -/
theorem Program.parse_increment_iff (name : String) :
    Program.parse (name ++ "++") = .ok ⟨name ++ "++", [.increment name]⟩ ↔ Token.IsName name := by
  constructor
  · intro h
    obtain ⟨-, ls, hls, hderives⟩ := Program.parse_eq_ok_iff.mp h
    exact Token.isName_of_lexFrom (tokenize_eq_ok_iff.mp hls) hderives.mem_of_increment
  · intro h
    have hsource : (name ++ "++").toList = name.toList ++ ['+', '+'] := String.toList_append
    have htrim : Text.trimmed (name ++ "++") = name ++ "++" := by
      have hlist : Text.trim (name.toList ++ ['+', '+']) = name.toList ++ ['+', '+'] := by
        refine Text.trim_eq_self (fun c hc => ?_) (fun c hc => ?_)
        · obtain ⟨d, ds, hcons⟩ := List.exists_cons_of_ne_nil h.1.ne_nil
          rw [hcons] at hc
          cases hc
          exact isBlank_of_isNameChar (h.1.chars c (by simp [hcons]))
        · rw [List.append_cons, List.getLast?_concat] at hc
          cases hc
          decide
      rw [Text.trimmed, hsource, hlist, ← hsource, String.ofList_toList]
    have hmarks (pos : Nat) : Token.lexFrom pos ['+', '+'] = .ok [⟨.increment, pos, pos + 2⟩] := by
      rw [Token.lexFrom, if_neg (by decide), show Token.first? ['+', '+'] = some (.increment, 2)
        from rfl]
      dsimp only
      rw [show (['+'] : List Char).drop (2 - 1) = [] from rfl, Token.lexFrom]
      rfl
    have hlex := Token.lexFrom_word h.1 ['+', '+'] (by rintro c ⟨⟩; decide) 0
    rw [Token.ofWord_of_isName h, hmarks, ← hsource] at hlex
    refine Program.parse_eq_ok_iff.mpr ⟨htrim.symm, _, tokenize_eq_ok_iff.mpr hlex, ?_⟩
    exact .last 0 (.incrementAfter (.inl rfl))

/-! ## Words in markers -/

namespace Markup

/-- Only words are read as markers. -/
theorem isWord_of_markerName? {cs name : List Char} (h : markerName? cs = some name) :
    IsWord name := by
  unfold markerName? at h
  split at h
  · next c rest =>
    dsimp only at h
    split at h
    · next hcond =>
      cases h
      have hc : isNameStart c = true := (Bool.and_eq_true_iff.mp hcond).1
      refine ⟨List.cons_ne_nil _ _, by rintro d ⟨⟩; exact hc, fun d hd => ?_⟩
      rcases List.mem_cons.mp hd with rfl | hd
      · exact Token.isNameChar_of_isNameStart hc
      · exact List.mem_takeWhile_imp hd
    · cases h
  · cases h

/-- Only words are read as markers. -/
theorem isWord_of_mem_pieces {cs : List Char} {name : String} (h : .marker name ∈ pieces cs) :
    IsWord name.toList := by
  fun_induction pieces cs with
  | case1 => cases h
  | case2 c rest word hword ih =>
    rcases List.mem_cons.mp h with heq | h
    · cases heq
      rw [String.toList_ofList]
      exact isWord_of_markerName? hword
    · exact ih h
  | case3 c rest hnone ih =>
    rcases List.mem_cons.mp h with heq | h
    · cases heq
    · exact ih h

/-- A word in braces is a marker. -/
theorem pieces_word {word : List Char} (h : IsWord word) :
    pieces ('\x7b' :: (word ++ ['\x7d'])) = [.marker (String.ofList word)] := by
  obtain ⟨c, cs, rfl⟩ := List.exists_cons_of_ne_nil h.ne_nil
  have hcs : ∀ d ∈ cs, isNameChar d = true := fun d hd => h.chars d (List.mem_cons_of_mem _ hd)
  have hstop : ∀ d ∈ (['\x7d'] : List Char).head?, isNameChar d = false := by
    rintro d ⟨⟩
    decide
  have hname : markerName? ('\x7b' :: (c :: cs ++ ['\x7d'])) = some (c :: cs) := by
    rw [List.cons_append, markerName?, Text.takeWhile_append_of_stop hcs hstop,
      List.dropWhile_append_of_pos hcs, h.start c rfl]
    rfl
  have hdrop : (c :: cs ++ ['\x7d']).drop ((c :: cs).length + 1) = [] :=
    List.drop_length_add_append 1
  rw [pieces, hname]
  dsimp only
  rw [hdrop, pieces]

end Markup

/-- The steps of a text that is only a marker have a hole for the entry if the marker is read as
one. -/
theorem Lowering.mem_node_marker {l : Lowering} {depth : Nat} {n : Node} {name : String}
    (helement : n.element = .text) (hcontent : n.content = Markup.marker name)
    (hchildren : n.children = []) (hdeclared : l.state.contains name = true) :
    .segment (.text name) ∈ l.node depth n ↔ IsWord name.toList := by
  have hmarker : (Markup.marker name).toList = '\x7b' :: (name.toList ++ ['\x7d']) := by
    rw [Markup.marker, String.toList_append, String.toList_append]
    rfl
  -- Characters are static, and so is a marker of an entry that is not declared.
  have hpiece {p : Markup.Piece} : l.piece p = .segment (.text name) ↔ p = .marker name := by
    cases p with
    | char c => simp [piece]
    | marker other =>
      rw [piece]
      split
      · simp
      · next hother =>
        constructor
        · intro heq
          cases heq
        · intro heq
          cases heq
          exact absurd hdeclared hother
  have hnode : .segment (.text name) ∈ l.node depth n
      ↔ .segment (.text name) ∈ l.interpolated n.content := by
    obtain ⟨kind, properties, content, children, state, line⟩ := n
    cases hchildren
    rw [node, helement]
    simp [container, lineStart, lineEnd]
  rw [hnode, interpolated, hcontent, hmarker, List.mem_map]
  simp only [hpiece, exists_eq_right]
  constructor
  · exact Markup.isWord_of_mem_pieces
  · intro hword
    rw [Markup.pieces_word hword, String.ofList_toList]
    exact List.mem_singleton_self _

/-! ## Identifiers -/

/-- A state entry is declared under an identifier. -/
theorem StateEntry.isIdentifier_of_ofText? {text : List Char} {entry : StateEntry}
    (h : StateEntry.ofText? text = some entry) : isIdentifier entry.name.toList = true := by
  unfold StateEntry.ofText? at h
  dsimp only at h
  split at h
  · split at h
    · next hname =>
      cases h
      rwa [String.toList_ofList]
    · cases h
  · cases h

/-- An identifier is a word if its characters are those of words: no letter is a digit. -/
theorem isWord_iff_of_isIdentifier {cs : List Char} (h : isIdentifier cs = true) :
    IsWord cs ↔ ∀ c ∈ cs, isNameChar c = true := by
  cases cs with
  | nil => cases h
  | cons c rest =>
    rw [isIdentifier, Bool.and_eq_true, Bool.or_eq_true, decide_eq_true_eq] at h
    refine ⟨IsWord.chars, fun hchars => ⟨List.cons_ne_nil _ _, ?_, hchars⟩⟩
    rintro d ⟨⟩
    have hc := hchars c (List.mem_cons_self ..)
    simp only [isNameChar, Char.isAlphanum, Bool.or_eq_true] at hc
    simp only [isNameStart, Bool.or_eq_true]
    rcases hc with (halpha | hdigit) | hunder
    · exact .inl halpha
    · have hletter : isLetter c = false :=
        Text.inRanges_eq_false_of_apart (by decide +kernel) (Text.inRanges_of_isDigit hdigit)
      rcases h.1 with hc | rfl
      · rw [hletter] at hc
        cases hc
      · cases hdigit
    · exact .inr hunder

/-- **Which entries can be used.** -/
theorem StateEntry.usable_iff (text : List Char) (entry : StateEntry)
    (h : StateEntry.ofText? text = some entry) :
    (Expr.parse entry.name = .ok (.variable entry.name)
      ↔ (∀ c ∈ entry.name.toList, isNameChar c = true) ∧ entry.name ≠ "true" ∧ entry.name ≠ "false")
    ∧ (Program.parse (entry.name ++ "++") = .ok ⟨entry.name ++ "++", [.increment entry.name]⟩
      ↔ (∀ c ∈ entry.name.toList, isNameChar c = true) ∧ entry.name ≠ "true" ∧ entry.name ≠ "false")
    ∧ ∀ (l : Lowering) (depth : Nat) (n : Node), n.element = .text →
      n.content = Markup.marker entry.name →
      n.children = [] → l.state.contains entry.name = true →
      (.segment (.text entry.name) ∈ l.node depth n
        ↔ ∀ c ∈ entry.name.toList, isNameChar c = true) := by
  have hword := isWord_iff_of_isIdentifier (StateEntry.isIdentifier_of_ofText? h)
  have hname : Token.IsName entry.name
      ↔ (∀ c ∈ entry.name.toList, isNameChar c = true) ∧ entry.name ≠ "true"
          ∧ entry.name ≠ "false" :=
    and_congr_left fun _ => hword
  exact ⟨(Expr.parse_name_iff _).trans hname, (Program.parse_increment_iff _).trans hname,
    fun l depth n helement hcontent hchildren hdeclared =>
      (Lowering.mem_node_marker helement hcontent hchildren hdeclared).trans hword⟩

/-- An entry that can be used everywhere: in an expression, in an action, and by its marker in a
text. -/
theorem StateEntry.usable_iff_item :
    let l : Lowering := ⟨{}, .ofList [("item_2", .text "a: b")]⟩
    Expr.parse "item_2" = .ok (.variable "item_2")
    ∧ Program.parse "item_2++" = .ok ⟨"item_2++", [.increment "item_2"]⟩
    ∧ .segment (.text "item_2") ∈ l.node 0 { kind := "Text", content := "\x7bitem_2\x7d",
                                             line := 1 } := by
  intro l
  have hdeclared : (StateEntry.ofText? " item_2 : \"a: b\"".toList).map StateEntry.name
      = some "item_2" := by
    decide +kernel
  obtain ⟨entry, hentry, hname⟩ := Option.map_eq_some_iff.mp hdeclared
  obtain ⟨hread, hcount, hshown⟩ := StateEntry.usable_iff _ entry hentry
  rw [hname] at hread hcount hshown
  have hplain : ∀ c ∈ "item_2".toList, isNameChar c = true :=
    List.all_eq_true.mp (by decide +kernel)
  have hmarker := hshown l 0 { kind := "Text", content := "\x7bitem_2\x7d", line := 1 } (by decide)
    (by decide) rfl
    (by decide +kernel)
  exact ⟨hread.mpr ⟨hplain, by decide⟩, hcount.mpr ⟨hplain, by decide⟩, hmarker.mpr hplain⟩

/-- **Entries that are declared and cannot be used.** No text but that of a state line knows the
name `größe`, and `true` is a value wherever it does not stand in a marker. -/
theorem StateEntry.declared_unusable :
    (StateEntry.ofText? " größe: 1".toList).map StateEntry.name = some "größe"
    ∧ (Expr.parse "größe").toOption.isNone = true
    ∧ (Program.parse "größe++").toOption.isNone = true
    ∧ Markup.markerNames (Markup.marker "größe") = []
    ∧ (StateEntry.ofText? " true: 1".toList).map StateEntry.name = some "true"
    ∧ Expr.parse "true" = .ok (.boolean true)
    ∧ (Program.parse "true++").toOption.isNone = true := by
  refine ⟨by decide +kernel, by decide +kernel, by decide +kernel, by decide +kernel,
    by decide +kernel, ?_, by decide +kernel⟩
  have hword : IsWord "true".toList := by decide +kernel
  have hlex := Token.lexFrom_word hword [] (fun _ hc => nomatch hc) 0
  rw [List.append_nil, show Token.ofWord "true".toList = .trueWord by decide +kernel,
    Token.lexFrom] at hlex
  exact Expr.parse_eq_ok_iff.mpr ⟨_, tokenize_eq_ok_iff.mpr hlex,
    Grammar.derives_loosen .trueWord Grammar.unaryStrength⟩

end PageLang
