import PageLang.Markup.Marker
import PageLang.Proofs.Component.Simulation

/-!
# Binding as substitution

Binding the parameters of a component in a text goes through the parameters one after the other
and replaces the markers of each in what the others have left. Here it is compared with the
simultaneous substitution (`Binding.substitute`), which cuts the text into its markers and the
characters between them once and for all, and then writes the values in place of the markers.

The two differ when a value that has been written completes a marker of a parameter that is still
to come, whether the value brings the marker with it or only a part of it
(`Binding.substitutes_again`). They agree, and so the order of the parameters does not matter, as
long as this does not happen:

> `Expansion.usage_binds_simultaneously`: if whatever has been written so far leaves the markers
> of the next parameter where the text has them, every text of the body is bound by simultaneous
> substitution, and a usage expands to the same nodes whatever the order of the parameters.

It never happens in texts and values in which braces only stand around names, and where no value
names a parameter (`Binding.separate_of_tidy`).
-/

namespace PageLang

open Markup (Piece)

/-! ## Replacing a part of a text -/

namespace Text

/-- What starts no occurrence of the part is passed over. -/
theorem replaceAll_append {part value w s : List Char}
    (h : ∀ k < w.length, ¬ part <+: (w ++ s).drop k) :
    replaceAll part value (w ++ s) = w ++ replaceAll part value s := by
  induction w with
  | nil => rfl
  | cons c w ih =>
    have hhere : ¬ (part ≠ [] ∧ part.isPrefixOf (c :: (w ++ s)) = true) := by
      rintro ⟨-, hprefix⟩
      exact h 0 (Nat.zero_lt_succ _) (List.isPrefixOf_iff_prefix.mp hprefix)
    have hlater : ∀ k < w.length, ¬ part <+: (w ++ s).drop k := by
      intro k hk hprefix
      exact h (k + 1) (Nat.succ_lt_succ hk) hprefix
    rw [List.cons_append, replaceAll, if_neg hhere, ih hlater, List.cons_append]

/-- An occurrence of the part gives way to the value. -/
theorem replaceAll_part_append {part : List Char} (hpart : part ≠ []) (value s : List Char) :
    replaceAll part value (part ++ s) = value ++ replaceAll part value s := by
  obtain ⟨c, rest, rfl⟩ := List.exists_cons_of_ne_nil hpart
  have hhere : c :: rest ≠ [] ∧ (c :: rest).isPrefixOf (c :: (rest ++ s)) = true :=
    ⟨hpart, List.isPrefixOf_iff_prefix.mpr (List.prefix_append (c :: rest) s)⟩
  rw [List.cons_append, replaceAll, if_pos hhere, List.length_cons, Nat.add_sub_cancel,
    List.drop_left]

end Text

namespace Binding

variable {b : Binding} {text : List Char} {done : List String} {next : String}

/-! ## Simultaneous substitution -/

/-- The parameter whose marker a text starts with, among those that have a value. -/
def markerAt? (b : Binding) (text : List Char) : Option String :=
  b.parameters.find? fun p => b.values.contains p && (marker p).isPrefixOf text

/-- The markers of a text that are to be replaced, and the characters between them. -/
def pieces (b : Binding) : List Char → List Piece
  | [] => []
  | c :: rest =>
    match b.markerAt? (c :: rest) with
    | some p => .marker p :: b.pieces (rest.drop (p.toList.length + 1))
    | none => .char c :: b.pieces rest
termination_by cs => cs.length
decreasing_by all_goals simp only [List.length_cons, List.length_drop]; omega

/-- A piece when the values of some parameters have been written and those of the others have
not. -/
def write (b : Binding) (done : List String) : Piece → List Char
  | .char c => [c]
  | .marker p =>
    match b.values.get? p with
    | some value => if p ∈ done then value.toList else marker p
    | none => marker p

/-- The text with the values in place of all markers at once. -/
def substitute (b : Binding) (text : List Char) : List Char :=
  (b.pieces text).flatMap (b.write b.parameters)

theorem marker_ne_nil (p : String) : marker p ≠ [] := List.cons_ne_nil _ _

theorem marker_append (p : String) (s : List Char) :
    marker p ++ s = '\x7b' :: (p.toList ++ '\x7d' :: s) := by
  rw [marker, List.cons_append, List.cons_append, List.append_assoc, List.singleton_append]

/-- A marker that has a value is written as the value once it is done. -/
theorem write_of_some {p value : String} (h : b.values.get? p = some value) :
    b.write done (.marker p) = if p ∈ done then value.toList else marker p := by
  rw [write, h]

/-- A marker without a value stays. -/
theorem write_of_none {p : String} (h : b.values.get? p = none) :
    b.write done (.marker p) = marker p := by
  rw [write, h]

/-- A marker is found where the text starts with it. -/
theorem prefix_of_markerAt? {p : String} (h : b.markerAt? text = some p) : marker p <+: text := by
  have hp := List.find?_some h
  rw [Bool.and_eq_true] at hp
  exact List.isPrefixOf_iff_prefix.mp hp.2

theorem drop_name (name cs : List Char) : (name ++ '\x7d' :: cs).drop (name.length + 1) = cs := by
  rw [← List.singleton_append, ← List.append_assoc]
  exact List.drop_left' (by rw [List.length_append, List.length_singleton])

/-- Before any value is written the pieces make up the text. -/
theorem flatMap_pieces (b : Binding) (text : List Char) :
    (b.pieces text).flatMap (b.write []) = text := by
  have hmarker (p : String) : b.write [] (.marker p) = marker p := by
    cases h : b.values.get? p with
    | none => exact write_of_none h
    | some value => rw [write_of_some h, if_neg List.not_mem_nil]
  fun_induction pieces b text with
  | case1 => rfl
  | case2 c rest p hp ih =>
    rw [List.flatMap_cons, ih, hmarker]
    obtain ⟨after, hafter⟩ := prefix_of_markerAt? hp
    obtain ⟨rfl, rfl⟩ := List.cons.inj ((marker_append p after).symm.trans hafter)
    rw [drop_name, marker_append]
  | case3 c rest hnone ih => rw [List.flatMap_cons, ih, write, List.singleton_append]

/-! ## One parameter after the other -/

/-- Whatever parameters have been dealt with in whatever order, the markers of the next one are
those that the text was written with. -/
def Separate (b : Binding) (text : List Char) : Prop :=
  ∀ done next later, (done ++ next :: later).Perm b.parameters → b.values.contains next = true →
    ∀ before after, (b.pieces text).flatMap (b.write done) = before ++ (marker next ++ after) →
      ∃ l r, b.pieces text = l ++ .marker next :: r ∧ next ∉ done
        ∧ l.flatMap (b.write done) = before ∧ r.flatMap (b.write done) = after

/-- A piece is written as before unless it is a marker of the parameter whose turn it is. -/
theorem write_concat {piece : Piece} (h : piece = .marker next → next ∈ done
    ∨ b.values.get? next = none) : b.write (done ++ [next]) piece = b.write done piece := by
  cases piece with
  | char c => rfl
  | marker p =>
    cases hvalue : b.values.get? p with
    | none => rw [write_of_none hvalue, write_of_none hvalue]
    | some value =>
      have hiff : p ∈ done ++ [next] ↔ p ∈ done := by
        rw [List.mem_append, List.mem_singleton, or_iff_left_iff_imp]
        rintro rfl
        rcases h rfl with hdone | hnone
        · exact hdone
        · rw [hvalue] at hnone
          cases hnone
      rw [write_of_some hvalue, write_of_some hvalue]
      by_cases hdone : p ∈ done
      · rw [if_pos hdone, if_pos (hiff.mpr hdone)]
      · rw [if_neg hdone, if_neg (mt hiff.mp hdone)]

/-- If pieces are split at a mark in such a way that the text before it ends inside a piece, that
piece is the mark. -/
theorem eq_of_split_inside {f : Piece → List Char} {passed rest l r : List Piece}
    {piece mark : Piece} {k : Nat} (hsplit : passed ++ piece :: rest = l ++ mark :: r)
    (hmark : 0 < (f mark).length) (hk : k < (f piece).length)
    (hlength : (l.flatMap f).length = (passed.flatMap f).length + k) : piece = mark := by
  rcases List.append_eq_append_iff.mp hsplit with ⟨m, hm, hrest⟩ | ⟨m, hm, hrest⟩
  · cases m with
    | nil => exact (List.cons.inj hrest).1
    | cons head m =>
      -- The mark would stand behind the piece.
      obtain ⟨rfl, -⟩ := List.cons.inj hrest
      rw [hm, List.flatMap_append, List.flatMap_cons, List.length_append,
        List.length_append] at hlength
      omega
  · cases m with
    | nil => exact (List.cons.inj hrest).1.symm
    | cons head m =>
      -- The mark would stand before the piece.
      obtain ⟨rfl, -⟩ := List.cons.inj hrest
      rw [hm, List.flatMap_append, List.flatMap_cons, List.length_append,
        List.length_append] at hlength
      omega

/-- Replacing the markers of one parameter writes its value, if they are those that the text had. -/
theorem replaceAll_pieces {ps : List Piece} {value : String}
    (hvalue : b.values.get? next = some value)
    (h : ∀ before after, ps.flatMap (b.write done) = before ++ (marker next ++ after) →
      ∃ l r, ps = l ++ .marker next :: r ∧ next ∉ done
        ∧ l.flatMap (b.write done) = before ∧ r.flatMap (b.write done) = after) :
    Text.replaceAll (marker next) value.toList (ps.flatMap (b.write done))
      = ps.flatMap (b.write (done ++ [next])) := by
  -- The claim for what is left of the pieces when some have been passed.
  suffices hrest : ∀ passed rest, ps = passed ++ rest →
      Text.replaceAll (marker next) value.toList (rest.flatMap (b.write done))
        = rest.flatMap (b.write (done ++ [next])) from hrest [] ps rfl
  intro passed rest
  induction rest generalizing passed with
  | nil =>
    intro _
    rw [List.flatMap_nil, List.flatMap_nil, Text.replaceAll]
  | cons piece rest ih =>
    intro hps
    have ih := ih (passed ++ [piece]) (by rw [hps, List.append_assoc, List.singleton_append])
    rw [List.flatMap_cons, List.flatMap_cons]
    by_cases hturn : piece = .marker next ∧ next ∉ done
    · obtain ⟨rfl, hdone⟩ := hturn
      have hbefore : b.write done (.marker next) = marker next := by
        rw [write_of_some hvalue, if_neg hdone]
      have hafter : b.write (done ++ [next]) (.marker next) = value.toList := by
        rw [write_of_some hvalue, if_pos (List.mem_append_right _ (List.mem_singleton_self _))]
      rw [hbefore, hafter, Text.replaceAll_part_append (marker_ne_nil next), ih]
    · have hsame : b.write (done ++ [next]) piece = b.write done piece :=
        write_concat fun hpiece =>
          .inl (Classical.byContradiction fun hdone => hturn ⟨hpiece, hdone⟩)
      rw [hsame, Text.replaceAll_append, ih]
      -- An occurrence that started within this piece would be that of another one.
      rintro k hk ⟨after, hafter⟩
      obtain ⟨l, r, hlr, hnext, hl, -⟩ := h
        (passed.flatMap (b.write done) ++ (b.write done piece).take k) after (by
          rw [hps, List.flatMap_append, List.flatMap_cons, hafter, List.append_assoc]
          have htake : (b.write done piece).take k
              = (b.write done piece ++ rest.flatMap (b.write done)).take k :=
            (List.take_append_of_le_length (Nat.le_of_lt hk)).symm
          rw [htake, List.take_append_drop])
      have hlength :
          (l.flatMap (b.write done)).length = (passed.flatMap (b.write done)).length + k := by
        rw [hl, List.length_append, List.length_take, Nat.min_eq_left (Nat.le_of_lt hk)]
      have hmarker : 0 < (b.write done (.marker next)).length := by
        rw [write_of_some hvalue, if_neg hnext]
        exact List.length_pos_iff.mpr (marker_ne_nil next)
      exact hturn ⟨eq_of_split_inside (hps.symm.trans hlr) hmarker hk hlength, hnext⟩

/-- The parameters that are left write their values into what the others have left. -/
theorem foldl_fill (h : b.Separate text) (done later : List String)
    (hperm : (done ++ later).Perm b.parameters) :
    later.foldl b.fill ((b.pieces text).flatMap (b.write done))
      = (b.pieces text).flatMap (b.write (done ++ later)) := by
  induction later generalizing done with
  | nil => rw [List.foldl_nil, List.append_nil]
  | cons next later ih =>
    have hstep : b.fill ((b.pieces text).flatMap (b.write done)) next
        = (b.pieces text).flatMap (b.write (done ++ [next])) := by
      cases hvalue : b.values.get? next with
      | none =>
        have hsame : b.write (done ++ [next]) = b.write done :=
          funext fun piece => write_concat fun _ => .inr hvalue
        rw [fill, hvalue, hsame]
      | some value =>
        have hsupplied : b.values.contains next = true := by
          rw [OrderedMap.contains, hvalue]
          rfl
        rw [fill, hvalue]
        exact replaceAll_pieces hvalue (h done next later hperm hsupplied)
    have happend : done ++ [next] ++ later = done ++ next :: later := by
      rw [List.append_assoc, List.singleton_append]
    rw [List.foldl_cons, hstep, ih (done ++ [next]) (happend ▸ hperm), happend]

/-- Whether a text is just the name of a parameter that has a value. -/
def isName (b : Binding) (text : String) : Bool :=
  b.parameters.contains (Text.trimmed text) && b.values.contains (Text.trimmed text)

/-- A text that is more than a name has its markers replaced, parameter after parameter. -/
theorem apply_of_not_isName {text : String} (h : b.isName text = false) :
    b.apply text = String.ofList (b.parameters.foldl b.fill text.toList) := by
  unfold isName OrderedMap.contains at h
  unfold apply
  dsimp only
  split
  · next value hdeclared hvalue =>
    rw [hdeclared, hvalue] at h
    cases h
  · rfl

theorem apply_of_isName {text : String} (h : b.isName text = true) :
    b.values.get? (Text.trimmed text) = some (b.apply text) := by
  unfold isName OrderedMap.contains at h
  rw [Bool.and_eq_true, Option.isSome_iff_exists] at h
  obtain ⟨hdeclared, value, hvalue⟩ := h
  unfold apply
  dsimp only
  rw [hdeclared, hvalue]

/-- In every order of the parameters a text is bound by simultaneous substitution. -/
theorem apply_perm {text : String} (hname : b.isName text = false) (h : b.Separate text.toList)
    {parameters : List String} (hperm : parameters.Perm b.parameters) :
    apply ⟨parameters, b.values⟩ text = String.ofList (b.substitute text.toList) := by
  have hname' : isName ⟨parameters, b.values⟩ text = false := by
    rw [← hname]
    show (parameters.contains _ && _) = (b.parameters.contains _ && _)
    rw [hperm.contains_eq]
  have hfold := foldl_fill h [] parameters hperm
  rw [flatMap_pieces, List.nil_append] at hfold
  have hwrite : b.write parameters = b.write b.parameters := by
    funext piece
    cases piece with
    | char c => rfl
    | marker p => simp only [write, hperm.mem_iff]
  rw [apply_of_not_isName hname', substitute, ← hwrite, ← hfold]
  rfl

/-! ## Texts in which nothing arises -/

/-- A text in which braces only stand around names, and only around names of one kind. -/
inductive Tidy (named : List Char → Prop) : List Char → Prop where
  | nil : Tidy named []
  | plain {c : Char} {cs : List Char} (hopen : c ≠ '\x7b') (hclose : c ≠ '\x7d')
      (h : Tidy named cs) :
    Tidy named (c :: cs)
  | braced {name cs : List Char} (hopen : '\x7b' ∉ name) (hclose : '\x7d' ∉ name)
    (hname : named name)
    (h : Tidy named cs) : Tidy named ('\x7b' :: (name ++ '\x7d' :: cs))

/-- Characters other than braces may stand before a tidy text. -/
theorem Tidy.append {named : List Char → Prop} {w s : List Char} (hopen : '\x7b' ∉ w)
    (hclose : '\x7d' ∉ w) (hs : Tidy named s) : Tidy named (w ++ s) := by
  induction w with
  | nil => exact hs
  | cons c w ih =>
    rw [List.mem_cons, not_or] at hopen hclose
    exact .plain (fun hc => hopen.1 hc.symm) (fun hc => hclose.1 hc.symm) (ih hopen.2 hclose.2)

/-- Names without braces are told from what follows by the closing brace. -/
theorem name_eq_of_append {name other rest rest' : List Char} (hname : '\x7d' ∉ name)
    (hother : '\x7d' ∉ other) (h : name ++ '\x7d' :: rest = other ++ '\x7d' :: rest') :
    name = other ∧ rest = rest' := by
  induction name generalizing other with
  | nil =>
    cases other with
    | nil => exact ⟨rfl, (List.cons.inj h).2⟩
    | cons c other =>
      exact absurd (List.cons.inj h).1 (fun hc => hother (hc ▸ List.mem_cons_self ..))
  | cons c name ih =>
    cases other with
    | nil => exact absurd (List.cons.inj h).1 (fun hc => hname (hc ▸ List.mem_cons_self ..))
    | cons d other =>
      obtain ⟨rfl, htail⟩ := List.cons.inj h
      obtain ⟨rfl, hrest⟩ :=
        ih (mt (List.mem_cons_of_mem c) hname) (mt (List.mem_cons_of_mem c) hother) htail
      exact ⟨rfl, hrest⟩

/-- An opening brace that is not in the first part is in the second. -/
theorem append_eq_open {w s before rest : List Char} (hw : '\x7b' ∉ w)
    (h : w ++ s = before ++ '\x7b' :: rest) :
    ∃ before', before = w ++ before' ∧ s = before' ++ '\x7b' :: rest := by
  rcases List.append_eq_append_iff.mp h with ⟨m, hbefore, hs⟩ | ⟨m, hw', hm⟩
  · exact ⟨m, hbefore, hs⟩
  · cases m with
    | nil => exact ⟨[], by rw [hw', List.append_nil, List.append_nil], hm.symm⟩
    | cons c m =>
      obtain ⟨rfl, -⟩ := List.cons.inj hm
      exact absurd (hw' ▸ List.mem_append_right _ (List.mem_cons_self ..)) hw

/-- A marker that does not start a tidy text lies behind the marker that does. -/
theorem append_eq_marker {name s before : List Char} {q : String} {after : List Char}
    (hopen : '\x7b' ∉ name) (hclose : '\x7d' ∉ name) (hq : '\x7d' ∉ q.toList)
    (h : '\x7b' :: (name ++ '\x7d' :: s) = before ++ (marker q ++ after)) :
    (before = [] ∧ name = q.toList ∧ s = after)
      ∨ ∃ before', before = '\x7b' :: (name ++ '\x7d' :: before')
        ∧ s = before' ++ (marker q ++ after) := by
  cases before with
  | nil =>
    have hbody : name ++ '\x7d' :: s = q.toList ++ '\x7d' :: after :=
      (List.cons.inj (h.trans (marker_append q after))).2
    obtain ⟨hname, hafter⟩ := name_eq_of_append hclose hq hbody
    exact .inl ⟨rfl, hname, hafter⟩
  | cons c before =>
    obtain ⟨rfl, htail⟩ := List.cons.inj h
    have hw : '\x7b' ∉ name ++ ['\x7d'] := by
      rw [List.mem_append, List.mem_singleton, not_or]
      exact ⟨hopen, by decide⟩
    have h' : (name ++ ['\x7d']) ++ s = before ++ '\x7b' :: ((q.toList ++ ['\x7d']) ++ after) := by
      rw [List.append_assoc]
      exact htail
    obtain ⟨before', hbefore, hs⟩ := append_eq_open hw h'
    refine .inr ⟨before', ?_, hs⟩
    rw [hbefore, List.append_assoc, List.singleton_append]

/-- No marker starts in a tidy text that does not have its name. -/
theorem Tidy.append_eq {named : List Char → Prop} {w s before after : List Char} {q : String}
    (hw : Tidy named w) (hq : '\x7d' ∉ q.toList) (hnamed : ¬ named q.toList)
    (h : w ++ s = before ++ (marker q ++ after)) :
    ∃ before', before = w ++ before' ∧ s = before' ++ (marker q ++ after) := by
  induction hw generalizing before with
  | nil => exact ⟨before, rfl, h⟩
  | plain hopen hclose hw ih =>
    cases before with
    | nil => exact absurd (List.cons.inj h).1 hopen
    | cons c before =>
      obtain ⟨rfl, htail⟩ := List.cons.inj h
      obtain ⟨before', rfl, hs⟩ := ih htail
      exact ⟨before', rfl, hs⟩
  | @braced name cs hopen hclose hname hw ih =>
    rw [List.cons_append, List.append_assoc, List.cons_append] at h
    rcases append_eq_marker hopen hclose hq h with ⟨-, rfl, -⟩ | ⟨before', rfl, hs⟩
    · exact absurd hname hnamed
    · obtain ⟨before'', rfl, hs'⟩ := ih hs
      exact ⟨before'', by rw [List.cons_append, List.append_assoc, List.cons_append], hs'⟩

/-- A parameter that is declared and given a value. -/
def Supplied (b : Binding) (p : String) : Prop := p ∈ b.parameters ∧ b.values.contains p = true

/-- Only markers with a value are found. -/
theorem supplied_of_markerAt? {p : String} (h : b.markerAt? text = some p) : b.Supplied p := by
  have hp := List.find?_some h
  rw [Bool.and_eq_true] at hp
  exact ⟨List.mem_of_find?_eq_some h, hp.1⟩

theorem markerAt?_ne_none {p : String} (hp : b.Supplied p) (h : marker p <+: text) :
    b.markerAt? text ≠ none := by
  intro hnone
  have hfail := List.find?_eq_none.mp hnone p hp.1
  rw [hp.2, List.isPrefixOf_iff_prefix.mpr h] at hfail
  exact hfail rfl

/-- What does not start with a brace starts no marker. -/
theorem pieces_append {w : List Char} (hw : '\x7b' ∉ w) (s : List Char) :
    b.pieces (w ++ s) = w.map Piece.char ++ b.pieces s := by
  induction w with
  | nil => rfl
  | cons c w ih =>
    have hnone : b.markerAt? (c :: (w ++ s)) = none := by
      cases h : b.markerAt? (c :: (w ++ s)) with
      | none => rfl
      | some p =>
        obtain ⟨after, hafter⟩ := prefix_of_markerAt? h
        have hc : '\x7b' = c := (List.cons.inj hafter).1
        exact absurd (hc ▸ List.mem_cons_self ..) hw
    rw [List.cons_append, pieces, hnone]
    show Piece.char c :: b.pieces (w ++ s) = _
    rw [ih (mt (List.mem_cons_of_mem c) hw), List.map_cons, List.cons_append]

/-- Characters are written as they are. -/
theorem flatMap_write_char (done : List String) (cs : List Char) :
    (cs.map Piece.char).flatMap (b.write done) = cs := by
  induction cs with
  | nil => rfl
  | cons c cs ih => rw [List.map_cons, List.flatMap_cons, ih, write, List.singleton_append]

/-- Pieces that are passed go to the pieces before the marker. -/
theorem exists_split_append (l : List Piece) {ps : List Piece} {before after : List Char}
    (h : ∃ l' r, ps = l' ++ .marker next :: r ∧ next ∉ done
      ∧ l'.flatMap (b.write done) = before ∧ r.flatMap (b.write done) = after) :
    ∃ l' r, l ++ ps = l' ++ .marker next :: r ∧ next ∉ done
      ∧ l'.flatMap (b.write done) = l.flatMap (b.write done) ++ before
      ∧ r.flatMap (b.write done) = after := by
  obtain ⟨l', r, hps, hdone, hl, hr⟩ := h
  exact ⟨l ++ l', r, by rw [hps, List.append_assoc], hdone, by rw [List.flatMap_append, hl], hr⟩

section Tidy

variable (hnames : ∀ p, b.Supplied p → '\x7b' ∉ p.toList ∧ '\x7d' ∉ p.toList)
include hnames

/-- A parameter whose marker starts a braced name has that name. -/
theorem toList_of_markerAt? {name cs : List Char} {p : String} (hclose : '\x7d' ∉ name)
    (h : b.markerAt? ('\x7b' :: (name ++ '\x7d' :: cs)) = some p) : p.toList = name := by
  obtain ⟨after, hafter⟩ := prefix_of_markerAt? h
  have hbody : p.toList ++ '\x7d' :: after = name ++ '\x7d' :: cs :=
    (List.cons.inj ((marker_append p after).symm.trans hafter)).2
  exact (name_eq_of_append (hnames p (supplied_of_markerAt? h)).2 hclose hbody).1

/-- A braced name is a marker if a parameter has it, and else ordinary text. -/
theorem pieces_braced {name : List Char} (hopen : '\x7b' ∉ name) (hclose : '\x7d' ∉ name)
    (cs : List Char) : (∃ p, b.Supplied p ∧ p.toList = name
        ∧ b.pieces ('\x7b' :: (name ++ '\x7d' :: cs)) = .marker p :: b.pieces cs)
      ∨ (∀ p, b.Supplied p → p.toList ≠ name)
        ∧ b.pieces ('\x7b' :: (name ++ '\x7d' :: cs))
          = ('\x7b' :: (name ++ ['\x7d'])).map Piece.char ++ b.pieces cs := by
  cases h : b.markerAt? ('\x7b' :: (name ++ '\x7d' :: cs)) with
  | some p =>
    have hp : p.toList = name := toList_of_markerAt? hnames hclose h
    refine .inl ⟨p, supplied_of_markerAt? h, hp, ?_⟩
    rw [pieces, h]
    show Piece.marker p :: b.pieces ((name ++ '\x7d' :: cs).drop (p.toList.length + 1)) = _
    rw [hp, drop_name]
  | none =>
    refine .inr ⟨fun p hp hname => ?_, ?_⟩
    · refine markerAt?_ne_none hp ⟨cs, ?_⟩ h
      rw [marker_append, hname]
    · have hrest : '\x7b' ∉ name ++ ['\x7d'] := by
        rw [List.mem_append, List.mem_singleton, not_or]
        exact ⟨hopen, by decide⟩
      have hpieces := pieces_append (b := b) hrest cs
      rw [List.append_assoc, List.singleton_append] at hpieces
      rw [pieces, h]
      show Piece.char '\x7b' :: b.pieces (name ++ '\x7d' :: cs) = _
      rw [hpieces, List.map_cons, List.cons_append]

/-- **Tidy texts stay apart.** If the names of parameters have no braces, braces in the text and
in the values only stand around names, and no value names a parameter, then no written value
completes a marker. -/
theorem separate_of_tidy
    (hvalues : ∀ p value, b.Supplied p → b.values.get? p = some value →
      Tidy (fun name => ∀ q, b.Supplied q → q.toList ≠ name) value.toList)
    (htext : Tidy (fun _ => True) text) : b.Separate text := by
  intro done next later hperm hsupplied before after
  have hnext : b.Supplied next := ⟨hperm.mem_iff.mp (by simp), hsupplied⟩
  have hclose := (hnames next hnext).2
  induction htext generalizing before with
  | nil =>
    intro h
    rw [pieces, List.flatMap_nil] at h
    cases before <;> cases h
  | @plain c cs hopen hbrace hcs ih =>
    intro h
    have hpieces : b.pieces (c :: cs) = [Piece.char c] ++ b.pieces cs :=
      pieces_append (b := b) (w := [c])
        (by rw [List.mem_singleton]; exact fun hc => hopen hc.symm) cs
    rw [hpieces] at h ⊢
    cases before with
    | nil => exact absurd (List.cons.inj h).1 hopen
    | cons d before =>
      obtain ⟨rfl, htail⟩ := List.cons.inj h
      exact exists_split_append [.char c] (ih before htail)
  | @braced name cs hopen hclose' _ hcs ih =>
    intro h
    rcases pieces_braced hnames hopen hclose' cs with ⟨p, hp, hname, hpieces⟩ | ⟨hother, hpieces⟩
    · obtain ⟨value, hvalue⟩ := Option.isSome_iff_exists.mp hp.2
      rw [hpieces, List.flatMap_cons, write_of_some hvalue] at h
      rw [hpieces]
      by_cases hdone : p ∈ done
      · -- The value has been written, and the marker lies behind it.
        rw [if_pos hdone] at h
        obtain ⟨before', rfl, hs⟩ := (hvalues p value hp hvalue).append_eq hclose
          (fun hnone => hnone next hnext rfl) h
        have hwritten : [Piece.marker p].flatMap (b.write done) = value.toList := by
          rw [List.flatMap_singleton, write_of_some hvalue, if_pos hdone]
        rw [← hwritten]
        exact exists_split_append [.marker p] (ih before' hs)
      · rw [if_neg hdone, marker_append, hname] at h
        rcases append_eq_marker hopen hclose' hclose h with ⟨rfl, hnext', hs⟩ | ⟨before', rfl, hs⟩
        · have heq : p = next := String.toList_inj.mp (hname.trans hnext')
          subst heq
          exact ⟨[], b.pieces cs, rfl, hdone, rfl, hs⟩
        · have hwritten : [Piece.marker p].flatMap (b.write done) ++ before'
              = '\x7b' :: (name ++ '\x7d' :: before') := by
            rw [List.flatMap_singleton, write_of_some hvalue, if_neg hdone, marker_append, hname]
          rw [← hwritten]
          exact exists_split_append [.marker p] (ih before' hs)
    · rw [hpieces, List.flatMap_append, flatMap_write_char, List.cons_append, List.append_assoc,
        List.singleton_append] at h
      rw [hpieces]
      rcases append_eq_marker hopen hclose' hclose h with ⟨-, hnext', -⟩ | ⟨before', rfl, hs⟩
      · exact absurd hnext'.symm (hother next hnext)
      · have hwritten : (('\x7b' :: (name ++ ['\x7d'])).map Piece.char).flatMap (b.write done)
            ++ before'
            = '\x7b' :: (name ++ '\x7d' :: before') := by
          rw [flatMap_write_char, List.cons_append, List.append_assoc, List.singleton_append]
        rw [← hwritten]
        exact exists_split_append _ (ih before' hs)

end Tidy

end Binding

/-! ## Bodies -/

/-- The texts of a node itself. -/
def Node.texts (n : Node) : List String := n.content :: n.properties.entries.map Prod.snd

/-- The texts in the body of a component. -/
def Component.texts (c : Component) : List String := (Node.preorderAll c.body).flatMap Node.texts

mutual

theorem Node.mapAll_congr {f g : Node → Node} (n : Node) (h : ∀ m ∈ n.preorder, f m = g m) :
    n.mapAll f = n.mapAll g := by
  match n with
  | ⟨kind, properties, content, children, state, line⟩ =>
    rw [Node.preorder] at h
    have hchildren := Node.mapAllList_congr children fun m hm => h m (List.mem_cons_of_mem _ hm)
    rw [Node.mapAll, Node.mapAll, hchildren, h _ (List.mem_cons_self ..)]

theorem Node.mapAllList_congr {f g : Node → Node} (ns : List Node)
    (h : ∀ m ∈ Node.preorderAll ns, f m = g m) : Node.mapAllList f ns = Node.mapAllList g ns := by
  match ns with
  | [] => rfl
  | n :: ns =>
    rw [Node.preorderAll] at h
    have hn := Node.mapAll_congr n fun m hm => h m (List.mem_append_left _ hm)
    have hns := Node.mapAllList_congr ns fun m hm => h m (List.mem_append_right _ hm)
    rw [Node.mapAllList, Node.mapAllList, hn, hns]

end

/-- Bindings that agree on the texts of a body bind it to the same nodes. -/
theorem Binding.applyBody_congr {a b : Binding} {c : Component}
    (h : ∀ text ∈ c.texts, a.apply text = b.apply text) :
    a.applyBody c.body = b.applyBody c.body := by
  refine Node.mapAllList_congr c.body fun n hn => ?_
  have htext {text : String} (ht : text ∈ n.texts) : a.apply text = b.apply text :=
    h text (List.mem_flatMap.mpr ⟨n, hn, ht⟩)
  have hproperties : n.properties.mapValues a.apply = n.properties.mapValues b.apply := by
    refine OrderedMap.ext_entries (List.map_congr_left fun e he => ?_)
    rw [htext (List.mem_cons_of_mem _ (List.mem_map_of_mem he))]
  unfold Binding.applyNode
  rw [hproperties, htext (List.mem_cons_self ..)]

/-- **Binding is simultaneous substitution where no written value completes a marker.** Let a
component be used, and let the texts of its body that are more than the name of a parameter be
such that in whatever order the values are written, the markers of the next parameter are those
that the text had. Then each of these texts is bound by writing the values in place of its markers
at once, a text that is just a name is replaced by the value, and the usage expands to the same
nodes in every order of the parameters. -/
theorem Expansion.usage_binds_simultaneously (c : Component) (usage : Node)
    (h : ∀ text ∈ c.texts, Binding.isName ⟨c.parameters, usage.properties⟩ text = false →
      Binding.Separate ⟨c.parameters, usage.properties⟩ text.toList) :
    let b : Binding := ⟨c.parameters, usage.properties⟩
    (∀ text ∈ c.texts, b.isName text = false →
      b.apply text = String.ofList (b.substitute text.toList))
    ∧ (∀ text ∈ c.texts, b.isName text = true →
      b.values.get? (Text.trimmed text) = some (b.apply text))
    ∧ ∀ parameters : List String, parameters.Perm c.parameters →
      (∀ enter scopes groups, (ofUsage enter scopes { c with parameters } usage groups).nodes
        = (ofUsage enter scopes c usage groups).nodes)
      ∧ ∀ e : Expander,
          (e.expandUsage { c with parameters } usage).1 = (e.expandUsage c usage).1 := by
  intro b
  refine ⟨fun text ht hname => ?_, fun text _ hname => Binding.apply_of_isName hname,
    fun parameters hperm => ?_⟩
  · exact Binding.apply_perm hname (h text ht hname) (List.Perm.refl c.parameters)
  · have hbody : Binding.applyBody ⟨parameters, usage.properties⟩ c.body = b.applyBody c.body := by
      refine Binding.applyBody_congr fun text ht => ?_
      cases hname : b.isName text with
      | false =>
        rw [Binding.apply_perm (b := b) hname (h text ht hname) (List.Perm.refl b.parameters)]
        exact Binding.apply_perm (b := b) hname (h text ht hname) hperm
      | true =>
        have hname' : Binding.isName ⟨parameters, usage.properties⟩ text = true := by
          rw [← hname]
          show (parameters.contains _ && _) = (c.parameters.contains _ && _)
          rw [hperm.contains_eq]
        exact Option.some.inj
          ((Binding.apply_of_isName hname').symm.trans (Binding.apply_of_isName hname))
    have hnodes :
        ∀ enter scopes groups, (ofUsage enter scopes { c with parameters } usage groups).nodes
        = (ofUsage enter scopes c usage groups).nodes := by
      intro enter scopes groups
      unfold ofUsage
      show (enter _ (Binding.applyBody ⟨parameters, usage.properties⟩ c.body)).nodes = _
      rw [hbody]
    refine ⟨hnodes, fun e => ?_⟩
    rw [Expander.expandUsage_does ⟨rfl, rfl⟩, Expander.expandUsage_does ⟨rfl, rfl⟩]
    exact hnodes _ _ _

/-- A component that shows a parameter beside an entry of the state. -/
def greeting : Component where
  name := "Greeting"
  parameters := ["who", "tone"]
  body := [
    { kind := "Text"
      properties := .ofList [("color", "tone")]
      content := "\x7bwho\x7d: \x7bcount\x7d"
      line := 2 }]
  line := 1

/-- A usage that passes a marker of its own. -/
def greetingUsage : Node where
  kind := "Greeting"
  properties := .ofList [("who", "dear \x7buser\x7d"), ("tone", "red")]
  line := 3

/-- The marker that comes with a value is left alone, and so is one that names no parameter. -/
theorem usage_binds_simultaneously_greeting :
    let b : Binding := ⟨greeting.parameters, greetingUsage.properties⟩
    b.Separate "\x7bwho\x7d: \x7bcount\x7d".toList
    ∧ b.apply "\x7bwho\x7d: \x7bcount\x7d" = "dear \x7buser\x7d: \x7bcount\x7d"
    ∧ b.apply "tone" = "red" := by
  intro b
  have hsupplied {p : String} (hp : b.Supplied p) : p = "who" ∨ p = "tone" := by
    have hmem : p ∈ ["who", "tone"] := hp.1
    simpa using hmem
  have hseparate : b.Separate "\x7bwho\x7d: \x7bcount\x7d".toList := by
    refine Binding.separate_of_tidy (fun p hp => ?_) (fun p value hp hvalue => ?_) ?_
    · rcases hsupplied hp with rfl | rfl <;> decide
    · rcases hsupplied hp with rfl | rfl
      · cases hvalue
        have huser : Binding.Tidy (fun name => ∀ q, b.Supplied q → q.toList ≠ name)
            ('\x7b' :: ("user".toList ++ '\x7d' :: [])) := by
          refine .braced (by decide) (by decide) (fun q hq => ?_) .nil
          rcases hsupplied hq with rfl | rfl <;> decide
        exact Binding.Tidy.append (w := "dear ".toList) (by decide) (by decide) huser
      · cases hvalue
        exact Binding.Tidy.append (w := "red".toList) (by decide) (by decide) .nil
    · have hcount : Binding.Tidy (fun _ => True) ('\x7b' :: ("count".toList ++ '\x7d' :: [])) :=
        .braced (by decide) (by decide) trivial .nil
      have hcolon := Binding.Tidy.append (w := ": ".toList) (by decide) (by decide) hcount
      have hwho :
          Binding.Tidy (fun _ => True) ('\x7b' :: ("who".toList ++ '\x7d' :: (": ".toList ++ _))) :=
        .braced (by decide) (by decide) trivial hcolon
      exact hwho
  have htexts : ∀ text ∈ greeting.texts, b.isName text = false → b.Separate text.toList := by
    intro text htext hname
    have hmem : text ∈ ["\x7bwho\x7d: \x7bcount\x7d", "tone"] := htext
    rw [List.mem_cons, List.mem_singleton] at hmem
    rcases hmem with rfl | rfl
    · exact hseparate
    · exact absurd hname (by decide +kernel)
  obtain ⟨hmarkers, hnames, -⟩ := Expansion.usage_binds_simultaneously greeting greetingUsage htexts
  refine ⟨hseparate, ?_, ?_⟩
  · rw [hmarkers _ (by decide +kernel) (by decide +kernel)]
    decide +kernel
  · have htone : b.values.get? (Text.trimmed "tone") = some "red" := by decide +kernel
    exact Option.some.inj ((hnames "tone" (by decide +kernel) (by decide +kernel)).symm.trans htone)

/-- **A value that has been written is read again.** A value that is the marker of a parameter
still to come is replaced in its turn, and a value without braces completes a marker when it
stands in braces. With the parameters declared the other way round both are left alone, as
simultaneous substitution has it. -/
theorem Binding.substitutes_again :
    let marked : OrderedMap String := .ofList [("a", "\x7bb\x7d"), ("b", "X")]
    let plain : OrderedMap String := .ofList [("a", "b"), ("b", "X")]
    apply ⟨["a", "b"], marked⟩ "\x7ba\x7d" = "X"
    ∧ substitute ⟨["a", "b"], marked⟩ "\x7ba\x7d".toList = "\x7bb\x7d".toList
    ∧ apply ⟨["b", "a"], marked⟩ "\x7ba\x7d" = "\x7bb\x7d"
    ∧ apply ⟨["a", "b"], plain⟩ "\x7b\x7ba\x7d\x7d" = "X"
    ∧ substitute ⟨["a", "b"], plain⟩ "\x7b\x7ba\x7d\x7d".toList = "\x7bb\x7d".toList
    ∧ apply ⟨["b", "a"], plain⟩ "\x7b\x7ba\x7d\x7d" = "\x7bb\x7d" := by
  decide +kernel

end PageLang
