import PageLang.Proofs.Document.Parsing
import PageLang.Proofs.Expr.Balanced
import PageLang.Proofs.Properties.Listing
import PageLang.Proofs.Text.Split

/-!
# Actions on a line

Two scanners read the action of a button. The one that cuts the line into properties knows quotes
and brackets but no backslash; the one that reads the action knows strings in which a backslash
keeps the next quote from ending them. The line `button action: p : c` gives the button with the
action `p` and the content `c` only where the two agree:

> `Document.parse_actionLine`: an accepted action reaches the button intact if and only if it is
> sealed against commas and colons, and it is if none of its strings holds the quote that is
> around it.

A backslash before a quote is what makes the difference (`Document.escaped_quote_takes_content`):
the first scanner takes the string to be over and the rest of the line for a new one.

That an action that is not sealed cannot reach the button by a later pair either follows from
lengths: a key, a colon, its value and the content need as much room as they have characters
(`Properties.fits_addPairs`).
-/

namespace PageLang

open Text (isBlank isQuote trim trimStart trimEnd stripQuotes? stored)

/-! ## What a list of pairs can hold -/

namespace Properties

theorem length_stored_le (value : List Char) : (stored value).length ≤ (trim value).length := by
  unfold stored
  cases trim value with
  | nil => exact Nat.le_refl 0
  | cons q rest =>
    rw [stripQuotes?]
    split
    · rw [Option.getD_some, List.length_dropLast, List.length_cons]
      omega
    · exact Nat.le_refl _

/-- A value that starts with no quote is stored as it is, trimmed. -/
theorem stored_of_head? {value : List Char} (h : ∀ c ∈ (trim value).head?, isQuote c = false) :
    stored value = trim value := by
  unfold stored
  cases hvalue : trim value with
  | nil => rfl
  | cons q rest =>
    rw [hvalue] at h
    rw [stripQuotes?, h q rfl, Bool.false_and, if_neg Bool.false_ne_true]
    rfl

theorem content_put (p : Properties) (key value : List Char) :
    (p.put key value).content = p.content := by
  unfold put
  dsimp only
  split <;> rfl

/-- What is found after entering a pair was there or is the pair. -/
theorem get?_put {p : Properties} {key value : List Char} {k v : String}
    (h : (p.put key value).pairs.get? k = some v) :
    p.pairs.get? k = some v ∨ k = String.ofList key ∧ v = String.ofList (stored value) := by
  unfold put at h
  dsimp only at h
  split at h
  · exact .inl h
  · rw [OrderedMap.get?_insert] at h
    split at h
    · next hk => exact .inr ⟨hk, (Option.some.inj h).symm⟩
    · exact .inl h

/-- Setting a piece aside changes neither pairs nor content. -/
theorem setAside_eq (p : Properties) (piece : List Char) :
    (p.setAside piece).pairs = p.pairs ∧ (p.setAside piece).content = p.content := by
  unfold setAside
  split <;> exact ⟨rfl, rfl⟩

/-- A key is followed by a colon within the text. -/
theorem room_of_key? {cs : List Char} {n start : Nat} (h : key? cs = some (n, start)) :
    (cs.take n).length + 1 + (cs.drop start).length ≤ cs.length := by
  unfold key? at h
  dsimp only at h
  split at h
  · next rest hrest =>
    split at h
    · cases h
    · cases h
      have hlength := congrArg List.length hrest
      rw [List.length_drop, List.length_cons] at hlength
      rw [List.length_take, List.length_drop]
      omega
  · cases h

/-- The content of `r`, and every pair of `r` that `p` does not have together with the content,
fit into `size` characters. -/
structure Fits (p r : Properties) (size : Nat) : Prop where
  content : r.content.length ≤ size
  pair : ∀ k v, r.pairs.get? k = some v →
    p.pairs.get? k = some v ∨ k.length + 1 + v.length + r.content.length ≤ size

theorem fits_of_pairs {p r : Properties} (h : r.pairs = p.pairs) {size : Nat}
    (hcontent : r.content.length ≤ size) : Fits p r size :=
  ⟨hcontent, fun _ _ hv => .inl (h ▸ hv)⟩

/-- A pair that was put in before leaves room for the rest. -/
theorem Fits.of_put {p r : Properties} {key value : List Char} {size total : Nat}
    (h : Fits (p.put key value) r size) (hroom : key.length + 1 + value.length + size ≤ total) :
    Fits p r total where
  content := by
    have := h.content
    omega
  pair k v hv := by
    have hcontent := h.content
    rcases h.pair k v hv with hput | hfits
    · rcases get?_put hput with hold | ⟨rfl, rfl⟩
      · exact .inl hold
      · have hvalue := (length_stored_le value).trans (Text.length_trim_le value)
        rw [String.length_ofList, String.length_ofList]
        omega
    · omega

/-- **Pairs and content do not overlap.** What is added fits into the text. -/
theorem fits_addPairs (p : Properties) (first : Bool) (cs : List Char) (hp : p.content = "") :
    Fits p (addPairs p first cs) cs.length := by
  fun_induction addPairs p first cs with
  | case1 p first => exact fits_of_pairs rfl (by simp [hp])
  | case2 p c rest cs hkey =>
    -- The text does not start with a pair, and all of it is content.
    refine fits_of_pairs (by rfl) ?_
    rw [String.length_ofList]
    exact Text.length_trim_le _
  | case3 p first c rest cs hkey hfirst n ih =>
    -- A later piece that is no pair is set aside.
    obtain ⟨hpairs, hcontent⟩ := setAside_eq p (trim (cs.take n))
    have hfits := ih (hcontent.trans hp)
    have hrest : (trimStart (rest.drop n)).length ≤ cs.length := by
      have := Text.length_trimStart_le (rest.drop n)
      rw [List.length_drop] at this
      simp only [cs, List.length_cons]
      omega
    refine ⟨hfits.content.trans hrest, fun k v h => ?_⟩
    rw [← hpairs]
    exact (hfits.pair k v h).imp_right (·.trans hrest)
  | case4 p first c rest cs n start hkey key region hfind =>
    -- Nothing ends the value of the pair; else a comma ends it, or a colon, behind which there is
    -- content.
    have hput : Fits (p.put key region) (p.put key region) 0 :=
      fits_of_pairs rfl (by simp [content_put, hp])
    exact hput.of_put (room_of_key? hkey)
  | case5 p first c rest cs n start hkey key region k hfind ih =>
    refine (ih ((content_put ..).trans hp)).of_put ?_
    have hrest := Text.length_trimStart_le (region.drop (k + 1))
    have hroom : key.length + 1 + region.length ≤ cs.length := room_of_key? hkey
    have htake := List.length_take (i := k) (l := region)
    rw [List.length_drop] at hrest
    show key.length + 1 + (region.take k).length + _ ≤ cs.length
    omega
  | case6 p first c rest cs n start hkey key region k stop hfind hstop =>
    have hput : Fits (p.put key (region.take k))
        { p.put key (region.take k) with content := String.ofList (trim (region.drop (k + 1))) }
        (region.length - (k + 1)) := by
      refine fits_of_pairs (by rfl) ?_
      rw [String.length_ofList, ← List.length_drop]
      exact Text.length_trim_le _
    refine hput.of_put ?_
    have hroom : key.length + 1 + region.length ≤ cs.length := room_of_key? hkey
    have htake := List.length_take (i := k) (l := region)
    show key.length + 1 + (region.take k).length + _ ≤ cs.length
    omega

/-! ## An action and a content -/

section Action

variable {action content : List Char}

theorem isBlank_space : isBlank ' ' = true := by decide

theorem isKey_action : IsKey "action".toList := by decide

/-- What stands after the key. -/
def afterKey (action tail : List Char) : List Char := ' ' :: (action ++ ' ' :: ':' :: tail)

/-- What stands after the tag of the line. -/
def actionText (action content : List Char) : List Char :=
  ' ' :: ("action".toList ++ ':' :: afterKey action (' ' :: content))

/-- Of the text of an action, only the blanks at its end are trimmed. -/
theorem trim_actionText (action content : List Char) :
    trim (actionText action content) = "action".toList ++ ':' :: afterKey action
      (trimEnd (' ' :: content)) := by
  have htext (tail : List Char) : "action".toList ++ ':' :: afterKey action tail
      = ("action".toList ++ ':' :: ' ' :: (action ++ [' '])) ++ ':' :: tail := by
    rw [afterKey, List.append_assoc]
    simp only [List.cons_append, List.append_assoc, List.nil_append]
  have hhead : ∀ c ∈ ("action".toList ++ ':' :: afterKey action (' ' :: content)).head?,
      isBlank c = false := by
    rintro c ⟨⟩
    decide
  rw [actionText, Text.trim_blank_cons, trim, Text.trimStart_eq_self hhead, htext,
    Text.trimEnd_append_cons (by decide), htext]

variable (hne : action ≠ []) (hquote : ∀ c ∈ action.head?, isQuote c = false)
  (haction : trim action = action)

include hne hquote haction

/-- A sealed action is stored as it is, and the content is what follows it. -/
theorem ofText_actionText (hcontent : trim content = content) (h : Sealed isSeparator action) :
    ofText (actionText action content)
      = ⟨(∅ : OrderedMap String).insert "action" (String.ofList action), String.ofList content,
        []⟩ := by
  have hvalue : Sealed isSeparator (' ' :: (action ++ [' '])) :=
    sealed_blank.append (h.append sealed_blank)
  have htrim : trim (' ' :: (action ++ [' '])) = action := by
    rw [Text.trim_blank_cons, Text.trim_append_of_blank (by simpa using isBlank_space), haction]
  have hstored : stored (' ' :: (action ++ [' '])) = action := by
    rw [stored_of_head? (by rwa [htrim]), htrim]
  have hregion : afterKey action (trimEnd (' ' :: content))
      = (' ' :: (action ++ [' '])) ++ ':' :: trimEnd (' ' :: content) := by simp [afterKey]
  rw [ofText_of_trim (trim_actionText action content) isKey_action, hregion,
    addPairs_colon {} true isKey_action hvalue,
    put_of_ne_nil {} isKey_action.ne_nil (by rwa [hstored]), hstored, Text.trim_trimEnd,
    Text.trim_blank_cons, hcontent]
  rfl

/-- A value that goes on behind the colon is longer than the action. -/
theorem length_stored_afterKey (tail : List Char) :
    action.length < (stored (afterKey action tail)).length := by
  obtain ⟨a, as, rfl⟩ := List.exists_cons_of_ne_nil hne
  have hblank : isBlank a = false := (Text.trim_eq_self_iff.mp haction).1 a rfl
  have htrim : trim (afterKey (a :: as) tail) = a :: as ++ ' ' :: ':' :: trimEnd tail := by
    have hsplit : a :: as ++ ' ' :: ':' :: tail = (a :: as ++ [' ']) ++ ':' :: tail := by simp
    rw [afterKey, Text.trim_blank_cons, trim, Text.trimStart_eq_self (by rintro c ⟨⟩; exact hblank),
      hsplit, Text.trimEnd_append_cons (by decide)]
    simp
  rw [stored_of_head? (by rw [htrim]; exact hquote), htrim]
  simp only [List.length_append, List.length_cons]
  omega

/-- A part of the line after the key that is stored as the action ends right behind the action, or
right before the colon. -/
theorem length_of_stored_take {tail : List Char} {k : Nat}
    (h : stored ((afterKey action tail).take k) = action) :
    k = action.length + 1 ∨ k = action.length + 2 := by
  have hle := length_stored_le ((afterKey action tail).take k)
  rw [h] at hle
  rcases Nat.lt_or_ge k (action.length + 1) with hshort | hlong
  · -- What is cut off before the end of the action is too short.
    exfalso
    cases k with
    | zero => exact absurd hle (by simpa [trim, trimStart, trimEnd] using hne)
    | succ k =>
      rw [afterKey, List.take_succ_cons, Text.trim_blank_cons] at hle
      have := Text.length_trim_le ((action ++ ' ' :: ':' :: tail).take k)
      rw [List.length_take] at this
      omega
  · rcases Nat.lt_or_ge k (action.length + 3) with hnear | hfar
    · omega
    · exfalso
      obtain ⟨j, rfl⟩ := Nat.exists_eq_add_of_le hfar
      have htake : (afterKey action tail).take (action.length + 3 + j) = afterKey action
          (tail.take j) := by
        rw [show action.length + 3 + j = (action.length + (j + 2)) + 1 by omega, afterKey,
          List.take_succ_cons, List.take_length_add_append, List.take_succ_cons,
          List.take_succ_cons, afterKey]
      have hpast := length_stored_afterKey hne hquote haction (tail.take j)
      rw [← htake, h] at hpast
      exact Nat.lt_irrefl _ hpast

omit hne hquote haction in
/-- Behind a comma there is no room for the action and the content once more. -/
theorem get?_of_addPairs_afterKey {p : Properties} (hp : p.content = "") {k : Nat}
    (hstored :
      (addPairs p false
        (trimStart ((afterKey action (trimEnd (' ' :: content))).drop (k + 1)))).pairs.get?
      "action" = some (String.ofList action))
    (hcontent :
      (addPairs p false
        (trimStart ((afterKey action (trimEnd (' ' :: content))).drop (k + 1)))).content
      = String.ofList content) :
    p.pairs.get? "action" = some (String.ofList action) := by
  refine ((fits_addPairs p false _ hp).pair _ _ hstored).resolve_right fun hroom => ?_
  have hkey : "action".length = 6 := by decide
  have hrest := Text.length_trimStart_le ((afterKey action (trimEnd (' ' :: content))).drop (k + 1))
  have htail := Text.length_trimEnd_le (' ' :: content)
  rw [hcontent, hkey, String.length_ofList, String.length_ofList] at hroom
  rw [afterKey] at hrest hroom
  simp only [List.length_drop, List.length_append, List.length_cons] at hrest htail
  omega

/-- An action that is stored as it is, before the content that follows it, is sealed. -/
theorem sealed_of_ofText_actionText
    (hstored : (ofText (actionText action content)).pairs.get? "action"
      = some (String.ofList action))
    (hcontent : (ofText (actionText action content)).content = String.ofList content) :
    Sealed isSeparator action := by
  rw [ofText_of_trim (trim_actionText action content) isKey_action,
    addPairs_pair {} true isKey_action]
    at hstored hcontent
  have hput {value : List Char}
      (h : (put {} "action".toList value).pairs.get? "action" = some (String.ofList action)) :
      stored value = action := by
    rcases get?_put h with h | ⟨-, h⟩
    · cases h
    · exact (String.ofList_injective h).symm
  cases hfind : find? isSeparator (afterKey action (trimEnd (' ' :: content))) with
  | none =>
    -- The value is all that follows the key, which is more than the action.
    rw [hfind] at hstored
    have hpast := length_stored_afterKey hne hquote haction (trimEnd (' ' :: content))
    rw [hput hstored] at hpast
    exact absurd hpast (Nat.lt_irrefl _)
  | some found =>
    obtain ⟨k, stop⟩ := found
    rw [hfind, Option.elim_some] at hstored hcontent
    -- After a comma a later pair could give the action too, but then there is no room for the
    -- content.
    have hvalue : stored ((afterKey action (trimEnd (' ' :: content))).take k) = action := by
      apply hput
      split at hstored
      · next hcomma =>
        rw [if_pos hcomma] at hcontent
        exact get?_of_addPairs_afterKey (content_put ..) hstored hcontent
      · exact hstored
    obtain ⟨hsealed, hstop, -, rest, hsplit⟩ := sealed_of_find? separators_isSeparator hfind
    rcases length_of_stored_take hne hquote haction hvalue with rfl | rfl
    · -- What stands right behind the action is a blank and ends no value.
      have htake : (afterKey action (trimEnd (' ' :: content))).take (action.length + 1)
          = ' ' :: action := by
        rw [afterKey, List.take_succ_cons, List.take_left]
      rw [htake] at hsplit
      cases List.append_cancel_left (List.cons.inj hsplit).2
      exact absurd hstop (by decide)
    · have htake : (afterKey action (trimEnd (' ' :: content))).take (action.length + 2)
          = ' ' :: (action ++ [' ']) := by
        rw [afterKey, List.take_succ_cons, List.take_length_add_append, List.take_succ_cons,
          List.take_zero]
      rw [htake] at hsealed
      exact (hsealed.of_cons (by decide)).of_concat (by decide)

end Action

end Properties

/-! ## Documents of one line -/

theorem isBlank_of_isTagChar {c : Char} (h : isTagChar c = true) : isBlank c = false := by
  simp only [isTagChar, Bool.or_eq_true, decide_eq_true_eq] at h
  rcases h with (h | rfl) | rfl
  · exact Text.inRanges_eq_false_of_apart (by decide) (Text.inRanges_of_isAlphanum h)
  all_goals decide

/-- The tag ends at the first character that cannot be in one. -/
theorem splitTag_append {tag cs : List Char} (htag : ∀ c ∈ tag, isTagChar c = true)
    (hcs : ∀ c ∈ cs.head?, isTagChar c = false) : splitTag (tag ++ cs) = (tag, cs) := by
  rw [splitTag, List.span_eq_takeWhile_dropWhile, Text.takeWhile_append_of_stop htag hcs,
    List.dropWhile_append_of_pos htag]
  cases cs with
  | nil => rfl
  | cons c cs => rw [List.dropWhile_cons_of_neg (by simp [hcs c rfl])]

section OneLine

variable {tag rest : List Char} (hne : tag ≠ []) (htag : ∀ c ∈ tag, isTagChar c = true)

include hne htag

/-- A line that starts with its tag is trimmed at its end only. -/
theorem trim_tag (rest : List Char) : trim (tag ++ rest) = tag ++ trimEnd rest := by
  have hstart : trimStart (tag ++ rest) = tag ++ rest := by
    obtain ⟨t, ts, rfl⟩ := List.exists_cons_of_ne_nil hne
    refine Text.trimStart_eq_self ?_
    rintro c ⟨⟩
    exact isBlank_of_isTagChar (htag t (List.mem_cons_self ..))
  rw [trim, hstart, Text.trimEnd_append fun c hc => isBlank_of_isTagChar
    (htag c (List.mem_of_getLast? hc))]

/-- A text that starts with a tag and has no line break is one line. -/
theorem Line.ofSource_tag {source : String} (hsource : source.toList = tag ++ rest)
    (hbreak : '\n' ∉ rest) : Line.ofSource source = [⟨1, 0, 0, tag ++ trimEnd rest⟩] := by
  have hpieces : Text.splitBy (· = '\n') (tag ++ rest) = [tag ++ rest] := by
    refine Text.splitBy_of_forall fun c hc => decide_eq_false ?_
    rcases List.mem_append.mp hc with hc | hc
    · rintro rfl
      exact absurd (htag _ hc) (by decide)
    · rintro rfl
      exact hbreak hc
  have htrim := trim_tag hne htag rest
  obtain ⟨t, ts, rfl⟩ := List.exists_cons_of_ne_nil hne
  have ht := htag t (List.mem_cons_self ..)
  have hleading : (t :: ts ++ rest).takeWhile isBlank = [] :=
    List.takeWhile_cons_of_neg (by simp [isBlank_of_isTagChar ht])
  have hraw : Line.ofRaw? 1 0 (t :: ts ++ rest) = some ⟨1, 0, 0, t :: ts ++ trimEnd rest⟩ := by
    unfold Line.ofRaw?
    dsimp only
    rw [hleading, htrim]
    split
    · next heq => cases heq
    · next heq =>
      cases heq
      exact absurd ht (by decide)
    · rfl
  rw [Line.ofSource, hsource, hpieces, Line.ofPieces, hraw, Line.ofPieces]

variable (hname : tag ∉ ["page".toList, "state".toList, "component".toList])
  (hrest : ∀ c ∈ rest.head?, isTagChar c = false)

include hname hrest

/-- A line with a tag is an element with the properties behind the tag. -/
theorem Line.content_tag {l : Line} (hl : l.text = tag ++ trimEnd rest) :
    l.content = .element tag (.ofText rest) := by
  have hhead : ∀ c ∈ (trimEnd rest).head?, isTagChar c = false := by
    obtain ⟨es, hes, -⟩ := Text.exists_eq_trimEnd_append rest
    intro c hc
    refine hrest c ?_
    rw [hes, List.head?_append, Option.mem_def.mp hc]
    rfl
  have hproperties : Properties.ofText (trimEnd rest) = Properties.ofText rest := by
    rw [Properties.ofText, Properties.ofText, Text.trim_trimEnd]
  simp only [List.mem_cons, List.not_mem_nil, or_false, not_or] at hname
  unfold Line.content
  rw [hl, splitTag_append htag hhead]
  dsimp only
  rw [if_neg hne, if_neg hname.1, if_neg hname.2.1, if_neg hname.2.2, hproperties]

end OneLine

/-- The document of one line that holds an element. -/
theorem Document.parse_of_line {source : String} {l : Line} {tag : List Char} {p : Properties}
    (hsource : Line.ofSource source = [l]) (hcontent : l.content = .element tag p) :
    Document.parse source = .ok ⟨Node.page none [{
        kind := Node.kindOfTag tag, properties := p.pairs, content := p.content, line :=
  l.number }], [],
      p.skipped.map fun s => (Finding.skippedPair s).onLine l.number⟩ := by
  obtain ⟨n, hn⟩ : ∃ n : Node, n = {
      kind := Node.kindOfTag tag, properties := p.pairs, content := p.content, line := l.number } :=
        ⟨_, rfl⟩
  have hentries : Entry.ofLines [l] = [.line l] := by
    rw [Entry.ofLines, hcontent]
    dsimp only
    rw [Entry.ofLines]
  have hnode : l.node? = some n := by
    rw [Line.node?, hcontent, hn]
  have hlines : NodeLine.ofLines (Entry.ownLines [.line l]) = [⟨l, n⟩] := by
    simp [NodeLine.ofLines, Entry.ownLines, hnode]
  have hmisplaced : Entry.misplacedIn? [.line l] = none := by
    rw [Entry.misplacedIn?, Entry.ownMisplaced?, hlines]
    simp [misplaced?, Entry.bodyMisplaced?, Entry.earlier]
  have hreport : Entry.report none [.line l]
      = (none, p.skipped.map fun s => (Finding.skippedPair s).onLine l.number) := by
    simp [Entry.report, lineFindings, hcontent, Function.comp_def]
  have htrees : Entry.nodes [.line l] = [n] := by
    rw [Entry.nodes, hlines]
    simp [forest, hn]
  rw [Document.parse_eq, hsource, hentries, Entry.document, hmisplaced]
  dsimp only
  rw [hreport, htrees, hn, Entry.components, Entry.components]

/-- The document of a text that is one line with a tag. -/
theorem Document.parse_of_tag {source : String} {tag rest : List Char}
    (hsource : source.toList = tag ++ rest) (hne : tag ≠ []) (htag : ∀ c ∈ tag, isTagChar c = true)
    (hname : tag ∉ ["page".toList, "state".toList, "component".toList])
    (hrest : ∀ c ∈ rest.head?, isTagChar c = false) (hbreak : '\n' ∉ rest) {p : Properties}
    (hp : Properties.ofText rest = p) :
    Document.parse source = .ok ⟨Node.page none [{
        kind := Node.kindOfTag tag, properties := p.pairs, content := p.content, line := 1 }], [],
      p.skipped.map fun s => (Finding.skippedPair s).onLine 1⟩ :=
  Document.parse_of_line (Line.ofSource_tag hne htag hsource hbreak)
    (hp ▸ Line.content_tag hne htag hname hrest rfl)

/-! ## The line of an action -/

/-- A button with an action and a content, on a line of its own. -/
def actionLine (action content : String) : String := "button action: " ++ action ++ " : " ++ content

/-- The button that such a line is meant to give. -/
def actionButton (action content : String) : Node where
  kind := "Button"
  properties := (∅ : OrderedMap String).insert "action" action
  content := content
  line := 1

theorem toList_actionLine (action content : String) :
    (actionLine action content).toList = "button".toList ++ Properties.actionText action.toList
      content.toList := by
  have htag :
      "button action: ".toList = "button".toList ++ ' ' :: ("action".toList ++ [':', ' ']) := by
        decide
  have hcolon : " : ".toList = [' ', ':', ' '] := by decide
  show ("button action: " ++ action ++ " : " ++ content).toList = _
  rw [String.toList_append, String.toList_append, String.toList_append, htag, hcolon,
    Properties.actionText, Properties.afterKey]
  generalize "button".toList = tag
  generalize "action".toList = key
  simp

/-- The line gives one button, with what is read after its tag. -/
theorem Document.parse_actionLine_eq {action content : String} (hbreak : '\n' ∉ action.toList)
    (hbreak' : '\n' ∉ content.toList) {p : Properties}
    (hp : Properties.ofText (Properties.actionText action.toList content.toList) = p) :
    Document.parse (actionLine action content) = .ok ⟨Node.page none [{
        kind := "Button", properties := p.pairs, content := p.content, line := 1 }], [],
      p.skipped.map fun s => (Finding.skippedPair s).onLine 1⟩ := by
  have htext : '\n' ∉ Properties.actionText action.toList content.toList := by
    have hkey : '\n' ∉ "action".toList := by decide
    rw [Properties.actionText, Properties.afterKey]
    generalize "action".toList = key at hkey
    simp [hkey, hbreak, hbreak']
  have hkind : Node.kindOfTag "button".toList = "Button" := by decide
  have hparse := Document.parse_of_tag (toList_actionLine action content) (by decide)
    (List.all_eq_true.mp (by decide)) (by decide) (by rintro d ⟨⟩; decide) htext hp
  rwa [hkind] at hparse

/-- **An action reaches its button where the two scanners agree.** The line gives one node on the
page, and it is the button with exactly this action and this content if and only if the action is
sealed against commas and colons. It is whenever no string in the action holds the quote that is
around it. -/
theorem Document.parse_actionLine (action content : String) (program : Program)
    (haccepted : Program.parse action = .ok program) (haction : Text.trimmed action = action)
    (hbreak : '\n' ∉ action.toList) (hcontent : Text.trimmed content = content)
    (hbreak' : '\n' ∉ content.toList) : ∃ button diagnostics,
      Document.parse (actionLine action content) = .ok ⟨Node.page none [button], [], diagnostics⟩
      ∧ (button = actionButton action content
        ↔ Properties.Sealed Properties.isSeparator action.toList)
      ∧ ((∀ l ∈ Token.literals action.toList, l.1 ∉ l.2) →
        button = actionButton action content ∧ diagnostics = []) := by
  obtain ⟨c, rest, hhead, hquote⟩ := Program.exists_head_of_parse haccepted
  have hne : action.toList ≠ [] := by simp [hhead]
  have hfirst : ∀ d ∈ action.toList.head?, isQuote d = false := by
    rw [hhead]
    rintro d ⟨⟩
    exact hquote
  have htrim : trim action.toList = action.toList :=
    String.toList_ofList.symm.trans (congrArg String.toList haction)
  have htrim' : trim content.toList = content.toList :=
    String.toList_ofList.symm.trans (congrArg String.toList hcontent)
  have hread := Properties.ofText_actionText hne hfirst htrim htrim'
  have hsealed :=
    @Properties.sealed_of_ofText_actionText action.toList content.toList hne hfirst htrim
  rw [String.ofList_toList, String.ofList_toList] at hread hsealed
  have hparse := Document.parse_actionLine_eq hbreak hbreak' rfl
  generalize Properties.ofText (Properties.actionText action.toList content.toList)
    = p at hread hsealed hparse
  refine ⟨_, _, hparse, ⟨fun hbutton => ?_, fun h => ?_⟩, fun hquotes => ?_⟩
  · have hpairs : p.pairs = (∅ : OrderedMap String).insert "action" action :=
      congrArg Node.properties hbutton
    have hafter : p.content = content := congrArg Node.content hbutton
    refine hsealed ?_ hafter
    rw [hpairs, OrderedMap.get?_insert, if_pos rfl]
  · rw [hread h]
    rfl
  · rw [hread (Program.sealed_of_parse haccepted hquotes)]
    exact ⟨rfl, rfl⟩

/-- Commas and colons in a call and in strings, and a content that looks like more of the same. -/
theorem Document.parse_actionLine_call :
    let action := "note = pick(\"a, b: (\", n + 1); n++"
    let content := "At 10:30, \"now"
    Document.parse (actionLine action content) = .ok ⟨Node.page none [actionButton action content],
        [], []⟩ := by
  intro action content
  have hliterals : ∀ l ∈ Token.literals action.toList, l.1 ∉ l.2 := by decide +kernel
  have haccepted : (Program.parse action).toOption.isSome = true := by decide +kernel
  cases hprogram : Program.parse action with
  | error e =>
    rw [hprogram] at haccepted
    cases haccepted
  | ok program =>
    obtain ⟨button, diagnostics, hparse, -, hintact⟩ :=
      Document.parse_actionLine action content program hprogram
      (by decide +kernel) (by decide +kernel) (by decide +kernel) (by decide +kernel)
    obtain ⟨rfl, rfl⟩ := hintact hliterals
    exact hparse

/-- **A backslash before a quote hides nothing.** The action is accepted, but the line gives a
button whose action has the content in it and which has no content. -/
theorem Document.escaped_quote_takes_content :
    let action := "x = \"a\\\"b\""
    (Program.parse action).toOption.isSome = true
    ∧ Text.trimmed action = action
    ∧ Document.parse (actionLine action "Go")
      = .ok ⟨Node.page none [actionButton "x = \"a\\\"b\" : Go" ""], [], []⟩ := by
  refine ⟨by decide +kernel, by decide +kernel, ?_⟩
  refine Document.parse_actionLine_eq (by decide +kernel) (by decide +kernel) (p := {
    pairs := (∅ : OrderedMap String).insert "action" "x = \"a\\\"b\" : Go" }) ?_
  decide +kernel

end PageLang
