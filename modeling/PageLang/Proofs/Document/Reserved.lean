import PageLang.Proofs.Document.Quotes
import PageLang.Proofs.Document.Structure
import PageLang.Proofs.Text.Trim

/-!
# Nodes of reserved kinds

A node of kind `State` is meant to declare an entry and nothing else, and the only node of kind
`Page` to be the root; such nodes are `Orderly`. What a line is meant as is read off its tag as it
is written, but the kind of a node is its tag with a capital letter. So a line tagged `State` or
`Page` is an element like any other and yet gives a node of a reserved kind
(`Document.capital_tags_disorderly`). No other spelling does:

> `Document.parse_orderly_iff`: a node of a parsed document is orderly exactly if its line has
> neither of the two tags.
-/

namespace PageLang

/-! ## Capital letters -/

/-- Only small letters of ASCII have another capital form in ASCII. -/
theorem Text.upperChar_of_ascii {c : Char} (h : c.toNat < 0x80) :
    upperChar c = [if 0x61 ≤ c.toNat ∧ c.toNat ≤ 0x7A then Char.ofNat (c.toNat - 32) else c] := by
  have hwide : wideCapitals.lookup c.toNat = none := by
    rw [List.lookup_eq_none_iff]
    intro e he
    have hall : wideCapitals.all (fun e => decide (0x80 ≤ e.1)) = true := by decide
    have hle : 0x80 ≤ e.1 := of_decide_eq_true (List.all_eq_true.mp hall e he)
    simp only [bne_iff_ne]
    omega
  have hothers : capitalRuns.tail.findSome? (·.partner? c.toNat) = none := by
    rw [List.findSome?_eq_none_iff]
    intro run hrun
    have hall : capitalRuns.tail.all (fun run => decide (0x80 ≤ run.first)) = true := by decide
    have hle : 0x80 ≤ run.first := of_decide_eq_true (List.all_eq_true.mp hall run hrun)
    have hnot : ¬ run.first ≤ c.toNat := by omega
    simp [CaseRun.partner?, hnot]
  have hruns : capitalRuns = ⟨0x61, 0x7A, 1, -32⟩ :: capitalRuns.tail := rfl
  have hshift : Int.toNat ((c.toNat : Int) + -32) = c.toNat - 32 := by omega
  rw [upperChar, hwide, hruns, List.findSome?_cons, hothers, CaseRun.partner?, hshift]
  by_cases hsmall : 0x61 ≤ c.toNat ∧ c.toNat ≤ 0x7A <;> simp [hsmall, Nat.mod_one]

theorem toNat_lt_of_isTagChar {c : Char} (h : isTagChar c = true) : c.toNat < 0x80 := by
  simp only [isTagChar, Bool.or_eq_true, decide_eq_true_eq] at h
  rcases h with (h | rfl) | rfl
  · have hranges := Text.inRanges_of_isAlphanum h
    simp only [Text.inRanges, List.any_cons, List.any_nil, Bool.or_eq_true, Bool.and_eq_true,
      decide_eq_true_eq, Bool.or_false] at hranges
    omega
  all_goals decide

/-- Two spellings of a tag stand for a kind: with its capital letter, and with the small one. -/
theorem Node.kindOfTag_eq_iff {tag : List Char} (htag : ∀ c ∈ tag, isTagChar c = true)
    {capital small : Char} (hcapital : 0x41 ≤ capital.toNat ∧ capital.toNat ≤ 0x5A)
    (hsmall : small.toNat = capital.toNat + 32) (rest : List Char) :
    Node.kindOfTag tag = String.ofList (capital :: rest) ↔ tag = capital :: rest
      ∨ tag = small :: rest := by
  cases tag with
  | nil => simp [Node.kindOfTag]
  | cons c cs =>
    have hascii := toNat_lt_of_isTagChar (htag c (List.mem_cons_self ..))
    have hfirst : (if 0x61 ≤ c.toNat ∧ c.toNat ≤ 0x7A then Char.ofNat (c.toNat - 32) else c)
        = capital
        ↔ c = capital ∨ c = small := by
      have hcode : (Char.ofNat (c.toNat - 32)).toNat = c.toNat - 32 := by
        rw [Char.ofNat, dif_pos (.inl (by omega))]
        rfl
      rw [← Char.toNat_inj, ← Char.toNat_inj, ← Char.toNat_inj]
      split <;> omega
    rw [Node.kindOfTag, Text.upperChar_of_ascii hascii, String.ofList_inj, List.singleton_append,
      List.cons.injEq, hfirst, List.cons.injEq, List.cons.injEq, or_and_right]

/-! ## Lines -/

namespace Line

/-- The tag that a line starts with. -/
def tag (l : Line) : List Char := (splitTag l.text).1

theorem isTagChar_of_mem_tag {l : Line} {c : Char} (hc : c ∈ l.tag) : isTagChar c = true := by
  rw [tag, splitTag, List.span_eq_takeWhile_dropWhile] at hc
  exact List.mem_takeWhile_imp hc

/-- What a line says depends on its tag. -/
theorem content_eq (l : Line) : l.content =
    if l.tag = [] then .untagged
    else if l.tag = "page".toList then
      .page ((Properties.ofText (splitTag l.text).2).pairs.get? "title")
    else if l.tag = "state".toList then .state (StateEntry.ofText? (splitTag l.text).2)
    else if l.tag = "component".toList then .component (.ofText (splitTag l.text).2)
    else .element l.tag (.ofText (splitTag l.text).2) := rfl

/-- A line gives the node of an entry that it declares, or an element. -/
theorem of_node?_eq_some {l : Line} {n : Node} (h : l.node? = some n) :
    (l.tag = "state".toList ∧ l.declaresState = true
        ∧ ∃ entry, n = { kind := Node.stateKind, state := some entry, line := l.number })
      ∨ (l.tag ∉ ["page".toList, "state".toList] ∧ l.declaresState = false
        ∧ ∃ p : Properties, n = {
          kind := Node.kindOfTag l.tag, properties := p.pairs, content := p.content, line :=
            l.number }) := by
  have hcontent := l.content_eq
  unfold node? at h
  unfold declaresState
  split at hcontent
  · rw [hcontent] at h
    cases h
  · split at hcontent
    · rw [hcontent] at h
      cases h
    · next hpage =>
      split at hcontent
      · next hstate =>
        rw [hcontent] at h ⊢
        cases hentry : StateEntry.ofText? (splitTag l.text).2 with
        | none =>
          rw [hentry] at h
          cases h
        | some entry =>
          rw [hentry] at h
          exact .inl ⟨hstate, rfl, entry, (Option.some.inj h).symm⟩
      · next hstate =>
        split at hcontent
        · rw [hcontent] at h
          cases h
        · rw [hcontent] at h ⊢
          refine .inr ⟨?_, rfl, _, (Option.some.inj h).symm⟩
          rw [List.mem_cons, List.mem_singleton, not_or]
          exact ⟨hpage, hstate⟩

end Line

/-! ## Orderly nodes -/

/-- A node that is in order as far as reserved kinds go. -/
structure Node.Orderly (n : Node) : Prop where
  /-- It is of kind `State` exactly if it declares an entry. -/
  declares : n.kind = Node.stateKind ↔ n.state.isSome
  /-- If it is of this kind, it has nothing else. -/
  bare : n.kind = Node.stateKind → n.children = [] ∧ n.properties = ∅ ∧ n.content = ""
  /-- Only the root is a page. -/
  noPage : n.kind ≠ Node.pageKind

/-- The tags that make an element of a reserved kind. -/
def Line.capitalTags : List (List Char) := ["State".toList, "Page".toList]

/-- An element is of a reserved kind only if its tag is written with the capital letter. -/
theorem Line.kindOfTag_tag_eq_iff {l : Line} {capital small : Char} {rest : List Char}
    (hcapital : 0x41 ≤ capital.toNat ∧ capital.toNat ≤ 0x5A)
    (hsmall : small.toNat = capital.toNat + 32) (htag : l.tag ≠ small :: rest) :
    Node.kindOfTag l.tag = String.ofList (capital :: rest) ↔ l.tag = capital :: rest := by
  rw [Node.kindOfTag_eq_iff (fun _ => isTagChar_of_mem_tag) hcapital hsmall]
  exact or_iff_left htag

/-- With its children, of which a declaration has none, the node of a line is orderly unless the
line has one of the two tags. -/
theorem Line.orderly_iff {l : Line} {n : Node} (h : l.node? = some n) {children : List Node}
    (hchildren : l.declaresState = true → children = []) :
    Node.Orderly { n with children } ↔ l.tag ∉ capitalTags := by
  rcases of_node?_eq_some h with ⟨htag, hstate, entry, rfl⟩ | ⟨htag, -, p, rfl⟩
  · have hnot : "state".toList ∉ capitalTags := by decide
    rw [htag]
    refine iff_of_true ⟨iff_of_true rfl rfl, fun _ => ⟨hchildren hstate, rfl, rfl⟩, ?_⟩ hnot
    show Node.stateKind ≠ Node.pageKind
    decide
  · rw [List.mem_cons, List.mem_singleton, not_or] at htag
    have hstate : Node.kindOfTag l.tag = Node.stateKind ↔ l.tag = "State".toList :=
      kindOfTag_tag_eq_iff (by decide) (by decide) htag.2
    have hpage : Node.kindOfTag l.tag = Node.pageKind ↔ l.tag = "Page".toList :=
      kindOfTag_tag_eq_iff (by decide) (by decide) htag.1
    rw [capitalTags, List.mem_cons, List.mem_singleton, not_or]
    constructor
    · intro horderly
      refine ⟨fun heq => ?_, fun heq => horderly.noPage (hpage.mpr heq)⟩
      exact Bool.false_ne_true (horderly.declares.mp (hstate.mpr heq))
    · rintro ⟨hnotState, hnotPage⟩
      have hkind : Node.kindOfTag l.tag ≠ Node.stateKind := mt hstate.mp hnotState
      exact ⟨iff_of_false hkind Bool.false_ne_true, fun heq => absurd heq hkind,
        mt hpage.mp hnotPage⟩

/-- A line that declares an entry has neither of the two tags. -/
theorem Line.tag_notMem_capitalTags {l : Line} {n : Node} (h : l.node? = some n)
    (hstate : n.state.isSome) : l.tag ∉ capitalTags := by
  rcases of_node?_eq_some h with ⟨htag, -⟩ | ⟨-, -, p, rfl⟩
  · rw [htag]
    decide
  · cases hstate

/-! ## Trees -/

/-- Every node in the trees of an aligned block is the node of a line of the block with its
children, and those of a declaration are none. -/
theorem exists_line_of_mem_treesBelow {block : List Line} (ha : Aligned block) (p : Option Line) :
    ∀ m ∈ Node.preorderAll (treesBelow block p), ∃ y ∈ block, ∃ n children, y.node? = some n
      ∧ m = { n with children } ∧ (y.declaresState = true → children = []) := by
  induction p using treesBelow.induct block with
  | case1 p ih =>
    intro m hm
    rw [treesBelow_eq] at hm
    obtain ⟨t, ht, hm⟩ := Node.mem_preorderAll.mp hm
    obtain ⟨y, hy, hnode⟩ := List.mem_filterMap.mp ht
    obtain ⟨n, hn, rfl⟩ := Option.map_eq_some_iff.mp hnode
    rw [Node.preorder_eq] at hm
    rcases List.mem_cons.mp hm with rfl | hm
    · refine ⟨y, (mem_childrenOf.mp hy).1, n, _, hn, rfl, fun hstate => ?_⟩
      -- Nothing has a state line as its parent, so nothing hangs below this one.
      have hnone : childrenOf block (some y) = [] := by
        rw [List.eq_nil_iff_forall_not_mem]
        intro z hz
        obtain ⟨hzblock, hparent⟩ := mem_childrenOf.mp hz
        rw [ha.noStateParent z hzblock y hparent] at hstate
        cases hstate
      rw [treesBelow_eq, hnone, List.filterMap_nil]
    · exact ih ⟨y, hy⟩ m hm

/-! ## Documents -/

/-- The nodes below the root and those of the component bodies. -/
def Document.inner (d : Document) : List Node :=
  Node.preorderAll d.page.children ++ d.components.flatMap fun c => Node.preorderAll c.body

theorem Document.mem_inner_of_mem_children {d : Document} {n : Node} (h : n ∈ d.page.children) :
    n ∈ d.inner :=
  List.mem_append_left _ (Node.mem_preorderAll_of_mem h)

/-- The trees of a document are those of its blocks. -/
theorem Document.exists_block_of_mem_inner {source : String} {d : Document}
    (h : Document.parse source = .ok d) {m : Node} (hm : m ∈ d.inner) :
    ∃ b ∈ blocks (Line.ofSource source),
      m ∈ Node.preorderAll (blockTrees (Line.ofSource source) b) := by
  have hn := Line.numbered_ofSource source
  obtain ⟨hpage, hcomponents⟩ := Document.of_parse_eq_ok h
  rw [Document.inner, hpage, hcomponents, Entry.nodes_ofLines _ hn] at hm
  rcases List.mem_append.mp hm with hm | hm
  · exact ⟨none, List.mem_cons_self .., hm⟩
  · obtain ⟨c, hc, hm⟩ := List.mem_flatMap.mp hm
    obtain ⟨x, hx, hcomponent⟩ :=
      List.mem_filterMap.mp ((Entry.components_ofLines _ hn).mem_iff.mp hc)
    unfold componentOf? at hcomponent
    split at hcomponent
    · cases hcomponent
    · next header hheader =>
      split at hcomponent
      · cases hcomponent
      · rw [← Option.some.inj hcomponent] at hm
        have hblock : x ∈ (Line.ofSource source).filter fun c => c.header?.isSome :=
          List.mem_filter.mpr ⟨hx, Option.isSome_of_eq_some hheader⟩
        exact ⟨some x, List.mem_cons_of_mem _ (List.mem_map_of_mem hblock), hm⟩

/-- **In a parsed document a node is orderly exactly if its line is not tagged `State` or
`Page`**, below the root and in the component bodies alike. A node with an entry always is: it is
of kind `State` and has no children, properties or content. -/
theorem Document.parse_orderly_iff {source : String} {d : Document}
    (h : Document.parse source = .ok d) :
    ∀ n ∈ d.inner, ∃ y ∈ Line.ofSource source, y.number = n.line
      ∧ (n.Orderly ↔ y.tag ∉ Line.capitalTags) ∧ (n.state.isSome → n.Orderly) := by
  intro m hm
  have haligned := (Entry.misplacedIn?_ofLines_eq_none_iff _ (Line.numbered_ofSource source)).mp
    ((Document.exists_parse_eq_ok_iff source).mp ⟨d, h⟩)
  obtain ⟨b, hb, hm⟩ := Document.exists_block_of_mem_inner h hm
  obtain ⟨y, hy, n, children, hnode, rfl, hchildren⟩ :=
    exists_line_of_mem_treesBelow (haligned b hb) none m hm
  have hline : y ∈ Line.ofSource source := (List.filter_sublist.trans List.filter_sublist).subset hy
  have horderly := Line.orderly_iff hnode hchildren
  refine ⟨y, hline, (Line.line_of_node? hnode).symm, horderly, fun hstate => horderly.mpr ?_⟩
  exact Line.tag_notMem_capitalTags hnode hstate

/-- An element with one property, the only line of a text. -/
theorem Document.parse_property {source : String} {tag : List Char}
    (hsource : source.toList = tag ++ " x: 1".toList) (hne : tag ≠ [])
    (htag : tag.all isTagChar = true)
    (hname : tag ∉ ["page".toList, "state".toList, "component".toList]) :
    Document.parse source = .ok ⟨Node.page none [{
      kind := Node.kindOfTag tag, properties := (∅ : OrderedMap String).insert "x" "1", line :=
  1 }], [], []⟩ := by
  have hproperties : Properties.ofText " x: 1".toList = Properties.single "x".toList
      (Text.stored "1".toList) :=
    Properties.ofText_pair (by decide) ⟨by decide, by decide, by decide⟩ (by decide)
  have hblank : ∀ c ∈ " x: 1".toList.head?, isTagChar c = false := by
    rintro c ⟨rfl⟩
    decide
  exact Document.parse_of_tag hsource hne (List.all_eq_true.mp htag) hname hblank
    (by decide) hproperties

/-- The node of a line tagged `State`. -/
def Node.capitalState : Node where
  kind := Node.stateKind
  properties := (∅ : OrderedMap String).insert "x" "1"
  line := 1

theorem Document.parse_capitalState :
    Document.parse "State x: 1" = .ok ⟨Node.page none [Node.capitalState], [], []⟩ := by
  have hsource : "State x: 1".toList = "State".toList ++ " x: 1".toList := by decide
  exact Document.parse_property hsource (by decide) (by decide) (by decide)

theorem Document.parse_orderly_iff_capitalState :
    Document.parse "State x: 1" = .ok ⟨Node.page none [Node.capitalState], [], []⟩
      ∧ ∃ y ∈ Line.ofSource "State x: 1", y.number = 1
        ∧ (Node.capitalState.Orderly ↔ y.tag ∉ Line.capitalTags) := by
  have hparse := Document.parse_capitalState
  have hnodes := Document.parse_orderly_iff hparse
  obtain ⟨y, hy, hnumber, horderly, -⟩ :=
    hnodes Node.capitalState (Document.mem_inner_of_mem_children (List.mem_singleton_self _))
  exact ⟨hparse, y, hy, hnumber, horderly⟩

/-- **A line tagged `State` gives a node of kind `State` that declares nothing and has a property,
and one tagged `Page` a page below the root.** -/
theorem Document.capital_tags_disorderly :
    (∃ d, Document.parse "State x: 1" = .ok d
      ∧ ∃ n ∈ d.inner, n.kind = Node.stateKind ∧ n.state = none ∧ n.properties.get? "x" = some "1")
    ∧ ∃ d, Document.parse "Page x: 1" = .ok d ∧ ∃ n ∈ d.inner, n.kind = Node.pageKind := by
  have hsource : "Page x: 1".toList = "Page".toList ++ " x: 1".toList := by decide
  have hkind : Node.kindOfTag "Page".toList = Node.pageKind := by decide
  have hpage := Document.parse_property hsource (by decide) (by decide) (by decide)
  have hinner {n : Node} : n ∈ Document.inner ⟨Node.page none [n], [], []⟩ :=
    Document.mem_inner_of_mem_children (List.mem_singleton_self n)
  exact ⟨⟨_, Document.parse_capitalState, Node.capitalState, hinner, rfl, rfl, by decide⟩,
    ⟨_, hpage, _, hinner, hkind⟩⟩

end PageLang
