import Mathlib.Data.List.Nodup
import PageLang.Proofs.Document.Parsing

/-!
# The structure of a parsed document

A source text gives numbered lines, the lines fall into blocks, and the lines of every block form
trees by indentation. Main result:

> `parse_ok_iff_aligned`: a text parses exactly when every block is aligned, and then the page and
> the components hold the trees of their blocks, in which every line that gives a node occurs
> exactly once.

Nothing here looks at the stack of open nodes: that it builds these trees is `Document.parse_eq`.
-/

namespace PageLang

/-! ## Every line occurs once -/

/-- A node has the number of its line. -/
theorem Line.line_of_node? {l : Line} {n : Node} (h : l.node? = some n) : n.line = l.number := by
  unfold Line.node? at h
  split at h
  · rw [← Option.some.inj h]
  · rw [← Option.some.inj h]
  · exact absurd h (by simp)

/-- Trees taken line by line: each has the number of its line, and below it the trees of that
line. -/
theorem map_treesBelow {α : Type} (block : List Line) (p : Option Line) (g : Nat → List Node → α) :
    (treesBelow block p).map (fun n => g n.line n.children)
      = ((childrenOf block p).filter fun y => y.node?.isSome).map fun y =>
        g y.number (treesBelow block (some y)) := by
  rw [treesBelow_eq]
  induction childrenOf block p with
  | nil => rfl
  | cons y ys ih =>
    cases hn : y.node? with
    | none => simpa [hn] using ih
    | some n => simpa [hn, Line.line_of_node? hn] using ih

/-- The trees below a line are rooted in its children. -/
theorem map_line_treesBelow (block : List Line) (p : Option Line) :
    (treesBelow block p).map Node.line
      = ((childrenOf block p).filter fun y => y.node?.isSome).map Line.number :=
  map_treesBelow block p fun line _ => line

/-- Read from the top down, trees list the lines they are made of in their order. -/
theorem preorder_forest (xs : List NodeLine) (hx : ∀ x ∈ xs, x.line.node? = some x.node) :
    (Node.preorderAll (forest xs)).map Node.line = xs.map fun x => x.line.number := by
  induction xs using forest.induct with
  | case1 => rw [forest]; rfl
  | case2 x rest ihLeft ihRight =>
    have hleft := ihLeft fun y hy =>
      hx y (List.mem_cons_of_mem _ ((List.takeWhile_sublist _).subset hy))
    have hright := ihRight fun y hy =>
      hx y (List.mem_cons_of_mem _ ((List.dropWhile_sublist _).subset hy))
    have hline := Line.line_of_node? (hx x (List.mem_cons_self ..))
    rw [forest, Node.preorderAll, Node.preorder_eq, List.map_append, List.map_cons, hleft, hright,
      hline, List.cons_append, ← List.map_append, List.takeWhile_append_dropWhile, List.map_cons]

/-- The trees of a block have its node lines, in order. -/
theorem preorder_blockTrees {lines : List Line} (h : Numbered lines) (block : Option Line) :
    (Node.preorderAll (blockTrees lines block)).map Node.line
      = (nodesOf lines block).map Line.number := by
  have hlines : (NodeLine.ofLines (linesOf lines block)).map NodeLine.line = nodesOf lines block :=
    NodeLine.map_line_ofLines _
  have hnode : ∀ x ∈ NodeLine.ofLines (linesOf lines block), x.line.node? = some x.node :=
    fun _ hx => NodeLine.node?_of_mem_ofLines hx
  have hforest := forest_eq_treesBelow (NodeLine.ofLines (linesOf lines block))
    (by rw [hlines]; exact numbered_nodesOf h block) hnode
  rw [blockTrees, ← hlines, ← hforest, preorder_forest _ hnode, List.map_map]
  rfl

/-- A line that gives a node occurs once in the trees of its own block and nowhere else. -/
theorem count_preorder_blockTrees {lines : List Line} (h : Numbered lines) {y : Line}
    (hy : y ∈ lines) (hnode : y.node?.isSome) (block : Option Line) :
    ((Node.preorderAll (blockTrees lines block)).map Node.line).count y.number
      = if owner? lines y = block then 1 else 0 := by
  have hsub : ∀ {z}, z ∈ nodesOf lines block → z ∈ lines := fun hz =>
    (List.filter_sublist.trans List.filter_sublist).subset hz
  have hnodup : ((nodesOf lines block).map Line.number).Nodup :=
    List.pairwise_map.mpr ((numbered_nodesOf h block).imp Nat.ne_of_lt)
  have hmem : y.number ∈ (nodesOf lines block).map Line.number ↔ owner? lines y = block := by
    rw [List.mem_map]
    constructor
    · rintro ⟨z, hz, hzy⟩
      obtain rfl := h.number_inj (hsub hz) hy hzy
      exact of_decide_eq_true (List.mem_filter.mp (List.mem_filter.mp hz).1).2
    · intro howner
      refine ⟨y, List.mem_filter.mpr ⟨List.mem_filter.mpr ⟨hy, ?_⟩, hnode⟩, rfl⟩
      exact decide_eq_true howner
  rw [preorder_blockTrees h, hnodup.count]
  simp only [hmem]

/-! ## Parsing -/

/-- The only obstacle to parsing is a misplaced line. -/
theorem Document.exists_parse_eq_ok_iff (source : String) :
    (∃ d, Document.parse source = .ok d) ↔
      Entry.misplacedIn? (Entry.ofLines (Line.ofSource source)) = none := by
  simp only [Document.parse_eq_ok_iff, exists_and_left, exists_eq, and_true]

/-- A source with aligned blocks is a document. -/
theorem Document.exists_parse_of_aligned {source : String}
    (h : ∀ b ∈ blocks (Line.ofSource source), Aligned (nodesOf (Line.ofSource source) b)) :
    ∃ d, Document.parse source = .ok d :=
  (Document.exists_parse_eq_ok_iff source).mpr
    ((Entry.misplacedIn?_ofLines_eq_none_iff _ (Line.numbered_ofSource source)).mpr h)

/-- A document has the nodes and components of its entries. -/
theorem Document.of_parse_eq_ok {source : String} {d : Document}
    (h : Document.parse source = .ok d) :
    d.page.children = Entry.nodes (Entry.ofLines (Line.ofSource source))
      ∧ d.components = Entry.components (Entry.ofLines (Line.ofSource source)) := by
  obtain ⟨-, rfl⟩ := Document.parse_eq_ok_iff.mp h
  exact ⟨rfl, rfl⟩

/-- **A text parses exactly when in every block no line hangs below a state line and lines with
the same parent have the same indentation.** The lines are the pieces between line feeds that are
neither blank nor comments, each with its number, its leading blanks and its trimmed text. Then
the page and the named components hold the trees of their blocks and nothing else, and in the
trees of all blocks every line that gives a node occurs exactly once, in the block that it belongs
to. -/
theorem Document.parse_ok_iff_aligned (source : String) :
    let lines := Line.ofSource source
    lines.map (fun l => (l.number, l.indent, l.text))
        = ((Text.splitBy (· = '\n') source.toList).zipIdx 1).filterMap
          (fun piece => Line.reading? piece.1 piece.2)
      ∧ ((∃ d, Document.parse source = .ok d) ↔ ∀ b ∈ blocks lines, Aligned (nodesOf lines b))
      ∧ ∀ d, Document.parse source = .ok d →
        d.page.children = blockTrees lines none
        ∧ d.components.Perm (lines.filterMap (componentOf? lines))
        ∧ ∀ y ∈ lines, y.node?.isSome → ∀ b,
            ((Node.preorderAll (blockTrees lines b)).map Node.line).count y.number
              = if owner? lines y = b then 1 else 0 := by
  intro lines
  have hn : Numbered lines := Line.numbered_ofSource source
  refine ⟨Line.map_ofSource source, ?_, fun d hd => ?_⟩
  · rw [Document.exists_parse_eq_ok_iff, Entry.misplacedIn?_ofLines_eq_none_iff _ hn]
  · obtain ⟨hpage, hcomponents⟩ := Document.of_parse_eq_ok hd
    refine ⟨?_, ?_, fun y hy hnode b => count_preorder_blockTrees hn hy hnode b⟩
    · rw [hpage, Entry.nodes_ofLines _ hn]
    · rw [hcomponents]
      exact Entry.components_ofLines _ hn

/-- Comments and blank lines, a component inside another, and state lines on several levels. -/
def cardSource : String :=
  "# cards\npage title: Cards\ncomponent card title\n  state open: no\n  box\n    text: {title}\n"
    ++ "    component inner\n      slot\n\nbox\n  state n: 0\r\n  card title: A\ntext: end"

/-- A component, a page with nested lines, and silent lines between them. -/
theorem Document.parse_ok_iff_aligned_cards :
    (Line.ofSource cardSource).map Line.number = [2, 3, 4, 5, 6, 7, 8, 10, 11, 12, 13]
      ∧ (∃ d, Document.parse cardSource = .ok d
        ∧ d.page.children.map (fun n => (n.line, n.children.map Node.line))
          = [(10, [11, 12]), (13, [])]
        ∧ ∃ card ∈ d.components, card.name = "Card" ∧ card.parameters = ["title"]
          ∧ card.body.map (fun n => (n.line, n.children.map Node.line)) = [(4, []), (5, [6])])
      ∧ ¬ ∃ d, Document.parse "box\n    text: a\n  text: b" = .ok d := by
  let card : Line := ⟨3, 0, 26, "component card title".toList⟩
  obtain ⟨lines, hlines⟩ : ∃ lines : List Line, lines = [
      ⟨2, 0, 8, "page title: Cards".toList⟩, card, ⟨4, 2, 49, "state open: no".toList⟩,
      ⟨5, 2, 66, "box".toList⟩, ⟨6, 4, 74, "text: {title}".toList⟩,
      ⟨7, 4, 92, "component inner".toList⟩, ⟨8, 6, 114, "slot".toList⟩, ⟨10, 0, 120, "box".toList⟩,
      ⟨11, 2, 126, "state n: 0".toList⟩, ⟨12, 2, 140, "card title: A".toList⟩,
      ⟨13, 0, 154, "text: end".toList⟩] := ⟨_, rfl⟩
  have hsource : Line.ofSource cardSource = lines := by
    rw [hlines]
    decide +kernel
  have hcards := Document.parse_ok_iff_aligned cardSource
  dsimp only at hcards
  rw [hsource] at hcards ⊢
  obtain ⟨d, hd⟩ := hcards.2.1.mpr (by rw [hlines]; decide +kernel)
  obtain ⟨hpage, hcomponents, -⟩ := hcards.2.2 d hd
  have hheader : card.header? = some ⟨"card".toList, ["title"], []⟩ := by decide +kernel
  have hcard : componentOf? lines card
      = some ⟨"Card", ["title"], blockTrees lines (some card), 3⟩ := by
    rw [componentOf?, hheader]
    rfl
  have houtline := fun block p =>
    map_treesBelow block p fun line children => (line, children.map Node.line)
  simp only [map_line_treesBelow] at houtline
  refine ⟨by rw [hlines]; rfl, ⟨d, hd, ?_, _, hcomponents.mem_iff.mpr
    (List.mem_filterMap.mpr ⟨card, by simp [hlines], hcard⟩), rfl, rfl, ?_⟩, ?_⟩
  · rw [hpage]
    exact (houtline _ _).trans (by rw [hlines]; decide +kernel)
  · exact (houtline _ _).trans (by rw [hlines]; decide +kernel)
  · exact (not_congr (Document.parse_ok_iff_aligned _).2.1).mpr (by decide +kernel)

end PageLang
