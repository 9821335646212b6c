import PageLang.Proofs.Document.Entry
import PageLang.Proofs.Document.Outline

/-!
# Blocks

The body of a component line reaches from the line after it as far as all lines are deeper than
it. Bodies lie within each other or apart; a line belongs to the innermost component in whose body
it lies, `owner?`, and the lines that belong to none are those of the page. `nodesOf` are the
lines of one block that give nodes, `blockTrees` the trees that these form by `parent?`, and
`componentOf?` is the component that a line defines.

`Entry.ofLines` sets bodies apart by cutting, at the same places as `forest` does, so `owner?`
goes through its cuts like `parent?` does. From this come, block by block, the trees, the
components and the check:

> `nodes_ofLines`, `components_ofLines`: entries hold the trees of the page and of every component.

> `misplacedIn?_ofLines_eq_none_iff`: nothing is misplaced exactly when every block is `Aligned`.
-/

namespace PageLang

theorem Line.header?_eq_none {l : Line} (h : ∀ header, l.content ≠ .component header) :
    l.header? = none := by
  unfold Line.header?
  split
  · next header hc => exact absurd hc (h header)
  · rfl

/-- Whether a line lies in the body of a component line: it comes after it, and every line up to
it is deeper. -/
def InBody (lines : List Line) (c y : Line) : Prop :=
  c.number < y.number ∧
    ∀ z ∈ lines, c.number < z.number → z.number ≤ y.number → c.indent < z.indent

instance (lines : List Line) (c y : Line) : Decidable (InBody lines c y) :=
  inferInstanceAs (Decidable (_ ∧ _))

/-- The component line that a line belongs to: the innermost in whose body it lies. -/
def owner? (lines : List Line) (y : Line) : Option Line :=
  (lines.filter fun c => c.header?.isSome ∧ InBody lines c y).getLast?

/-- The lines of a block: those that belong to a component line, or to none. -/
def linesOf (lines : List Line) (block : Option Line) : List Line :=
  lines.filter fun y => owner? lines y = block

/-- The lines of a block that give nodes. -/
def nodesOf (lines : List Line) (block : Option Line) : List Line :=
  (linesOf lines block).filter fun y => y.node?.isSome

/-- The trees of a block. -/
def blockTrees (lines : List Line) (block : Option Line) : List Node :=
  treesBelow (nodesOf lines block) none

/-- The component that a line defines; one without a name defines none. -/
def componentOf? (lines : List Line) (c : Line) : Option Component :=
  match c.header? with
  | none => none
  | some header =>
    if header.name = [] then none
    else some ⟨Node.kindOfTag header.name, header.parameters, blockTrees lines (some c), c.number⟩

/-- The blocks: the page and the body of every component line. -/
def blocks (lines : List Line) : List (Option Line) :=
  none :: (lines.filter fun c => c.header?.isSome).map some

/-! ## Owners -/

/-- An owner is a component line, and what it owns is in its body. -/
theorem mem_of_owner?_eq {lines : List Line} {c y : Line} (h : owner? lines y = some c) :
    c ∈ lines ∧ c.header?.isSome ∧ InBody lines c y := by
  have hc := List.mem_of_getLast? h
  rw [List.mem_filter] at hc
  exact ⟨hc.1, by simpa using hc.2⟩

/-- No body begins before the first line. -/
theorem owner?_head {l : Line} {rest : List Line} (h : Numbered (l :: rest)) :
    owner? (l :: rest) l = none := by
  cases hc : owner? (l :: rest) l with
  | none => rfl
  | some c =>
    obtain ⟨hmem, -, hlt, -⟩ := mem_of_owner?_eq hc
    rcases List.mem_cons.mp hmem with rfl | hrest
    · exact absurd hlt (Nat.lt_irrefl _)
    · exact absurd hlt (Nat.lt_asymm (List.rel_of_pairwise_cons h hrest))

/-- Lines before a component line do not matter for its body. -/
theorem inBody_cons {l c y : Line} {rest : List Line} (h : l.number < c.number) :
    InBody (l :: rest) c y ↔ InBody rest c y := by
  unfold InBody
  refine and_congr_right fun _ => ⟨fun hall z hz => hall z (List.mem_cons_of_mem _ hz), ?_⟩
  intro hall z hz hcz
  rcases List.mem_cons.mp hz with rfl | hrest
  · exact absurd hcz (Nat.lt_asymm h)
  · exact hall z hrest hcz

/-- A line that is no component line owns nothing. -/
theorem owner?_cons {l : Line} {rest : List Line} (h : Numbered (l :: rest)) (hl : l.header? = none)
    (y : Line) : owner? (l :: rest) y = owner? rest y := by
  unfold owner?
  rw [List.filter_cons_of_neg (by simp [hl])]
  refine congrArg List.getLast? (List.filter_congr fun c hc => decide_eq_decide.mpr ?_)
  rw [inBody_cons (List.rel_of_pairwise_cons h hc)]

namespace Cut

variable {l : Line} {ys zs : List Line}

/-- Within the first part, bodies are what they are in all lines. -/
theorem inBody_left (h : Cut l ys zs) {c y : Line} (hc : c ∈ ys) (hy : y ∈ ys) :
    InBody (l :: (ys ++ zs)) c y ↔ InBody ys c y := by
  rw [inBody_cons (h.lt_of_mem_left hc)]
  unfold InBody
  refine and_congr_right fun _ => ⟨fun hall z hz => hall z (List.mem_append_left _ hz), ?_⟩
  intro hall z hz hcz hzy
  rcases List.mem_append.mp hz with hz | hz
  · exact hall z hz hcz hzy
  · exact absurd (h.lt_of_mem_of_mem hy hz) (Nat.not_lt.mpr hzy)

/-- Within the second part, bodies are what they are in all lines. -/
theorem inBody_right (h : Cut l ys zs) {c z : Line} (hc : c ∈ zs) :
    InBody (l :: (ys ++ zs)) c z ↔ InBody zs c z := by
  rw [inBody_cons (h.lt_of_mem_right hc)]
  unfold InBody
  refine and_congr_right fun _ => ⟨fun hall w hw => hall w (List.mem_append_right _ hw), ?_⟩
  intro hall w hw hcw hwz
  rcases List.mem_append.mp hw with hw | hw
  · exact absurd hcw (Nat.lt_asymm (h.lt_of_mem_of_mem hw hc))
  · exact hall w hw hcw hwz

/-- The lines that directly follow a line and are deeper are in its body. -/
theorem inBody_head (h : Cut l ys zs) {y : Line} (hy : y ∈ ys) : InBody (l :: (ys ++ zs)) l y := by
  refine ⟨h.lt_of_mem_left hy, ?_⟩
  intro z hz hlz hzy
  rcases List.mem_cons.mp hz with rfl | hz
  · exact absurd hlz (Nat.lt_irrefl _)
  · rcases List.mem_append.mp hz with hz | hz
    · exact h.deeper z hz
    · exact absurd (h.lt_of_mem_of_mem hy hz) (Nat.not_lt.mpr hzy)

/-- No body that begins before the cut reaches beyond it. -/
theorem not_inBody_across (h : Cut l ys zs) {c z : Line} (hc : c ∈ l :: ys) (hz : z ∈ zs) :
    ¬ InBody (l :: (ys ++ zs)) c z := by
  rintro ⟨-, hall⟩
  -- The first line from the cut on lies between the two and is not deep enough.
  obtain ⟨w, hw, hwl, hwz⟩ := h.exists_head_le hz
  have hle : w.number ≤ z.number := by
    rcases hwz with rfl | hlt
    · exact Nat.le_refl _
    · exact Nat.le_of_lt hlt
  have hmem : w ∈ l :: (ys ++ zs) := List.mem_cons_of_mem _ (List.mem_append_right _ hw)
  rcases List.mem_cons.mp hc with rfl | hc
  · exact absurd (hall w hmem (h.lt_of_mem_right hw) hle) (Nat.not_lt.mpr hwl)
  · have hcw := hall w hmem (h.lt_of_mem_of_mem hc hw) hle
    have hlc := h.deeper c hc
    omega

/-- Owners go through the cut after a component line part by part. -/
theorem attaches_owner? (h : Cut l ys zs) (hl : l.header?.isSome) : Attaches owner? l ys zs where
  cut := h
  mem := fun hw => (mem_of_owner?_eq hw).1
  head := owner?_head h.numbered
  left := by
    intro y hy
    have hys : ys.filter (fun c => c.header?.isSome ∧ InBody (l :: (ys ++ zs)) c y)
        = ys.filter (fun c => c.header?.isSome ∧ InBody ys c y) :=
      List.filter_congr fun c hc => decide_eq_decide.mpr (by rw [h.inBody_left hc hy])
    have hzs : zs.filter (fun c => c.header?.isSome ∧ InBody (l :: (ys ++ zs)) c y) = [] := by
      rw [List.filter_eq_nil_iff]
      intro c hc hbody
      exact Nat.lt_asymm (h.lt_of_mem_of_mem hy hc) (of_decide_eq_true hbody).2.1
    unfold owner?
    rw [List.filter_cons_of_pos (by simpa using ⟨hl, h.inBody_head hy⟩), List.filter_append,
      hys, hzs, List.append_nil, List.getLast?_cons]
    cases (ys.filter fun c => c.header?.isSome ∧ InBody ys c y).getLast? with
    | none => rfl
    | some c => rfl
  right := by
    intro z hz
    have hbefore : (l :: ys).filter (fun c => c.header?.isSome ∧ InBody (l :: (ys ++ zs)) c z)
        = [] := by
      rw [List.filter_eq_nil_iff]
      intro c hc hbody
      exact h.not_inBody_across hc hz (of_decide_eq_true hbody).2
    have hzs : zs.filter (fun c => c.header?.isSome ∧ InBody (l :: (ys ++ zs)) c z)
        = zs.filter (fun c => c.header?.isSome ∧ InBody zs c z) :=
      List.filter_congr fun c hc => decide_eq_decide.mpr (by rw [h.inBody_right hc])
    unfold owner?
    rw [← List.cons_append, List.filter_append, List.cons_append, hbefore, hzs, List.nil_append]

end Cut

/-! ## The lines of blocks -/

/-- A component line gives no node. -/
theorem node?_eq_none_of_header? {l : Line} (h : l.header?.isSome) : l.node? = none := by
  unfold Line.header? at h
  unfold Line.node?
  split at h
  · next header hc => rw [hc]
  · exact absurd h (by simp)

/-- A line in front that is no component line belongs to the page. -/
theorem linesOf_cons_none {l : Line} {rest : List Line} (h : Numbered (l :: rest))
    (hl : l.header? = none) : linesOf (l :: rest) none = l :: linesOf rest none := by
  unfold linesOf
  rw [List.filter_cons_of_pos (by simp [owner?_head h])]
  simp only [owner?_cons h hl]

/-- Such a line does not matter for the bodies. -/
theorem linesOf_cons_some {l : Line} {rest : List Line} (h : Numbered (l :: rest))
    (hl : l.header? = none) (c : Line) : linesOf (l :: rest) (some c) = linesOf rest (some c) := by
  unfold linesOf
  rw [List.filter_cons_of_neg (by simp [owner?_head h])]
  simp only [owner?_cons h hl]

/-- Blocks with the same lines have the same nodes. -/
theorem nodesOf_congr {lines part : List Line} {b c : Option Line}
    (h : linesOf lines b = linesOf part c) : nodesOf lines b = nodesOf part c := by
  rw [nodesOf, h, nodesOf]

theorem nodesOf_cons_some {l : Line} {rest : List Line} (h : Numbered (l :: rest))
    (hl : l.header? = none) (c : Line) : nodesOf (l :: rest) (some c) = nodesOf rest (some c) :=
  nodesOf_congr (linesOf_cons_some h hl c)

namespace Cut

variable {l : Line} {ys zs : List Line}

/-- The block around a component goes on after its body. -/
theorem nodesOf_none (h : Cut l ys zs) (hl : l.header?.isSome) :
    nodesOf (l :: (ys ++ zs)) none = nodesOf zs none := by
  have hlines : linesOf (l :: (ys ++ zs)) none = l :: linesOf zs none :=
    (h.attaches_owner? hl).filter_none
  rw [nodesOf, hlines, List.filter_cons_of_neg (by simp [node?_eq_none_of_header? hl]), nodesOf]

/-- The block of a component is the outermost block of its body. -/
theorem nodesOf_head (h : Cut l ys zs) (hl : l.header?.isSome) :
    nodesOf (l :: (ys ++ zs)) (some l) = nodesOf ys none :=
  nodesOf_congr (h.attaches_owner? hl).filter_head

/-- A component in the first part has its whole body there. -/
theorem nodesOf_left (h : Cut l ys zs) (hl : l.header?.isSome) {c : Line} (hc : c ∈ ys) :
    nodesOf (l :: (ys ++ zs)) (some c) = nodesOf ys (some c) :=
  nodesOf_congr ((h.attaches_owner? hl).filter_left hc)

/-- A component in the second part has its whole body there. -/
theorem nodesOf_right (h : Cut l ys zs) (hl : l.header?.isSome) {c : Line} (hc : c ∈ zs) :
    nodesOf (l :: (ys ++ zs)) (some c) = nodesOf zs (some c) :=
  nodesOf_congr ((h.attaches_owner? hl).filter_right hc)

end Cut

/-- A component depends on the lines of its own block only. -/
theorem componentOf?_congr {lines part : List Line} {c : Line}
    (h : nodesOf lines (some c) = nodesOf part (some c)) :
    componentOf? lines c = componentOf? part c := by
  unfold componentOf? blockTrees
  rw [h]

/-- The lines of a block stand in the order of their numbers. -/
theorem numbered_nodesOf {lines : List Line} (h : Numbered lines) (block : Option Line) :
    Numbered (nodesOf lines block) :=
  List.Pairwise.sublist (List.filter_sublist.trans List.filter_sublist) h

/-! ## Entries -/

namespace Entry

/-- A component line takes the deeper lines after it. -/
theorem ofLines_cons_of_some {l : Line} {rest : List Line} {header : ComponentHeader}
    (h : l.header? = some header) : ofLines (l :: rest) =
      .component l header (ofLines (rest.takeWhile fun x => l.indent < x.indent))
        :: ofLines (rest.dropWhile fun x => l.indent < x.indent) := by
  unfold Line.header? at h
  split at h
  · next hc =>
    cases h
    rw [ofLines, hc]
  · cases h

/-- Nothing is taken from lines that start with one that is not deeper. -/
theorem span_of_stops {indent : Nat} {zs : List Line} (h : ∀ z ∈ zs.head?, z.indent ≤ indent) :
    zs.takeWhile (fun x => decide (indent < x.indent)) = []
      ∧ zs.dropWhile (fun x => decide (indent < x.indent)) = zs := by
  cases zs with
  | nil => exact ⟨rfl, rfl⟩
  | cons z rest =>
    have hz : ¬ indent < z.indent := Nat.not_lt.mpr (h z rfl)
    exact ⟨List.takeWhile_cons_of_neg (by simpa using hz),
      List.dropWhile_cons_of_neg (by simpa using hz)⟩

/-- A component line takes the deeper lines that directly follow it as its body. -/
theorem ofLines_cut {l : Line} {ys zs : List Line} {header : ComponentHeader} (h : Cut l ys zs)
    (hl : l.header? = some header) :
    ofLines (l :: (ys ++ zs)) = .component l header (ofLines ys) :: ofLines zs := by
  have hys : ∀ y ∈ ys, decide (l.indent < y.indent) = true := fun y hy =>
    decide_eq_true (h.deeper y hy)
  have hzs := span_of_stops h.stops
  rw [ofLines_cons_of_some hl, List.takeWhile_append_of_pos hys, List.dropWhile_append_of_pos hys,
    hzs.1, hzs.2, List.append_nil]

/-- Any other line is an entry on its own. -/
theorem ofLines_cons_of_none {l : Line} {rest : List Line} (h : l.header? = none) :
    ofLines (l :: rest) = .line l :: ofLines rest := by
  rw [ofLines]
  split
  · next header hc =>
    rw [Line.header?, hc] at h
    exact absurd h (by simp)
  · rfl

/-- Whatever holds of no lines, and goes on over a line and over a component line with its body,
holds of numbered lines. -/
theorem ofLines_induction {motive : (lines : List Line) → Numbered lines → Prop}
    (nil : motive [] List.Pairwise.nil)
    (line : ∀ l rest (hn : Numbered (l :: rest)), l.header? = none → motive rest hn.of_cons →
      motive (l :: rest) hn)
    (component : ∀ l ys zs header (hcut : Cut l ys zs), l.header? = some header →
      motive ys hcut.numbered_left → motive zs hcut.numbered_right →
      motive (l :: (ys ++ zs)) hcut.numbered) :
    ∀ lines (h : Numbered lines), motive lines h := by
  intro lines
  induction lines using ofLines.induct with
  | case1 =>
    intro _
    exact nil
  | case2 l rest header hc ihBody ihRest =>
    intro hn
    have hl : l.header? = some header := by rw [Line.header?, hc]
    have hcut := cut_span hn
    have hrest :=
      (List.takeWhile_append_dropWhile (p := fun x => l.indent < x.indent) (l := rest)).symm
    -- From here on the two parts are known by their cut only.
    generalize rest.takeWhile (fun x => l.indent < x.indent) = ys at hcut hrest ihBody
    generalize rest.dropWhile (fun x => l.indent < x.indent) = zs at hcut hrest ihRest
    subst hrest
    exact component l ys zs header hcut hl (ihBody hcut.numbered_left) (ihRest hcut.numbered_right)
  | case3 l rest hc ih =>
    intro hn
    exact line l rest hn (Line.header?_eq_none hc) (ih hn.of_cons)

/-- The lines of a block that give nodes are kept, without those of component bodies. -/
theorem ownLines_ofLines (lines : List Line) (h : Numbered lines) :
    (ownLines (ofLines lines)).filter (fun y => y.node?.isSome) = nodesOf lines none := by
  induction lines, h using ofLines_induction with
  | nil => rw [ofLines]; rfl
  | line l rest hn hl ih =>
    rw [ofLines_cons_of_none hl, ownLines, nodesOf, linesOf_cons_none hn hl, List.filter_cons,
      List.filter_cons, ih, nodesOf]
  | component l ys zs header hcut hl _ ih =>
    rw [ofLines_cut hcut hl, ownLines, hcut.nodesOf_none (by simp [hl]), ih]

end Entry

namespace NodeLine

/-- The node lines are the lines that give nodes. -/
theorem map_line_ofLines (lines : List Line) :
    (ofLines lines).map line = lines.filter fun y => y.node?.isSome := by
  induction lines with
  | nil => rfl
  | cons l rest ih =>
    unfold ofLines at ih ⊢
    cases hn : l.node? <;> simp [hn, ih]

/-- A node line carries the node of its line. -/
theorem node?_of_mem_ofLines {lines : List Line} {x : NodeLine} (hx : x ∈ ofLines lines) :
    x.line.node? = some x.node := by
  obtain ⟨l, -, hl⟩ := List.mem_filterMap.mp hx
  obtain ⟨n, hn, rfl⟩ := Option.map_eq_some_iff.mp hl
  exact hn

end NodeLine

namespace Entry

theorem nodes_nil : nodes [] = [] := by
  rw [nodes, ownLines, NodeLine.ofLines, List.filterMap_nil, forest]

theorem nodes_line (l : Line) :
    nodes [.line l] = l.node?.toList.map fun n => { n with children := [] } := by
  rw [nodes, ownLines, ownLines, NodeLine.ofLines]
  cases hn : l.node? <;> simp [hn, forest]

theorem nodes_component (l : Line) (header : ComponentHeader) (body entries : List Entry) :
    nodes (.component l header body :: entries) = nodes entries := by
  rw [nodes, ownLines, nodes]

/-- The lines behind the nodes of a block. -/
theorem map_line_ownLines (lines : List Line) (h : Numbered lines) :
    (NodeLine.ofLines (ownLines (ofLines lines))).map NodeLine.line = nodesOf lines none := by
  rw [NodeLine.map_line_ofLines, ownLines_ofLines lines h]

/-- **Entries hold the trees of the outermost block.** -/
theorem nodes_ofLines (lines : List Line) (h : Numbered lines) :
    nodes (ofLines lines) = blockTrees lines none := by
  have hlines := map_line_ownLines lines h
  rw [nodes, forest_eq_treesBelow _ (by rw [hlines]; exact numbered_nodesOf h none)
    (fun _ hx => NodeLine.node?_of_mem_ofLines hx), hlines, blockTrees]

/-- Nothing of the page is misplaced exactly if its lines are aligned. -/
theorem ownMisplaced?_ofLines_eq_none_iff (lines : List Line) (h : Numbered lines) :
    ownMisplaced? (ofLines lines) = none ↔ Aligned (nodesOf lines none) := by
  have hlines := map_line_ownLines lines h
  rw [ownMisplaced?, misplaced?_eq_none_iff _ (by rw [hlines]; exact numbered_nodesOf h none),
    hlines]
  exact and_iff_left (by simp)

/-- **Entries hold every named component with the trees of its block**, in some order. -/
theorem components_ofLines (lines : List Line) (h : Numbered lines) :
    (components (ofLines lines)).Perm (lines.filterMap (componentOf? lines)) := by
  induction lines, h using ofLines_induction with
  | nil => rw [ofLines, components, List.filterMap_nil]
  | line l rest hn hl ih =>
    have hself : componentOf? (l :: rest) l = none := by rw [componentOf?, hl]
    have hrest : rest.filterMap (componentOf? (l :: rest)) = rest.filterMap (componentOf? rest) :=
      List.filterMap_congr fun c _ => componentOf?_congr (nodesOf_cons_some hn hl c)
    rw [ofLines_cons_of_none hl, components, List.filterMap_cons_none hself, hrest]
    exact ih
  | component l ys zs header hcut hl ihBody ihRest =>
    have hsome : l.header?.isSome := by simp [hl]
    have hys : ys.filterMap (componentOf? (l :: (ys ++ zs))) = ys.filterMap (componentOf? ys) :=
      List.filterMap_congr fun c hc => componentOf?_congr (hcut.nodesOf_left hsome hc)
    have hzs : zs.filterMap (componentOf? (l :: (ys ++ zs))) = zs.filterMap (componentOf? zs) :=
      List.filterMap_congr fun c hc => componentOf?_congr (hcut.nodesOf_right hsome hc)
    have hself : (componentOf? (l :: (ys ++ zs)) l).toList
        = if header.name = [] then []
          else [⟨Node.kindOfTag header.name, header.parameters, nodes (ofLines ys), l.number⟩] := by
      rw [componentOf?, hl, nodes_ofLines ys hcut.numbered_left, blockTrees, blockTrees,
        hcut.nodesOf_head hsome]
      dsimp only
      split <;> rfl
    have hall : (l :: (ys ++ zs)).filterMap (componentOf? (l :: (ys ++ zs)))
        = (componentOf? (l :: (ys ++ zs)) l).toList ++ (ys.filterMap (componentOf? ys)
          ++ zs.filterMap (componentOf? zs)) := by
      rw [← hys, ← hzs, ← List.filterMap_append]
      cases hc : componentOf? (l :: (ys ++ zs)) l with
      | none => exact List.filterMap_cons_none hc
      | some c => exact List.filterMap_cons_some hc
    rw [ofLines_cut hcut hl, components, hall, hself, List.append_assoc]
    -- the header comes after the components of its body, and before them in the list of lines
    exact (List.perm_append_comm_assoc ..).trans
      ((ihBody.append ihRest).append_left _)

/-- There is an earlier one unless there is none at all. -/
theorem earlier_eq_none_iff (a b : Option Misplaced) :
    earlier a b = none ↔ a = none ∧ b = none := by
  cases a <;> cases b <;> simp [earlier]

/-- A body is looked at before the entries after it. -/
theorem bodyMisplaced?_component (l : Line) (header : ComponentHeader) (body entries : List Entry) :
    bodyMisplaced? (.component l header body :: entries)
      = (earlier (ownMisplaced? body) (bodyMisplaced? body)).or (bodyMisplaced? entries) := by
  rw [bodyMisplaced?]
  cases earlier (ownMisplaced? body) (bodyMisplaced? body) <;> rfl

/-- Nothing is misplaced in a body and the ones after it if nothing is in each. -/
theorem bodyMisplaced?_component_eq_none_iff (l : Line) (header : ComponentHeader)
    (body entries : List Entry) :
    bodyMisplaced? (.component l header body :: entries) = none ↔
      (ownMisplaced? body = none ∧ bodyMisplaced? body = none) ∧ bodyMisplaced? entries = none := by
  rw [bodyMisplaced?_component, Option.or_eq_none_iff, earlier_eq_none_iff]

/-- Nothing is misplaced in any body exactly if each is aligned. -/
theorem bodyMisplaced?_ofLines_eq_none_iff (lines : List Line) (h : Numbered lines) :
    bodyMisplaced? (ofLines lines) = none ↔
      ∀ c ∈ lines, c.header?.isSome → Aligned (nodesOf lines (some c)) := by
  induction lines, h using ofLines_induction with
  | nil => rw [ofLines, bodyMisplaced?]; simp
  | line l rest hn hl ih =>
    rw [ofLines_cons_of_none hl, bodyMisplaced?, ih, List.forall_mem_cons]
    simp only [nodesOf_cons_some hn hl]
    exact ⟨fun hrest => ⟨fun hsome => absurd hsome (by simp [hl]), hrest⟩, fun hall => hall.2⟩
  | component l ys zs header hcut hl ihBody ihRest =>
    have hsome : l.header?.isSome := by simp [hl]
    have hys : (∀ c ∈ ys, c.header?.isSome → Aligned (nodesOf (l :: (ys ++ zs)) (some c)))
        ↔ ∀ c ∈ ys, c.header?.isSome → Aligned (nodesOf ys (some c)) :=
      forall₂_congr fun c hc => by rw [hcut.nodesOf_left hsome hc]
    have hzs : (∀ c ∈ zs, c.header?.isSome → Aligned (nodesOf (l :: (ys ++ zs)) (some c)))
        ↔ ∀ c ∈ zs, c.header?.isSome → Aligned (nodesOf zs (some c)) :=
      forall₂_congr fun c hc => by rw [hcut.nodesOf_right hsome hc]
    rw [ofLines_cut hcut hl, bodyMisplaced?_component_eq_none_iff, ihBody, ihRest,
      ownMisplaced?_ofLines_eq_none_iff ys hcut.numbered_left, List.forall_mem_cons,
      List.forall_mem_append, hys, hzs, hcut.nodesOf_head hsome]
    constructor
    · rintro ⟨⟨hown, hbody⟩, hrest⟩
      exact ⟨fun _ => hown, hbody, hrest⟩
    · rintro ⟨hown, hbody, hrest⟩
      exact ⟨⟨hown hsome, hbody⟩, hrest⟩

/-- **Nothing is misplaced exactly when every block is aligned.** -/
theorem misplacedIn?_ofLines_eq_none_iff (lines : List Line) (h : Numbered lines) :
    misplacedIn? (ofLines lines) = none ↔ ∀ b ∈ blocks lines, Aligned (nodesOf lines b) := by
  rw [misplacedIn?, earlier_eq_none_iff, ownMisplaced?_ofLines_eq_none_iff lines h,
    bodyMisplaced?_ofLines_eq_none_iff lines h, blocks, List.forall_mem_cons, List.forall_mem_map]
  simp only [List.mem_filter, and_imp]

end Entry

end PageLang
