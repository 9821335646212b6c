import Mathlib.Order.Monotone.Basic
import PageLang.Proofs.Document.Block
import PageLang.Proofs.Node.Renumbering

/-!
# Lines at other places

Which lines belong together is decided by their indentations, and by nothing but the comparison of
two of them. So the numbers of the lines may be changed in any way, their places in the source
with them, and all lines may be moved to the right together: the trees and the components stay the
same but for the numbers of their lines. As long as the lines keep their order, so does the one
that is refused.

> `Entry.Moved.nodes_eq`, `Entry.Moved.components_eq`: the trees and the components of moved lines
> are the renumbered ones.

> `Entry.Moved.misplacedIn?_eq`, `Entry.Moved.report_eq`: what is misplaced and what is reported
> is moved with them.

Moving goes through the cuts that set bodies apart, which is `Entry.moved_ofLines`; the rest is
induction on `Entry.Moved`.
-/

namespace PageLang

/-! ## Moved lines -/

/-- Lines keep their texts, get other numbers and are all moved to the right by `k` blanks. -/
structure Line.Moves (f : Nat → Nat) (k : Nat) (τ : Line → Line) : Prop where
  number : ∀ l, (τ l).number = f l.number
  indent : ∀ l, (τ l).indent = l.indent + k
  text : ∀ l, (τ l).text = l.text

section Moves

variable {f : Nat → Nat} {k : Nat} {τ : Line → Line} (hτ : Line.Moves f k τ)
include hτ

/-- A moved line has the same content. -/
theorem Line.content_moved (l : Line) : (τ l).content = l.content := by
  unfold Line.content
  rw [hτ.text]

theorem Line.header?_moved (l : Line) : (τ l).header? = l.header? := by
  unfold Line.header?
  rw [Line.content_moved hτ]

theorem Line.declaresState_moved (l : Line) : (τ l).declaresState = l.declaresState := by
  unfold Line.declaresState
  rw [Line.content_moved hτ]

/-- It gives the same node on its new line. -/
theorem Line.node?_moved (l : Line) : (τ l).node? = l.node?.map (Node.renumber f) := by
  unfold Line.node?
  rw [Line.content_moved hτ, hτ.number]
  split <;> simp [Node.renumber_eq, Node.renumberAll_nil]

end Moves

/-- A line with its node, both moved. -/
def NodeLine.move (f : Nat → Nat) (τ : Line → Line) (x : NodeLine) : NodeLine :=
  ⟨τ x.line, x.node.renumber f⟩

/-- The reason for a line that is moved to the right by `k` blanks with the lines around it. -/
def Misplacement.move (k : Nat) : Misplacement → Misplacement
  | .belowState => .belowState
  | .unaligned indent expected => .unaligned (indent + k) (expected + k)

/-- A misplaced line, moved. -/
def Misplaced.move (k : Nat) (τ : Line → Line) (m : Misplaced) : Misplaced :=
  ⟨τ m.line, m.cause.move k⟩

section NodeLines

variable {f : Nat → Nat} {k : Nat} {τ : Line → Line} (hτ : Line.Moves f k τ)
include hτ

/-- Moved lines give the moved node lines. -/
theorem NodeLine.ofLines_map (lines : List Line) :
    NodeLine.ofLines (lines.map τ) = (NodeLine.ofLines lines).map (NodeLine.move f τ) := by
  rw [NodeLine.ofLines, NodeLine.ofLines, List.filterMap_map, List.map_filterMap]
  refine List.filterMap_congr fun l _ => ?_
  rw [Function.comp_apply, Line.node?_moved hτ]
  cases l.node? <;> rfl

/-- Moving keeps which lines are deeper. -/
theorem NodeLine.isBelow_move (x y : NodeLine) :
    (x.move f τ).isBelow (y.move f τ) = x.isBelow y := by
  unfold NodeLine.isBelow NodeLine.move
  rw [hτ.indent, hτ.indent]
  exact decide_eq_decide.mpr (Nat.add_lt_add_iff_right ..)

theorem NodeLine.takeWhile_move (x : NodeLine) (rest : List NodeLine) :
    (rest.map (NodeLine.move f τ)).takeWhile (x.move f τ).isBelow
      = (rest.takeWhile x.isBelow).map (NodeLine.move f τ) := by
  rw [List.takeWhile_map]
  exact congrArg (List.map _ <| List.takeWhile · rest) (funext (NodeLine.isBelow_move hτ x))

theorem NodeLine.dropWhile_move (x : NodeLine) (rest : List NodeLine) :
    (rest.map (NodeLine.move f τ)).dropWhile (x.move f τ).isBelow
      = (rest.dropWhile x.isBelow).map (NodeLine.move f τ) := by
  rw [List.dropWhile_map]
  exact congrArg (List.map _ <| List.dropWhile · rest) (funext (NodeLine.isBelow_move hτ x))

/-- Moved lines give the renumbered trees. -/
theorem forest_move (xs : List NodeLine) :
    forest (xs.map (NodeLine.move f τ)) = Node.renumberAll f (forest xs) := by
  induction xs using forest.induct with
  | case1 => rw [List.map_nil, forest, Node.renumberAll_nil]
  | case2 x rest ihBelow ihAfter =>
    rw [List.map_cons, forest, forest, NodeLine.takeWhile_move hτ, NodeLine.dropWhile_move hτ,
      ihBelow, ihAfter, Node.renumberAll_cons, Node.renumber_eq]
    simp [NodeLine.move, Node.renumber_eq]

/-- The same line is misplaced, for the moved cause. -/
theorem misplaced?_move (xs : List NodeLine) : ∀ siblings : Option Nat,
    misplaced? (siblings.map (· + k)) (xs.map (NodeLine.move f τ))
      = (misplaced? siblings xs).map (Misplaced.move k τ) := by
  -- The indentation that siblings share is moved with them, and the deeper lines start without one.
  induction xs using forest.induct with
  | case1 =>
    intro siblings
    rw [List.map_nil, misplaced?, misplaced?]
    rfl
  | case2 x rest ihBelow ihAfter =>
    intro siblings
    have hgetD : (siblings.map (· + k)).getD (x.line.indent + k)
        = siblings.getD x.line.indent + k := by
      cases siblings <;> rfl
    have hindent : (x.move f τ).line.indent = x.line.indent + k := hτ.indent x.line
    have hstate : (x.move f τ).line.declaresState = x.line.declaresState :=
      Line.declaresState_moved hτ x.line
    have hbelow := ihBelow none
    have hafter := ihAfter (some (siblings.getD x.line.indent))
    rw [Option.map_none] at hbelow
    rw [Option.map_some] at hafter
    rw [List.map_cons, misplaced?, misplaced?, NodeLine.takeWhile_move hτ,
      NodeLine.dropWhile_move hτ, hindent, hgetD, hstate, List.head?_map, hbelow, hafter]
    by_cases hsame : x.line.indent = siblings.getD x.line.indent
    · rw [if_neg (by omega), if_neg (by omega)]
      cases x.line.declaresState <;> cases (rest.takeWhile x.isBelow).head? <;>
        cases misplaced? none (rest.takeWhile x.isBelow) <;> rfl
    · rw [if_pos (by omega), if_pos hsame]
      rfl

end NodeLines

/-! ## Moved entries -/

namespace Entry

/-- The entries are those of moved lines. -/
inductive Moved (τ : Line → Line) : List Entry → List Entry → Prop
  | nil : Moved τ [] []
  | line {l : Line} {entries moved : List Entry} (rest : Moved τ entries moved) :
    Moved τ (.line l :: entries) (.line (τ l) :: moved)
  | component {l : Line} {header : ComponentHeader} {inner movedInner entries moved : List Entry}
    (body : Moved τ inner movedInner) (rest : Moved τ entries moved) :
    Moved τ (.component l header inner :: entries) (.component (τ l) header movedInner :: moved)

variable {f : Nat → Nat} {k : Nat} {τ : Line → Line}

/-- The cut after a component line is at the same place among moved lines. -/
theorem moved_ofLines (hτ : Line.Moves f k τ) (lines : List Line) :
    Moved τ (ofLines lines) (ofLines (lines.map τ)) := by
  induction lines using ofLines.induct with
  | case1 =>
    rw [List.map_nil, ofLines]
    exact .nil
  | case2 l rest header hc ihBody ihRest =>
    have hdeeper : ((fun x => decide ((τ l).indent < x.indent)) ∘ τ) = fun x =>
        decide (l.indent < x.indent) := by
      funext x
      rw [Function.comp_apply, hτ.indent, hτ.indent]
      exact decide_eq_decide.mpr (Nat.add_lt_add_iff_right ..)
    rw [List.map_cons, ofLines, ofLines, Line.content_moved hτ, hc]
    dsimp only
    rw [List.takeWhile_map, List.dropWhile_map, hdeeper]
    exact .component ihBody ihRest
  | case3 l rest hc ih =>
    have hl := Line.header?_eq_none hc
    rw [List.map_cons, ofLines_cons_of_none hl,
      ofLines_cons_of_none ((Line.header?_moved hτ l).trans hl)]
    exact .line ih

namespace Moved

variable {entries moved : List Entry}

/-- The lines of the page are moved. -/
theorem ownLines_eq (h : Moved τ entries moved) : ownLines moved = (ownLines entries).map τ := by
  induction h with
  | nil => rfl
  | line _ ih => rw [ownLines, ownLines, ih, List.map_cons]
  | component _ _ _ ih => rw [ownLines, ownLines, ih]

/-- **Moved lines give the same trees under other numbers.** -/
theorem nodes_eq (hτ : Line.Moves f k τ) (h : Moved τ entries moved) :
    nodes moved = Node.renumberAll f (nodes entries) := by
  rw [nodes, nodes, h.ownLines_eq, NodeLine.ofLines_map hτ, forest_move hτ]

/-- **Moved lines define the same components under other numbers.** -/
theorem components_eq (hτ : Line.Moves f k τ) (h : Moved τ entries moved) :
    components moved = (components entries).map (Component.renumber f) := by
  induction h with
  | nil => rw [components, List.map_nil]
  | line _ ih => rw [components, components, ih]
  | component body _ ihBody ihRest =>
    rw [components, components, ihBody, ihRest, body.nodes_eq hτ, hτ.number, List.map_append,
      List.map_append]
    split <;> rfl

/-- In the page the same line is misplaced. -/
theorem ownMisplaced?_eq (hτ : Line.Moves f k τ) (h : Moved τ entries moved) :
    ownMisplaced? moved = (ownMisplaced? entries).map (Misplaced.move k τ) := by
  rw [ownMisplaced?, ownMisplaced?, h.ownLines_eq, NodeLine.ofLines_map hτ]
  exact misplaced?_move hτ _ none

/-- Lines that keep their order keep which one comes first. -/
theorem earlier_move (hτ : Line.Moves f k τ) (hf : StrictMono f) (a b : Option Misplaced) :
    earlier (a.map (Misplaced.move k τ)) (b.map (Misplaced.move k τ)) = (earlier a b).map
      (Misplaced.move k τ) := by
  cases a with
  | none => cases b <;> rfl
  | some x =>
    cases b with
    | none => rfl
    | some y =>
      have hlt : (x.move k τ).line.number < (y.move k τ).line.number
          ↔ x.line.number < y.line.number := by
        rw [Misplaced.move, Misplaced.move, hτ.number, hτ.number, hf.lt_iff_lt]
      rw [Option.map_some, Option.map_some, earlier, earlier, Option.map_some]
      by_cases hxy : x.line.number < y.line.number
      · rw [if_pos hxy, if_pos (hlt.mpr hxy)]
      · rw [if_neg hxy, if_neg (hlt.not.mpr hxy)]

/-- In the bodies the same line is misplaced. -/
theorem bodyMisplaced?_eq (hτ : Line.Moves f k τ) (hf : StrictMono f) (h : Moved τ entries moved) :
    bodyMisplaced? moved = (bodyMisplaced? entries).map (Misplaced.move k τ) := by
  induction h with
  | nil => rw [bodyMisplaced?, Option.map_none]
  | line _ ih => rw [bodyMisplaced?, bodyMisplaced?, ih]
  | @component l header inner _ _ _ body _ ihBody ihRest =>
    rw [bodyMisplaced?, bodyMisplaced?, body.ownMisplaced?_eq hτ, ihBody,
      earlier_move hτ hf, ihRest]
    cases earlier (ownMisplaced? inner) (bodyMisplaced? inner) <;> rfl

/-- **What is misplaced among moved lines is what was misplaced before, moved.** -/
theorem misplacedIn?_eq (hτ : Line.Moves f k τ) (hf : StrictMono f) (h : Moved τ entries moved) :
    misplacedIn? moved = (misplacedIn? entries).map (Misplaced.move k τ) := by
  rw [misplacedIn?, misplacedIn?, h.ownMisplaced?_eq hτ, h.bodyMisplaced?_eq hτ hf,
    earlier_move hτ hf]

/-- **Moved lines give the same title, and the same is reported of them.** -/
theorem report_eq (hτ : Line.Moves f k τ) (h : Moved τ entries moved) : ∀ title,
    report title moved
      = ((report title entries).1, (report title entries).2.map (Diagnostic.renumber f)) := by
  have honLine (findings : List Finding) (l : Line) : findings.map (·.onLine (τ l).number)
      = (findings.map (·.onLine l.number)).map (Diagnostic.renumber f) := by
    rw [List.map_map, hτ.number]
    rfl
  induction h with
  | nil =>
    intro title
    rw [report, List.map_nil]
  | @line l _ _ _ ih =>
    intro title
    have hfindings : lineFindings title (τ l) = lineFindings title l := by
      unfold lineFindings
      rw [Line.content_moved hτ, hτ.text]
    rw [report, report, hfindings]
    dsimp only
    rw [ih, honLine, List.map_append]
  | @component l header _ _ _ _ body _ ihBody ihRest =>
    intro title
    have hfindings (ns : List Node) : headerFindings header (Node.renumberAll f ns)
        = headerFindings header ns := by
      unfold headerFindings
      rw [Node.isEmpty_renumberAll]
    rw [report, report]
    dsimp only
    rw [ihBody, ihRest, body.nodes_eq hτ, hfindings, honLine, List.map_append, List.map_append]

end Moved

end Entry

end PageLang
