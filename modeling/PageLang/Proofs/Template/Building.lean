import Mathlib.Data.List.Chain
import Mathlib.Data.List.Induction
import PageLang.Proofs.Template.Entries
import PageLang.Proofs.Template.Writing

/-!
# What any steps build

Steps may come in any order: blocks may be left open, and ends may come where nothing is open.
What they mean is said here without a stack. An end belongs to the nearest block before it that
has no end yet, so a block is open as long as the steps after it end no more blocks than they
begin (`BuildStep.enclosing`), and a step shows its piece when the conditions of all blocks that
are open before it hold (`BuildStep.shown`).

> `Template.ofSteps_normal`: the template that steps build renders to what they show, and its
> plain markup is never empty and never stands beside other plain markup, at any depth.

The builder keeps the open blocks, the innermost first. Whatever it adds next is rendered last,
within all of them (`render_finish_push`), and ending a block early or with the template is the
same (`finish_endIf`).
-/

namespace PageLang

/-! ## The meaning of steps -/

namespace BuildStep

/-- What a step shows where nothing hides it. -/
def piece (s : State) : BuildStep → String
  | .static html => html
  | .segment x => x.render s
  | .beginIf _ => ""
  | .endIf => ""

/-- How many blocks from before them steps end. -/
def outerEnds : List BuildStep → Nat
  | [] => 0
  | .beginIf _ :: steps => outerEnds steps - 1
  | .endIf :: steps => outerEnds steps + 1
  | _ :: steps => outerEnds steps

/-- The conditions of the blocks that are open after steps, the outermost first. A block is open
if the steps after its beginning end no blocks but their own. -/
def enclosing : List BuildStep → List Expr
  | [] => []
  | .beginIf condition :: steps =>
    if outerEnds steps = 0 then condition :: enclosing steps else enclosing steps
  | _ :: steps => enclosing steps

/-- What steps show, one after the other: each its piece, if the conditions of all blocks that are
open before it hold. -/
def shown (s : State) (steps : List BuildStep) : String :=
  String.join (steps.zipIdx.map fun x =>
    if (enclosing (steps.take x.2)).all (·.holds s) then x.1.piece s else "")

/-- A step that does not push a whole block. -/
def IsPlain : BuildStep → Prop
  | .segment (.conditional _ _) => False
  | _ => True

/-- One step more is shown if all conditions around it hold. -/
theorem shown_concat (s : State) (steps : List BuildStep) (x : BuildStep) :
    shown s (steps ++ [x]) = shown s steps ++ if (enclosing steps).all (·.holds s) then x.piece s
      else "" := by
  have hbefore : steps.zipIdx.map (fun y =>
        if (enclosing ((steps ++ [x]).take y.2)).all (·.holds s) then y.1.piece s else "")
      = steps.zipIdx.map fun y => if (enclosing (steps.take y.2)).all (·.holds s) then y.1.piece
          s else "" := by
    refine List.map_congr_left fun y hy => ?_
    have hlt : y.2 < steps.length := (List.mem_zipIdx' hy).1
    rw [List.take_append_of_le_length (Nat.le_of_lt hlt)]
  rw [shown, List.zipIdx_append, List.map_append, hbefore, String.join_append, shown]
  simp

/-- Opening a block leaves no end unmatched. -/
theorem outerEnds_concat_beginIf (steps : List BuildStep) (condition : Expr) :
    outerEnds (steps ++ [.beginIf condition]) = outerEnds steps := by
  induction steps with
  | nil => rfl
  | cons x steps ih => cases x <;> simp [outerEnds, ih]

/-- A block that begins is open. -/
theorem enclosing_concat_beginIf (steps : List BuildStep) (condition : Expr) :
    enclosing (steps ++ [.beginIf condition]) = enclosing steps ++ [condition] := by
  induction steps with
  | nil => rfl
  | cons x steps ih =>
    cases x with
    | beginIf c =>
      rw [List.cons_append, enclosing, enclosing, outerEnds_concat_beginIf, ih]
      split <;> rfl
    | _ => exact ih

/-- An end that is added ends the innermost open block and no other; if none is open, it is one
from before. -/
theorem concat_endIf (steps : List BuildStep) :
    outerEnds (steps ++ [.endIf])
      = (if enclosing steps = [] then outerEnds steps + 1 else outerEnds steps)
      ∧ enclosing (steps ++ [.endIf]) = (enclosing steps).dropLast := by
  induction steps with
  | nil => exact ⟨rfl, rfl⟩
  | cons x steps ih =>
    obtain ⟨hends, henclosing⟩ := ih
    cases x with
    | beginIf condition =>
      rw [List.cons_append, outerEnds, outerEnds, enclosing, enclosing, hends, henclosing]
      by_cases hzero : outerEnds steps = 0
      · -- The block is open before the end. It is the one that ends if there is no other after it.
        by_cases hnil : enclosing steps = []
        · simp [hzero, hnil]
        · simp [hzero, hnil, List.dropLast_cons_of_ne_nil hnil]
      · have hstill : (if enclosing steps = [] then outerEnds steps + 1 else outerEnds steps)
            ≠ 0 := by
          split <;> omega
        rw [if_neg hzero, if_neg hstill]
        refine ⟨?_, rfl⟩
        split <;> omega
    | endIf =>
      rw [List.cons_append, outerEnds, outerEnds, hends]
      refine ⟨?_, henclosing⟩
      show _ = if enclosing steps = [] then _ else _
      split <;> rfl
    | _ => exact ⟨hends, henclosing⟩

/-- Neither does a piece of markup. -/
theorem outerEnds_concat_of_piece {x : BuildStep} (hbegin : ∀ condition, x ≠ .beginIf condition)
    (hend : x ≠ .endIf) (steps : List BuildStep) : outerEnds (steps ++ [x]) = outerEnds steps := by
  induction steps with
  | nil => cases x <;> simp_all [outerEnds]
  | cons y steps ih => cases y <;> simp [outerEnds, ih]

/-- No other step opens or ends a block. -/
theorem enclosing_concat_of_piece {x : BuildStep} (hbegin : ∀ condition, x ≠ .beginIf condition)
    (hend : x ≠ .endIf) (steps : List BuildStep) : enclosing (steps ++ [x]) = enclosing steps := by
  induction steps with
  | nil => cases x <;> simp_all [enclosing]
  | cons y steps ih =>
    cases y with
    | beginIf c =>
      rw [List.cons_append, enclosing, enclosing, outerEnds_concat_of_piece hbegin hend, ih]
    | _ => exact ih

end BuildStep

/-! ## Rendering what is built -/

namespace TemplateBuilder

open BuildStep (enclosing)

/-- Ending a block early is ending it with the template. -/
theorem finish_endIf (b : TemplateBuilder) : b.endIf.finish = b.finish := by
  obtain ⟨_ | ⟨block, _ | ⟨outer, blocks⟩⟩, base⟩ := b <;> rfl

/-- Whether all open blocks show. -/
def shows (s : State) (blocks : List OpenBlock) : Bool :=
  blocks.all fun block => block.condition.holds s

/-- A block is shown if its condition holds and the blocks around it are shown. -/
theorem shows_cons (s : State) (block : OpenBlock) (blocks : List OpenBlock) :
    shows s (block :: blocks) = (block.condition.holds s && shows s blocks) := rfl

/-- What is put into the innermost of the open blocks shows last, if it shows. -/
theorem renderAll_close (s : State) (inner : List Segment) (blocks : List OpenBlock)
    (base : List Segment) :
    Segment.renderAll s (close inner blocks base) = Segment.renderAll s (close [] blocks base)
      ++ if shows s blocks then Segment.renderAll s inner.reverse else "" := by
  induction blocks generalizing inner with
  | nil => simp [close, shows, Segment.renderAll_append]
  | cons block blocks ih =>
    rw [close, ih, close, List.nil_append, ih [.conditional block.condition block.body.reverse],
      String.append_assoc, shows_cons]
    cases hblock : block.condition.holds s <;> cases shows s blocks <;>
      simp [Segment.renderAll, Segment.render, hblock, Segment.renderAll_append]

/-- What is pushed shows last, if all open blocks show. -/
theorem render_finish_push (s : State) (b : TemplateBuilder) (x : Segment) :
    (b.push x).finish.render s = b.finish.render s ++ if shows s b.blocks then x.render s
      else "" := by
  obtain ⟨_ | ⟨block, blocks⟩, base⟩ := b
  · exact renderAll_append_reverse s base x
  · show Segment.renderAll s
        (close [.conditional block.condition (append block.body x).reverse] blocks base)
      = Segment.renderAll s (close [.conditional block.condition block.body.reverse] blocks base)
        ++ _
    rw [renderAll_close, renderAll_close s [.conditional block.condition block.body.reverse],
      String.append_assoc, shows_cons]
    cases hblock : block.condition.holds s <;> cases shows s blocks <;>
      simp [Segment.renderAll, Segment.render, hblock, renderAll_append_reverse]

/-- A block without segments shows nothing. -/
theorem render_finish_beginIf (s : State) (b : TemplateBuilder) (condition : Expr) :
    (b.beginIf condition).finish.render s = b.finish.render s := by
  show Segment.renderAll s (close [.conditional condition []] b.blocks b.base) = _
  rw [renderAll_close]
  simp [Segment.renderAll, Segment.render, finish, Template.render]

/-- One step more adds its piece where it is shown. -/
theorem render_finish_step (s : State) (b : TemplateBuilder) (x : BuildStep) :
    (b.step x).finish.render s = b.finish.render s ++ if shows s b.blocks then x.piece s
      else "" := by
  cases x with
  | static html =>
    show (b.push (.static html)).finish.render s = _
    rw [render_finish_push, Segment.render, BuildStep.piece]
  | segment x => exact render_finish_push s b x
  | beginIf condition =>
    show (b.beginIf condition).finish.render s = _
    rw [render_finish_beginIf, BuildStep.piece, ite_self, String.append_empty]
  | endIf =>
    show b.endIf.finish.render s = _
    rw [finish_endIf, BuildStep.piece, ite_self, String.append_empty]

/-- Pushing a segment opens and closes no block. -/
theorem conditions_push (b : TemplateBuilder) (segment : Segment) :
    (b.push segment).blocks.map OpenBlock.condition = b.blocks.map OpenBlock.condition := by
  obtain ⟨_ | ⟨block, blocks⟩, base⟩ := b <;> rfl

/-- The blocks that the builder holds open are those that are open by the steps so far. -/
theorem conditions_foldl (steps : List BuildStep) :
    (steps.foldl step {}).blocks.map OpenBlock.condition = (enclosing steps).reverse := by
  induction steps using List.reverseRecOn with
  | nil => rfl
  | append_singleton steps x ih =>
    rw [List.foldl_append, List.foldl_cons, List.foldl_nil]
    cases x with
    | static html =>
      rw [BuildStep.enclosing_concat_of_piece (by simp) (by simp), ← ih]
      exact conditions_push _ _
    | segment x =>
      rw [BuildStep.enclosing_concat_of_piece (by simp) (by simp), ← ih]
      exact conditions_push _ _
    | beginIf condition =>
      rw [BuildStep.enclosing_concat_beginIf, List.reverse_append, ← ih]
      rfl
    | endIf =>
      rw [(BuildStep.concat_endIf steps).2, ← List.tail_reverse, ← ih, ← List.map_tail]
      show (steps.foldl step {}).endIf.blocks.map _ = _
      obtain ⟨_ | ⟨block, blocks⟩, base⟩ := steps.foldl step {}
      · rfl
      · exact conditions_push ⟨blocks, base⟩ _

end TemplateBuilder

/-- What comes next is shown if all conditions that the steps have opened and not ended hold. -/
theorem TemplateBuilder.shows_foldl (s : State) (steps : List BuildStep) :
    shows s (steps.foldl step {}).blocks = (BuildStep.enclosing steps).all (·.holds s) := by
  have hall : shows s (steps.foldl step {}).blocks
      = ((steps.foldl step {}).blocks.map OpenBlock.condition).all (·.holds s) := by
    rw [List.all_map]
    rfl
  rw [hall, conditions_foldl, List.all_reverse]

/-- **The template that steps build renders to what they show**, whether or not they end the
blocks they begin. -/
theorem Template.render_ofSteps (s : State) (steps : List BuildStep) :
    (Template.ofSteps steps).render s = BuildStep.shown s steps := by
  induction steps using List.reverseRecOn with
  | nil => rfl
  | append_singleton steps x ih =>
    rw [Template.ofSteps, List.foldl_append, List.foldl_cons, List.foldl_nil,
      TemplateBuilder.render_finish_step, TemplateBuilder.shows_foldl, BuildStep.shown_concat, ← ih,
      Template.ofSteps]

/-! ## The form of what is built -/

namespace Segment

/-- Whether a segment is plain markup. -/
def isStatic : Segment → Bool
  | .static _ => true
  | _ => false

/-- Segments among which plain markup is never empty and never stands beside other plain markup. -/
structure Tidy (ss : List Segment) : Prop where
  nonempty : .static "" ∉ ss
  apart : ss.IsChain fun x y => ¬ (x.isStatic ∧ y.isStatic)

/-- All bodies of blocks in a segment, at any depth, are tidy. -/
def TidyWithin (x : Segment) : Prop := ∀ condition body, .conditional condition body ∈ x.preorder →
    Tidy body

/-- Segments that are tidy, at every depth. -/
structure Normal (ss : List Segment) : Prop where
  tidy : Tidy ss
  within : ∀ x ∈ ss, x.TidyWithin

variable {ss : List Segment} {x : Segment}

theorem normal_nil : Normal [] :=
  ⟨⟨List.not_mem_nil, List.isChain_nil⟩, fun _ hx => absurd hx List.not_mem_nil⟩

/-- Segments are normal if the first is, does not join the second, and the others are normal. -/
theorem normal_cons_iff : Normal (x :: ss) ↔
    (x ≠ .static "" ∧ (∀ y ∈ ss.head?, ¬ (x.isStatic ∧ y.isStatic)) ∧ x.TidyWithin)
      ∧ Normal ss := by
  constructor
  · rintro ⟨⟨hnonempty, hapart⟩, hwithin⟩
    rw [List.mem_cons, not_or] at hnonempty
    obtain ⟨hhead, hrest⟩ := List.isChain_cons.mp hapart
    obtain ⟨hx, hss⟩ := List.forall_mem_cons.mp hwithin
    exact ⟨⟨Ne.symm hnonempty.1, hhead, hx⟩, ⟨hnonempty.2, hrest⟩, hss⟩
  · rintro ⟨⟨hnonempty, hhead, hx⟩, ⟨hrest, hapart⟩, hss⟩
    refine ⟨⟨?_, List.isChain_cons.mpr ⟨hhead, hapart⟩⟩, List.forall_mem_cons.mpr ⟨hx, hss⟩⟩
    rw [List.mem_cons, not_or]
    exact ⟨Ne.symm hnonempty, hrest⟩

/-- Normal segments are normal backwards. -/
theorem Normal.reverse (h : Normal ss) : Normal ss.reverse := by
  refine ⟨⟨mt List.mem_reverse.mp h.tidy.nonempty, ?_⟩,
    fun x hx => h.within x (List.mem_reverse.mp hx)⟩
  rw [List.isChain_reverse]
  exact h.tidy.apart.imp fun x y hxy hyx => hxy hyx.symm

/-- A block is tidy within if its body is tidy at every depth. -/
theorem tidyWithin_conditional {body : List Segment} (h : Normal body) (condition : Expr) :
    (conditional condition body).TidyWithin := by
  intro c inner hmem
  rw [preorder] at hmem
  rcases List.mem_cons.mp hmem with heq | hmem
  · cases heq
    exact h.tidy
  · obtain ⟨x, hx, hmem⟩ := mem_preorderAll.mp hmem
    exact h.within x hx c inner hmem

/-- A hole may stand before any normal segments. -/
theorem Normal.cons_of_not_static (h : Normal ss) (hx : x.isStatic = false)
    (hwithin : x.TidyWithin) : Normal (x :: ss) := by
  refine normal_cons_iff.mpr ⟨⟨?_, fun y _ hxy => ?_, hwithin⟩, h⟩
  · rintro rfl
    cases hx
  · rw [hx] at hxy
    exact Bool.false_ne_true hxy.1

/-- A segment that holds no others is tidy within. -/
theorem tidyWithin_of_leaf (h : x.preorder = [x])
    (hx : ∀ condition body, x ≠ .conditional condition body) : x.TidyWithin := by
  intro condition body hmem
  rw [h] at hmem
  exact absurd (List.mem_singleton.mp hmem).symm (hx condition body)

theorem tidyWithin_static (html : String) : (static html).TidyWithin :=
  tidyWithin_of_leaf rfl (by simp)

/-- Plain markup is joined to plain markup and otherwise stands by itself. -/
theorem Normal.joinStatic (h : Normal ss) {html : String} (hhtml : html ≠ "") :
    Normal (TemplateBuilder.joinStatic html ss) := by
  unfold TemplateBuilder.joinStatic
  split
  · next last rest =>
    obtain ⟨⟨-, hhead, -⟩, hrest⟩ := normal_cons_iff.mp h
    refine normal_cons_iff.mpr ⟨⟨?_, hhead, tidyWithin_static _⟩, hrest⟩
    intro heq
    exact hhtml (String.append_eq_empty_iff.mp (Segment.static.inj heq)).2
  · next hlast =>
    refine normal_cons_iff.mpr
      ⟨⟨fun heq => hhtml (Segment.static.inj heq), ?_, tidyWithin_static _⟩, h⟩
    rintro y hy ⟨-, hstatic⟩
    cases y with
    | static last =>
      obtain ⟨rest, rfl⟩ := List.head?_eq_some_iff.mp hy
      exact hlast last rest rfl
    | _ => cases hstatic

/-- Joining plain markup keeps segments normal. -/
theorem Normal.append (h : Normal ss) (hwithin : x.TidyWithin) :
    Normal (TemplateBuilder.append ss x) := by
  unfold TemplateBuilder.append
  split
  · split
    · exact h
    · next hhtml => exact h.joinStatic hhtml
  · next hstatic =>
    refine h.cons_of_not_static ?_ hwithin
    cases x with
    | static html => exact absurd rfl (hstatic html)
    | _ => rfl

end Segment

namespace TemplateBuilder

/-- All that has been built so far is in normal form. -/
structure Normal (b : TemplateBuilder) : Prop where
  base : Segment.Normal b.base
  body : ∀ block ∈ b.blocks, Segment.Normal block.body

variable {b : TemplateBuilder}

/-- So does pushing a segment. -/
theorem Normal.push (h : b.Normal) {x : Segment} (hx : x.TidyWithin) : (b.push x).Normal := by
  obtain ⟨_ | ⟨block, blocks⟩, base⟩ := b
  · exact ⟨h.base.append hx, h.body⟩
  · obtain ⟨hblock, hblocks⟩ := List.forall_mem_cons.mp h.body
    exact ⟨h.base, List.forall_mem_cons.mpr ⟨hblock.append hx, hblocks⟩⟩

/-- So does ending a block. -/
theorem Normal.endIf (h : b.Normal) : b.endIf.Normal := by
  obtain ⟨_ | ⟨block, blocks⟩, base⟩ := b
  · exact h
  · obtain ⟨hblock, hblocks⟩ := List.forall_mem_cons.mp h.body
    have hrest : Normal ⟨blocks, base⟩ := ⟨h.base, hblocks⟩
    exact hrest.push (Segment.tidyWithin_conditional hblock.reverse block.condition)

/-- So does every step. -/
theorem Normal.step (h : b.Normal) {x : BuildStep} (hx : x.IsPlain) : (b.step x).Normal := by
  cases x with
  | static html => exact h.push (Segment.tidyWithin_static html)
  | segment x =>
    cases x with
    | conditional condition body => exact hx.elim
    | _ => exact h.push (Segment.tidyWithin_of_leaf rfl (by simp))
  | beginIf condition => exact ⟨h.base, List.forall_mem_cons.mpr ⟨Segment.normal_nil, h.body⟩⟩
  | endIf => exact h.endIf

/-- So do all steps one after the other. -/
theorem Normal.foldl {steps : List BuildStep} (h : b.Normal) (hsteps : ∀ x ∈ steps, x.IsPlain) :
    (steps.foldl TemplateBuilder.step b).Normal := by
  induction steps generalizing b with
  | nil => exact h
  | cons x steps ih =>
    obtain ⟨hx, hsteps⟩ := List.forall_mem_cons.mp hsteps
    exact ih (h.step hx) hsteps

/-- Open blocks that end with the template keep the form. What the innermost one gets is nothing
or a block, and so can be put before anything. -/
theorem Normal.close {inner base : List Segment} {blocks : List OpenBlock}
    (h : Normal ⟨blocks, base⟩) (hinner : ∀ ss, Segment.Normal ss → Segment.Normal (inner ++ ss)) :
    Segment.Normal (TemplateBuilder.close inner blocks base) := by
  induction blocks generalizing inner with
  | nil => exact (hinner base h.base).reverse
  | cons block blocks ih =>
    obtain ⟨hblock, hblocks⟩ := List.forall_mem_cons.mp h.body
    have hended := Segment.tidyWithin_conditional (hinner block.body hblock).reverse block.condition
    exact ih ⟨h.base, hblocks⟩ fun ss hss => hss.cons_of_not_static rfl hended

end TemplateBuilder

/-- **Steps in any order build a template in normal form that means what they show.** For all
steps that push no whole block, however they begin and end blocks:

* in the template and in every block of it, at any depth, no plain markup is empty and no two
  pieces of it are neighbours;
* in every state it renders to the pieces of the steps one after the other, where a piece is left
  out unless the conditions of all blocks around it hold. A block goes from its beginning to the
  end that belongs to it, or to the end of the template, and an end that belongs to none is
  nothing. -/
theorem Template.ofSteps_normal (steps : List BuildStep) (h : ∀ x ∈ steps, x.IsPlain) :
    Segment.Normal (Template.ofSteps steps).segments
      ∧ ∀ s, (Template.ofSteps steps).render s = BuildStep.shown s steps := by
  have hempty : TemplateBuilder.Normal {} :=
    ⟨Segment.normal_nil, fun _ hblock => absurd hblock List.not_mem_nil⟩
  exact ⟨(hempty.foldl h).close fun _ hss => hss, fun s => Template.render_ofSteps s steps⟩

/-- Steps with two ends that belong to nothing, and with two blocks that are never ended. -/
def strayEnds : List BuildStep :=
  [.endIf, .static "<p>", .static "", .static "a", .beginIf (.boolean true), .static "b",
    .segment (.text "x"), .endIf, .endIf, .static "</p>", .beginIf (.boolean false), .static "c",
    .beginIf (.boolean true), .static "d"]

/-- Ends without a block, empty pieces and a block that is never ended. -/
theorem Template.ofSteps_normal_strayEnds :
    (∀ x ∈ strayEnds, x.IsPlain) ∧ Segment.Normal (Template.ofSteps strayEnds).segments
      ∧ (Template.ofSteps strayEnds).render ∅ = "<p>ab\x7bx\x7d</p>" := by
  have hplain : ∀ x ∈ strayEnds, x.IsPlain := by simp [strayEnds, BuildStep.IsPlain]
  have h := Template.ofSteps_normal strayEnds hplain
  exact ⟨hplain, h.1, (h.2 ∅).trans (by decide)⟩

end PageLang
