import PageLang.Proofs.Markup.Text
import PageLang.Proofs.Template.Entries
import PageLang.Proofs.Template.Writing

/-!
# Fixed markup of a template

Neighbouring pieces of plain markup are joined, so a run of them ends up in one static segment, at
whatever depth of blocks it was pushed. What is pushed later may make the segment longer and may
put it into a block, but takes nothing out of it:

> `Template.carries_ofSteps`: a run of plain markup among the steps stands in one piece in a
> static segment of the template.
-/

namespace PageLang

open Markup (Within within_append_left within_append_right)

namespace Segment

/-- A text stands in a static segment, at some depth. -/
def Carry (text : String) (ss : List Segment) : Prop := ∃ html, .static html ∈ preorderAll ss
    ∧ Within text html

variable {text : String} {ss ts : List Segment}

/-- More segments carry no less. -/
theorem Carry.mono (h : Carry text ss) (hsub : ss ⊆ ts) : Carry text ts := by
  obtain ⟨html, hmem, hwithin⟩ := h
  obtain ⟨s, hs, hmem⟩ := mem_preorderAll.mp hmem
  exact ⟨html, mem_preorderAll.mpr ⟨s, hsub hs, hmem⟩, hwithin⟩

/-- Plain markup carries what is within it. -/
theorem carry_static {html : String} (h : Within text html) : Carry text (.static html :: ss) := by
  refine ⟨html, ?_, h⟩
  rw [preorderAll]
  exact List.mem_append_left _ (List.mem_singleton_self _)

/-- A block carries what its body carries. -/
theorem Carry.conditional (h : Carry text ss) (condition : Expr) :
    Carry text [.conditional condition ss] := by
  obtain ⟨html, hmem, hwithin⟩ := h
  refine ⟨html, mem_preorderAll.mpr ⟨_, List.mem_singleton_self _, ?_⟩, hwithin⟩
  rw [preorder]
  exact List.mem_cons_of_mem _ hmem

/-- A segment that is added takes nothing away. -/
theorem Carry.append (h : Carry text ss) (segment : Segment) :
    Carry text (TemplateBuilder.append ss segment) := by
  unfold TemplateBuilder.append
  split
  · next html =>
    split
    · exact h
    · unfold TemplateBuilder.joinStatic
      split
      · next last rest =>
        -- The last segment may be the one in question, and then it is made longer.
        obtain ⟨found, hmem, hwithin⟩ := h
        rw [preorderAll] at hmem
        rcases List.mem_append.mp hmem with hmem | hmem
        · cases List.mem_singleton.mp hmem
          exact carry_static (hwithin.trans (within_append_left last html))
        · refine ⟨found, ?_, hwithin⟩
          rw [preorderAll]
          exact List.mem_append_right _ hmem
      · exact h.mono (List.subset_cons_self _ _)
  · exact h.mono (List.subset_cons_self _ _)

end Segment

namespace TemplateBuilder

variable {text : String} {b : TemplateBuilder}

/-- A text stands in a static segment of what has been built. -/
def Carries (text : String) (b : TemplateBuilder) : Prop :=
  Segment.Carry text b.base ∨ ∃ block ∈ b.blocks, Segment.Carry text block.body

theorem carries_withInnermost {segments : List Segment} (h : Segment.Carry text segments) :
    (b.withInnermost segments).Carries text := by
  obtain ⟨_ | ⟨block, blocks⟩, base⟩ := b
  · exact .inl h
  · exact .inr ⟨_, List.mem_cons_self .., h⟩

/-- Pushing a segment loses no text. -/
theorem Carries.push (h : b.Carries text) (segment : Segment) : (b.push segment).Carries text := by
  obtain ⟨_ | ⟨block, blocks⟩, base⟩ := b
  · obtain h | ⟨block, hblock, -⟩ := h
    · exact .inl (h.append segment)
    · cases hblock
  · obtain h | ⟨found, hfound, h⟩ := h
    · exact .inl h
    · rcases List.mem_cons.mp hfound with rfl | hfound
      · exact .inr ⟨_, List.mem_cons_self .., h.append segment⟩
      · exact .inr ⟨found, List.mem_cons_of_mem _ hfound, h⟩

/-- The block that is ended is a segment of what is around it. -/
theorem Carries.endIf (h : b.Carries text) : b.endIf.Carries text := by
  obtain ⟨_ | ⟨block, blocks⟩, base⟩ := b
  · exact h
  · show (TemplateBuilder.push ⟨blocks, base⟩
        (.conditional block.condition block.body.reverse)).Carries text
    obtain h | ⟨found, hfound, h⟩ := h
    · exact Carries.push (b := ⟨blocks, base⟩) (.inl h) _
    · rcases List.mem_cons.mp hfound with rfl | hfound
      · have hblock : Segment.Carry text [.conditional found.condition found.body.reverse] :=
          (h.mono fun s hs => List.mem_reverse.mpr hs).conditional found.condition
        rw [push_eq]
        exact carries_withInnermost (hblock.mono (List.cons_subset_cons _ (List.nil_subset _)))
      · exact Carries.push (b := ⟨blocks, base⟩) (.inr ⟨found, hfound, h⟩) _

/-- No step does. -/
theorem Carries.step (h : b.Carries text) (x : BuildStep) : (b.step x).Carries text := by
  cases x with
  | static html => exact h.push (.static html)
  | segment s => exact h.push s
  | beginIf condition =>
    exact h.imp id fun ⟨block, hblock, h⟩ => ⟨block, List.mem_cons_of_mem _ hblock, h⟩
  | endIf => exact h.endIf

/-- Nor do all steps together. -/
theorem Carries.foldl (h : b.Carries text) (steps : List BuildStep) :
    (steps.foldl TemplateBuilder.step b).Carries text := by
  induction steps generalizing b with
  | nil => exact h
  | cons x steps ih => exact ih (h.step x)

/-- Closing all blocks keeps what any of them carries. -/
theorem carry_close {inner base : List Segment} {blocks : List OpenBlock}
    (h : Segment.Carry text inner ∨ Carries text ⟨blocks, base⟩) :
    Segment.Carry text (close inner blocks base) := by
  induction blocks generalizing inner with
  | nil =>
    rw [close]
    obtain h | h | ⟨block, hblock, -⟩ := h
    · exact h.mono fun s hs => List.mem_reverse.mpr (List.mem_append_left _ hs)
    · exact h.mono fun s hs => List.mem_reverse.mpr (List.mem_append_right _ hs)
    · cases hblock
  | cons block blocks ih =>
    rw [close]
    have hended (hbody : Segment.Carry text (inner ++ block.body)) :
        Segment.Carry text [.conditional block.condition (inner ++ block.body).reverse] :=
      (hbody.mono fun s hs => List.mem_reverse.mpr hs).conditional block.condition
    obtain h | h | ⟨found, hfound, h⟩ := h
    · exact ih (.inl (hended (h.mono (List.subset_append_left _ _))))
    · exact ih (.inr (.inl h))
    · rcases List.mem_cons.mp hfound with rfl | hfound
      · exact ih (.inl (hended (h.mono (List.subset_append_right _ _))))
      · exact ih (.inr (.inr ⟨found, hfound, h⟩))

/-! ## Runs of plain markup -/

/-- Plain markup after a static segment makes it longer. -/
theorem foldl_static (b : TemplateBuilder) (htmls : List String) (last : String)
    (rest : List Segment) :
    (htmls.map BuildStep.static).foldl TemplateBuilder.step (b.withInnermost (.static last :: rest))
      = b.withInnermost (.static (last ++ String.join htmls) :: rest) := by
  induction htmls generalizing last with
  | nil => rw [List.map_nil, List.foldl_nil, String.join_nil, String.append_empty]
  | cons html htmls ih =>
    have hstep : (b.withInnermost (.static last :: rest)).step (.static html)
        = b.withInnermost (.static (last ++ html) :: rest) := by
      show (b.withInnermost (.static last :: rest)).push (.static html) = _
      rw [push_eq, innermost_withInnermost, withInnermost_withInnermost, append]
      split
      · next hempty => rw [hempty, String.append_empty]
      · rfl
    rw [List.map_cons, List.foldl_cons, hstep, ih, String.join_cons, String.append_assoc]

/-- A run of plain markup is in one segment as soon as it has been pushed. -/
theorem carries_run (b : TemplateBuilder) {html : String} (hhtml : html ≠ "")
    (htmls : List String) :
    (((html :: htmls).map BuildStep.static).foldl TemplateBuilder.step b).Carries
      (String.join (html :: htmls)) := by
  obtain ⟨last, rest, hstep⟩ : ∃ last rest,
      b.step (.static html) = b.withInnermost (.static (last ++ html) :: rest) := by
    show ∃ last rest, b.push (.static html) = _
    rw [push_eq, append, if_neg hhtml]
    unfold joinStatic
    split
    · next last rest _ => exact ⟨last, rest, rfl⟩
    · exact ⟨"", _, by rw [String.empty_append]⟩
  rw [List.map_cons, List.foldl_cons, hstep, foldl_static, String.join_cons, String.append_assoc]
  exact carries_withInnermost (Segment.carry_static (within_append_right _ _))

end TemplateBuilder

/-- **A run of plain markup among the steps stands in one piece in the template.** -/
theorem Template.carries_ofSteps {html : String} (hhtml : html ≠ "") {htmls : List String}
    {steps : List BuildStep} (h : (html :: htmls).map BuildStep.static <:+: steps) :
    Segment.Carry (String.join (html :: htmls)) (Template.ofSteps steps).segments := by
  obtain ⟨before, after, rfl⟩ := h
  rw [Template.ofSteps, List.foldl_append, List.foldl_append]
  exact TemplateBuilder.carry_close (.inr ((TemplateBuilder.carries_run _ hhtml htmls).foldl after))

end PageLang
