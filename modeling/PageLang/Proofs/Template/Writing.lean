import PageLang.Template.Builder

/-!
# What build steps write

A list of build steps that ends the blocks it begins adds to a template under construction, and
rendering shows what it adds. `Writes s steps text` says that in the state `s` this is `text`,
whatever was built before. Steps written one after the other write their texts one after the
other, and a block writes what its body writes or nothing, so that joining pieces of plain markup
and keeping a stack of open blocks matter to nothing above this module.
-/

namespace PageLang

open TemplateBuilder

namespace TemplateBuilder

/-- The segments of the innermost open block, the last first. -/
def innermost (b : TemplateBuilder) : List Segment :=
  match b.blocks with
  | [] => b.base
  | block :: _ => block.body

/-- The builder with other segments in the innermost open block. -/
def withInnermost (b : TemplateBuilder) (segments : List Segment) : TemplateBuilder :=
  match b.blocks with
  | [] => { b with base := segments }
  | block :: blocks => { b with blocks := { block with body := segments } :: blocks }

theorem innermost_withInnermost (b : TemplateBuilder) (segments : List Segment) :
    (b.withInnermost segments).innermost = segments := by
  obtain ⟨_ | ⟨block, blocks⟩, base⟩ := b <;> rfl

theorem withInnermost_withInnermost (b : TemplateBuilder) (xs ys : List Segment) :
    (b.withInnermost xs).withInnermost ys = b.withInnermost ys := by
  obtain ⟨_ | ⟨block, blocks⟩, base⟩ := b <;> rfl

theorem withInnermost_innermost (b : TemplateBuilder) : b.withInnermost b.innermost = b := by
  obtain ⟨_ | ⟨block, blocks⟩, base⟩ := b <;> rfl

/-- A segment is pushed into the innermost open block. -/
theorem push_eq (b : TemplateBuilder) (segment : Segment) :
    b.push segment = b.withInnermost (append b.innermost segment) := by
  obtain ⟨_ | ⟨block, blocks⟩, base⟩ := b <;> rfl

/-- Ending a block that was just filled pushes it as a whole. -/
theorem endIf_withInnermost_beginIf (b : TemplateBuilder) (condition : Expr) (body : List Segment) :
    ((b.beginIf condition).withInnermost body).endIf
      = b.push (.conditional condition body.reverse) := rfl

end TemplateBuilder

variable {s : State}

/-- The last segment is rendered last. -/
theorem renderAll_concat (s : State) (segments : List Segment) (segment : Segment) :
    Segment.renderAll s (segments ++ [segment])
      = Segment.renderAll s segments ++ segment.render s := by
  rw [Segment.renderAll_append, Segment.renderAll, Segment.renderAll, String.append_empty]

/-- Joining plain markup renders it behind the rest. -/
theorem renderAll_joinStatic (s : State) (html : String) (segments : List Segment) :
    Segment.renderAll s (joinStatic html segments).reverse
      = Segment.renderAll s segments.reverse ++ html := by
  unfold joinStatic
  split
  · rw [List.reverse_cons, List.reverse_cons, renderAll_concat, renderAll_concat, Segment.render,
      Segment.render, String.append_assoc]
  · rw [List.reverse_cons, renderAll_concat, Segment.render]

/-- Joining plain markup does not change what is rendered. -/
theorem renderAll_append_reverse (s : State) (segments : List Segment) (segment : Segment) :
    Segment.renderAll s (append segments segment).reverse
      = Segment.renderAll s segments.reverse ++ segment.render s := by
  unfold append
  split
  · next html =>
    split
    · next hempty => rw [hempty, Segment.render, String.append_empty]
    · rw [renderAll_joinStatic, Segment.render]
  · rw [List.reverse_cons, renderAll_concat]

/-- The steps add, in the state `s`, exactly `text` to what a template renders to. -/
def Writes (s : State) (steps : List BuildStep) (text : String) : Prop :=
  ∀ b : TemplateBuilder, ∃ segments, steps.foldl step b = b.withInnermost segments
    ∧ Segment.renderAll s segments.reverse = Segment.renderAll s b.innermost.reverse ++ text

theorem Writes.of_eq {steps : List BuildStep} {t u : String} (h : Writes s steps t) (heq : t = u) :
    Writes s steps u :=
  heq ▸ h

/-- No step writes nothing. -/
theorem writes_nil : Writes s [] "" := by
  intro b
  exact ⟨b.innermost, (withInnermost_innermost b).symm, String.append_empty.symm⟩

/-- Steps write one after the other. -/
theorem Writes.append {xs ys : List BuildStep} {t u : String} (hx : Writes s xs t)
    (hy : Writes s ys u) : Writes s (xs ++ ys) (t ++ u) := by
  intro b
  obtain ⟨segments, hfold, hrender⟩ := hx b
  obtain ⟨segments', hfold', hrender'⟩ := hy (b.withInnermost segments)
  refine ⟨segments', ?_, ?_⟩
  · rw [List.foldl_append, hfold, hfold', withInnermost_withInnermost]
  · rw [hrender', innermost_withInnermost, hrender, String.append_assoc]

/-- A step that pushes a segment writes what the segment renders to. -/
theorem writes_of_push {x : BuildStep} {segment : Segment}
    (h : ∀ b : TemplateBuilder, b.step x = b.push segment) : Writes s [x] (segment.render s) := by
  intro b
  refine ⟨TemplateBuilder.append b.innermost segment, ?_, renderAll_append_reverse s _ _⟩
  rw [List.foldl_cons, List.foldl_nil, h, push_eq]

/-- Plain markup is written as it is. -/
theorem writes_static (html : String) : Writes s [.static html] html := by
  have h : Writes s [.static html] ((Segment.static html).render s) := writes_of_push fun _ => rfl
  rwa [Segment.render] at h

/-- A segment is written as it is rendered. -/
theorem writes_segment (segment : Segment) : Writes s [.segment segment] (segment.render s) :=
  writes_of_push fun _ => rfl

/-- Plain markup is written before the rest. -/
theorem Writes.cons_static {xs : List BuildStep} {t : String} (html : String) (h : Writes s xs t) :
    Writes s (.static html :: xs) (html ++ t) :=
  (writes_static html).append h

/-- So is a segment. -/
theorem Writes.cons_segment {xs : List BuildStep} {t : String} (segment : Segment)
    (h : Writes s xs t) : Writes s (.segment segment :: xs) (segment.render s ++ t) :=
  (writes_segment segment).append h

/-- A block writes what its body writes, or nothing. -/
theorem Writes.conditional {body : List BuildStep} {t : String} (condition : Expr)
    (h : Writes s body t) :
    Writes s (.beginIf condition :: body ++ [.endIf]) (if condition.holds s then t else "") := by
  intro b
  obtain ⟨segments, hfold, hrender⟩ := h (b.beginIf condition)
  refine ⟨TemplateBuilder.append b.innermost (.conditional condition segments.reverse), ?_, ?_⟩
  · rw [List.cons_append, List.foldl_cons, List.foldl_append]
    show (body.foldl step (b.beginIf condition)).endIf = _
    rw [hfold, endIf_withInnermost_beginIf, push_eq]
  · -- The block starts empty, so it renders to what the body writes.
    have hbody : Segment.renderAll s segments.reverse = t := by
      rw [hrender]
      exact String.empty_append
    rw [renderAll_append_reverse, Segment.render, hbody]

/-- **The template that steps build renders to what they write.** -/
theorem Writes.render_ofSteps {steps : List BuildStep} {text : String} (h : Writes s steps text) :
    (Template.ofSteps steps).render s = text := by
  obtain ⟨segments, hfold, hrender⟩ := h {}
  unfold Template.ofSteps Template.render
  rw [hfold]
  calc Segment.renderAll s segments.reverse
      = Segment.renderAll s [] ++ text := hrender
    _ = text := String.empty_append

end PageLang
