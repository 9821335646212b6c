import PageLang.Template

/-!
# Building templates

A template is built by steps from left to right. Neighbouring pieces of plain markup are joined,
empty ones dropped. A block that is never ended ends with the template, and an end without a block
is ignored.

`TemplateBuilder` is of that name. `append` and `push` are `push_static` and `push`, `beginIf` and
`endIf` are `begin_if` and `end_if`, and `finish` is `finish`. The frame at the bottom of the
stack is a field of its own, so that `current` has no case without one. A `BuildStep` names one of
these calls, so that what a lowering does can be written down as a list.
-/

namespace PageLang

/-- A step in building a template. -/
inductive BuildStep where
  | static (html : String)
  | segment (s : Segment)
  | beginIf (condition : Expr)
  | endIf
  deriving Repr, Inhabited

/-- An open block: its condition and its segments so far, the last first. -/
structure OpenBlock where
  condition : Expr
  body : List Segment
  deriving Repr, Inhabited

/-- A template under construction: the open blocks, the innermost first, and the segments outside
all of them, the last first. -/
structure TemplateBuilder where
  blocks : List OpenBlock := []
  base : List Segment := []
  deriving Repr, Inhabited

namespace TemplateBuilder

/-- Segments, the last first, after one more piece of plain markup. -/
def joinStatic (html : String) : List Segment → List Segment
  | .static last :: rest => .static (last ++ html) :: rest
  | segments => .static html :: segments

/-- Segments, the last first, after one more. -/
def append (segments : List Segment) : Segment → List Segment
  | .static html => if html = "" then segments else joinStatic html segments
  | segment => segment :: segments

/-- The builder after one more segment in the innermost block. -/
def push (b : TemplateBuilder) (segment : Segment) : TemplateBuilder :=
  match b.blocks with
  | [] => { b with base := append b.base segment }
  | block :: blocks =>
    { b with blocks := { block with body := append block.body segment } :: blocks }

/-- The builder after a block was opened. -/
def beginIf (b : TemplateBuilder) (condition : Expr) : TemplateBuilder :=
  { b with blocks := ⟨condition, []⟩ :: b.blocks }

/-- The builder after the innermost block was ended, if there is one. -/
def endIf (b : TemplateBuilder) : TemplateBuilder :=
  match b.blocks with
  | [] => b
  | block :: blocks => push { b with blocks } (.conditional block.condition block.body.reverse)

/-- The builder after a step. -/
def step (b : TemplateBuilder) : BuildStep → TemplateBuilder
  | .static html => b.push (.static html)
  | .segment s => b.push s
  | .beginIf condition => b.beginIf condition
  | .endIf => b.endIf

/-- The segments when blocks, the innermost first, are ended one after the other; `inner` is what
the innermost of them gets in the end. -/
def close (inner : List Segment) : List OpenBlock → List Segment → List Segment
  | [], base => (inner ++ base).reverse
  | block :: blocks, base =>
    close [.conditional block.condition (inner ++ block.body).reverse] blocks base

/-- The template, all open blocks ended. -/
def finish (b : TemplateBuilder) : Template := ⟨close [] b.blocks b.base⟩

end TemplateBuilder

/-- The template that steps build. -/
def Template.ofSteps (steps : List BuildStep) : Template :=
  (steps.foldl TemplateBuilder.step {}).finish

end PageLang
