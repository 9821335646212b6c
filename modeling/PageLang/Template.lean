import PageLang.Action.Evaluation
import PageLang.Markup.Escape
import PageLang.Markup.Marker
import PageLang.Markup.Url

/-!
# Templates

Markup with holes that the state fills: a template is made once and rendered after every change.

`Template.render` is `render` and `Segment.renderAll` is `render_segments`. The text is returned
where `render_segments` appends to an output; `Expr.holds` leaves out that it also logs a
condition that cannot be evaluated.
-/

namespace PageLang

/-- A part of a template. -/
inductive Segment where
  /-- Markup as it stands. -/
  | static (html : String)
  /-- The value of an entry, escaped. -/
  | text (name : String)
  /-- An address with markers, filled and then checked. -/
  | url (value : String)
  /-- Parts that show only while a condition holds. -/
  | conditional (condition : Expr) (body : List Segment)
  /-- The attribute of a box that is ticked while an entry counts as true. -/
  | checked (name : String)
  /-- The attribute of an option that is chosen while an entry shows as it. -/
  | selected (name option : String)
  deriving Repr, Inhabited

/-- Markup with holes. -/
structure Template where
  segments : List Segment := []
  deriving Repr, Inhabited

/-- Whether a condition holds. One that cannot be evaluated does not. -/
def Expr.holds (s : State) (e : Expr) : Bool :=
  match e.evaluate s with
  | .ok v => v.isTruthy
  | .error _ => false

/-- Whether an entry counts as true. An entry that is not there does not. -/
def State.isTruthy (s : State) (name : String) : Bool := (s.get? name).any Value.isTruthy

/-- Whether an entry shows as a text. -/
def State.shows (s : State) (name text : String) : Bool :=
  (s.get? name).any fun v => v.display == text

mutual

/-- The markup of a segment in a state. -/
def Segment.render (s : State) : Segment → String
  | .static html => html
  | .text name =>
    match s.get? name with
    | some v => Markup.escape v.display
    | none => Markup.escape (Markup.marker name)
  | .url value => Markup.escape (Markup.neutralize (Markup.fill s value))
  | .conditional condition body => if condition.holds s then Segment.renderAll s body else ""
  | .checked name => if s.isTruthy name then " checked" else ""
  | .selected name option => if s.shows name option then " selected" else ""

/-- The markup of segments in a state. -/
def Segment.renderAll (s : State) : List Segment → String
  | [] => ""
  | segment :: segments => segment.render s ++ Segment.renderAll s segments

end

theorem Segment.renderAll_append (s : State) (xs ys : List Segment) :
    Segment.renderAll s (xs ++ ys) = Segment.renderAll s xs ++ Segment.renderAll s ys := by
  induction xs with
  | nil => simp [Segment.renderAll]
  | cons x xs ih => simp [Segment.renderAll, ih, String.append_assoc]

/-- The markup of a template in a state. -/
def Template.render (t : Template) (s : State) : String := Segment.renderAll s t.segments

end PageLang
