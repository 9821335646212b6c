import PageLang.Text.Blank

/-!
# Layout

Markup is written with one element a line, indented by depth, or all on one line.

`lineStart` and `lineEnd` are `start_line` and `end_line`. The depth is handed to them; nothing
counts it up and down as `indent` and `dedent` do.
-/

namespace PageLang.Markup

/-- How markup is laid out. -/
structure Layout where
  /-- Whether lines are broken at all. -/
  pretty : Bool := true
  /-- What a line is indented by, once for every level. -/
  indent : String := "  "
  deriving DecidableEq, Repr, Inhabited

namespace Layout

/-- Lines are indented by blanks only. -/
def IsBlank (l : Layout) : Prop := ∀ c ∈ l.indent.toList, Text.isBlank c = true

instance (l : Layout) : Decidable l.IsBlank :=
  decidable_of_iff (l.indent.toList.all Text.isBlank = true) List.all_eq_true

/-- What stands before an element. -/
def lineStart (l : Layout) (depth : Nat) : String :=
  if l.pretty then String.join (List.replicate depth l.indent) else ""

/-- What stands after an element. -/
def lineEnd (l : Layout) : String := if l.pretty then "\n" else ""

end Layout

end PageLang.Markup
