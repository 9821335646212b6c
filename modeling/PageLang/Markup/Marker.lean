import PageLang.Text.Letter
import PageLang.Value

/-!
# Markers

A text may show state: `{name}` stands for the current value of the entry `name`. A marker that
names no entry is ordinary text.

`pieces` cuts a text where `interpolation_pattern` matches, and `fill` is `fill_markers`.
-/

namespace PageLang.Markup

open Text (isNameStart isNameChar)

/-- The marker of a name. -/
def marker (name : String) : String := "\x7b" ++ name ++ "\x7d"

/-- A part of a text with markers. -/
inductive Piece where
  | char (c : Char)
  | marker (name : String)
  deriving DecidableEq, Repr

/-- The name in the marker that a text starts with, if it starts with one. -/
def markerName? : List Char → Option (List Char)
  | '\x7b' :: c :: rest =>
    let name := c :: rest.takeWhile isNameChar
    if isNameStart c && (rest.dropWhile isNameChar).head? = some '\x7d' then some name else none
  | _ => none

/-- The parts of a text. -/
def pieces : List Char → List Piece
  | [] => []
  | c :: rest =>
    match markerName? (c :: rest) with
    | some name => .marker (String.ofList name) :: pieces (rest.drop (name.length + 1))
    | none => .char c :: pieces rest
termination_by cs => cs.length
decreasing_by all_goals simp only [List.length_cons, List.length_drop]; omega

/-- The names in the markers of a text. -/
def markerNames (text : String) : List String :=
  (pieces text.toList).filterMap fun
    | .marker name => some name
    | .char _ => none

/-- A part of a text in a state. -/
def Piece.fill (s : State) : Piece → String
  | .char c => c.toString
  | .marker name =>
    match s.get? name with
    | some v => v.display
    | none => Markup.marker name

/-- A text in a state: the values in place of their markers. -/
def fill (s : State) (text : String) : String :=
  String.join ((pieces text.toList).map (Piece.fill s))

end PageLang.Markup
