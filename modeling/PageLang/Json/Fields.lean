import PageLang.Json.Basic

/-!
# Parts of a JSON value

What a value read whole is asked for: a scalar, the fields of a record, the kind of a tagged
record. An answer `none` means that the value has another shape.
-/

namespace PageLang.Json

variable {α : Type}

/-- A number, whole or fractional, as a double. -/
def number? : Json → Option Float
  | .int n => some (Float.ofInt n)
  | .float x => some x
  | _ => none

/-- A string. -/
def string? : Json → Option String
  | .str s => some s
  | _ => none

/-- A truth value. -/
def bool? : Json → Option Bool
  | .bool b => some b
  | _ => none

/-- The items of an array. -/
def items? : Json → Option (List Json)
  | .arr items => some items
  | _ => none

/-- One of several named alternatives, written as its name or as an object of the name and
nothing. -/
def alternative? (ofName : String → Option α) : Json → Option α
  | .str s => ofName s
  | .obj [(name, .null)] => ofName name
  | .obj [(name, .obj [])] => ofName name
  | _ => none

/-- The values of a field in a list of members. -/
def valuesOf (name : String) (members : List (String × Json)) : List Json :=
  (members.filter (·.1 = name)).map Prod.snd

/-- The fields of a record in the order of `names`: of an object, each of them once, or of an
array, that has these items and no more. -/
def fields? (names : List String) : Json → Option (List Json)
  | .obj members => names.mapM fun name =>
    match valuesOf name members with
    | [value] => some value
    | _ => none
  | .arr items => if items.length = names.length then some items else none
  | _ => none

/-- The name that a tag gives: itself, or the one at its place among the names. -/
def tagName? (names : List String) : Json → Option String
  | .str s => if s ∈ names then some s else none
  | .int n => if n < 0 then none else names[n.toNat]?
  | _ => none

/-- The kind of a tagged record, one of `names`, and the record without its tag. The tag is the
member `type` of an object or the first item of an array. -/
def tagged? (names : List String) : Json → Option (String × Json)
  | .obj members =>
    match valuesOf "type" members with
    | [tag] => (tagName? names tag).map (·, .obj (members.filter (·.1 ≠ "type")))
    | _ => none
  | .arr (tag :: items) => (tagName? names tag).map (·, .arr items)
  | _ => none

mutual

/-- How many containers and values lie inside one another at most. -/
def height : Json → Nat
  | .arr items => heights items + 1
  | .obj members => memberHeights members + 1
  | _ => 1

/-- The largest height among items. -/
def heights : List Json → Nat
  | [] => 0
  | j :: js => max j.height (heights js)

/-- The largest height among the values of members. -/
def memberHeights : List (String × Json) → Nat
  | [] => 0
  | (_, j) :: js => max j.height (memberHeights js)

end

end PageLang.Json
