/-!
# JSON values

The values of the data format: numbers are whole or fractional, and an object is a list of members
in the order in which they are written.
-/

namespace PageLang

/-- A JSON value. -/
inductive Json where
  | null
  | bool (value : Bool)
  | int (value : Int)
  | float (value : Float)
  | str (value : String)
  | arr (items : List Json)
  | obj (members : List (String × Json))
  deriving Inhabited, Repr

namespace Json

/-- The object of the members that are present. -/
def object (members : List (String × Option Json)) : Json :=
  .obj (members.filterMap fun m => m.2.map (m.1, ·))

/-- Nothing for an empty list, else the value: a member left out when there is nothing in it. -/
def unlessEmpty {α : Type} (items : List α) (value : Json) : Option Json :=
  if items.isEmpty then none else some value

end Json

end PageLang
