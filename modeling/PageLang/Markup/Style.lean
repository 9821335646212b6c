import PageLang.Markup.Escape
import PageLang.Node

/-!
# Styles

Some properties of a node are short names of style declarations. They are collected, in the order
of the properties, into one attribute.

`styleAttribute` is `add_style` and `isPlainNumber` is `is_bare_number`.
-/

namespace PageLang.Markup

/-- A style declaration with a short name. -/
structure Shorthand where
  name : String
  declares : String
  /-- Whether a plain number counts pixels. -/
  inPixels : Bool

/-- The short names. -/
def shorthands : List Shorthand := [
  ⟨"bg", "background-color", false⟩,
  ⟨"padding", "padding", true⟩,
  ⟨"size", "font-size", true⟩,
  ⟨"weight", "font-weight", false⟩,
  ⟨"color", "color", false⟩,
  ⟨"width", "width", true⟩,
  ⟨"height", "height", true⟩]

/-- Whether a value is a number without a unit: digits with at most one point among them. -/
def isPlainNumber (value : List Char) : Bool :=
  !value.isEmpty && value.all (fun c => c.isDigit || c = '.') && value.count '.' ≤ 1

/-- The declaration that a shorthand makes of a value. -/
def Shorthand.declaration (s : Shorthand) (value : String) : String :=
  let value := Text.trimmed value
  s.declares ++ ": " ++ value ++ (if s.inPixels && isPlainNumber value.toList then "px" else "")

/-- The declarations of a node. -/
def declarations (n : Node) : List String :=
  n.properties.entries.filterMap fun (name, value) =>
    (shorthands.find? (·.name = name)).map (·.declaration value)

/-- The style attribute of a node; nothing if it declares no style. -/
def styleAttribute (n : Node) : String :=
  match declarations n with
  | [] => ""
  | ds => attr "style" (String.intercalate "; " ds)

end PageLang.Markup
