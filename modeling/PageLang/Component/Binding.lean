import PageLang.Node
import PageLang.Text.Search

/-!
# Parameters

When a component is used, the properties of the usage give values to its parameters. In every text
of the body that is just the name of a parameter the value takes its place; in other texts the
markers `{name}` are replaced, parameter after parameter.

`Binding` is `ParameterBinder`: `apply` is its `bind`, `applyNode` its `visit_node_mut`, and
`missing` is of that name. The nodes that are changed in place there are returned here.
-/

namespace PageLang

/-- The parameters of a component and the properties of a usage. -/
structure Binding where
  parameters : List String
  values : OrderedMap String

namespace Binding

/-- The marker of a parameter. -/
def marker (parameter : String) : List Char := '\x7b' :: parameter.toList ++ ['\x7d']

/-- The text after the markers of one parameter have been replaced, if it has a value. -/
def fill (b : Binding) (text : List Char) (parameter : String) : List Char :=
  match b.values.get? parameter with
  | none => text
  | some value => Text.replaceAll (marker parameter) value.toList text

/-- A text of the body with the values of the parameters. -/
def apply (b : Binding) (text : String) : String :=
  let name := Text.trimmed text
  match b.parameters.contains name, b.values.get? name with
  | true, some value => value
  | _, _ => String.ofList (b.parameters.foldl b.fill text.toList)

/-- A node with the values of the parameters in its own texts. -/
def applyNode (b : Binding) (n : Node) : Node :=
  { n with properties := n.properties.mapValues b.apply, content := b.apply n.content }

/-- A body with the values of the parameters in all its texts. -/
def applyBody (b : Binding) (body : List Node) : List Node := Node.mapAllList b.applyNode body

/-- The parameters that the usage gives no value. -/
def missing (b : Binding) : List String := b.parameters.filter fun p => !b.values.contains p

end Binding

end PageLang
