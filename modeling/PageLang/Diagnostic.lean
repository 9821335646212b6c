import PageLang.ParseError

/-!
# Diagnostics

Anomalies that do not stop a compilation: it goes on and reports them. A `Finding` is what was
found, with all that its message tells; a `Diagnostic` is its kind and message at a line of the
source.

`DiagnosticKind` and `Diagnostic` are of those names, and `render` is the display of the latter.
Messages are written out there where something is reported; here a report gives a `Finding`, and
`Finding.message` has the wording of all of them.
-/

namespace PageLang

/-- The class of an anomaly. -/
inductive DiagnosticKind where
  | propertyParse
  | malformedLine
  | malformedState
  | duplicateTitle
  | duplicateState
  | duplicateComponent
  | componentExpansion
  | invalidAction
  | unknownBinding
  deriving DecidableEq, Repr

namespace DiagnosticKind

/-- The name of a class. -/
def name : DiagnosticKind → String
  | propertyParse => "PropertyParse"
  | malformedLine => "MalformedLine"
  | malformedState => "MalformedState"
  | duplicateTitle => "DuplicateTitle"
  | duplicateState => "DuplicateState"
  | duplicateComponent => "DuplicateComponent"
  | componentExpansion => "ComponentExpansion"
  | invalidAction => "InvalidAction"
  | unknownBinding => "UnknownBinding"

/-- The class of a name. -/
def ofName? : String → Option DiagnosticKind
  | "PropertyParse" => some propertyParse
  | "MalformedLine" => some malformedLine
  | "MalformedState" => some malformedState
  | "DuplicateTitle" => some duplicateTitle
  | "DuplicateState" => some duplicateState
  | "DuplicateComponent" => some duplicateComponent
  | "ComponentExpansion" => some componentExpansion
  | "InvalidAction" => some invalidAction
  | "UnknownBinding" => some unknownBinding
  | _ => none

end DiagnosticKind

/-- An anomaly reported at a line. -/
structure Diagnostic where
  kind : DiagnosticKind
  line : Nat
  message : String
  deriving DecidableEq, Repr

/-- A diagnostic on one line of text. -/
def Diagnostic.render (d : Diagnostic) : String :=
  "line " ++ toString d.line ++ ": " ++ d.kind.name ++ ": " ++ d.message

/-- What was found. -/
inductive Finding where
  /-- A piece of a property list that is no `key: value` pair. -/
  | skippedPair (pair : String)
  | untaggedLine (text : String)
  | untitledPage
  | repeatedTitle (kept ignored : String)
  | malformedState (text : String)
  | unnamedComponent
  | invalidParameter (parameter component : String)
  | emptyBody (component : String)
  | reservedComponent (component : String)
  | redefinedComponent (component : String) (line : Nat)
  /-- A component used inside its own expansion; the stack is outermost first. -/
  | recursiveUsage (component : String) (stack : List String)
  | missingParameter (parameter component : String)
  | unknownSlot (component slot : String)
  | straySlot (slot : String)
  | redeclaredState (name value previous : String)
  | invalidAction (source : String) (error : ParseError)
  | invalidCondition (source : String) (error : ParseError)
  | undeclaredState (source name : String)
  | undeclaredBinding (name : String)

namespace Finding

/-- The class of a finding. -/
def kind : Finding → DiagnosticKind
  | skippedPair _ => .propertyParse
  | untaggedLine _ => .malformedLine
  | untitledPage => .malformedLine
  | repeatedTitle _ _ => .duplicateTitle
  | malformedState _ => .malformedState
  | unnamedComponent => .malformedLine
  | invalidParameter _ _ => .malformedLine
  | emptyBody _ => .componentExpansion
  | reservedComponent _ => .duplicateComponent
  | redefinedComponent _ _ => .duplicateComponent
  | recursiveUsage _ _ => .componentExpansion
  | missingParameter _ _ => .componentExpansion
  | unknownSlot _ _ => .componentExpansion
  | straySlot _ => .componentExpansion
  | redeclaredState _ _ _ => .duplicateState
  | invalidAction _ _ => .invalidAction
  | invalidCondition _ _ => .invalidAction
  | undeclaredState _ _ => .unknownBinding
  | undeclaredBinding _ => .unknownBinding

/-- The wording of a finding. -/
def message : Finding → String
  | skippedPair pair => "skipped unparseable property '" ++ pair ++ "'"
  | untaggedLine text => "line has no tag: '" ++ text ++ "'"
  | untitledPage => "page line without a title: property"
  | repeatedTitle kept ignored =>
    "page title already set to '" ++ kept ++ "', ignoring '" ++ ignored ++ "'"
  | malformedState text => "expected 'state <name>: <value>', found '" ++ text ++ "'"
  | unnamedComponent => "component line without a name"
  | invalidParameter parameter component =>
    "invalid parameter name '" ++ parameter ++ "' on component " ++ component
  | emptyBody component => "component " ++ component ++ " has an empty body"
  | reservedComponent component =>
    "'" ++ component ++ "' is reserved and cannot be a component name"
  | redefinedComponent component line =>
    "component " ++ component ++ " redefined; replaces the definition on line " ++ toString line
  | recursiveUsage component stack =>
    "recursive usage of component " ++ component ++ " ("
      ++ String.intercalate " → " (stack ++ [component]) ++ "); left unexpanded"
  | missingParameter parameter component =>
    "missing parameter '" ++ parameter ++ "' for component " ++ component
      ++ "; placeholder left literal"
  | unknownSlot component slot =>
    "component " ++ component ++ " has no slot named '" ++ slot ++ "'; its content is dropped"
  | straySlot slot => "slot '" ++ slot ++ "' is outside any component and was removed"
  | redeclaredState name value previous =>
    "state '" ++ name ++ "' redeclared; '" ++ value ++ "' replaces '" ++ previous ++ "'"
  | invalidAction source error => "action '" ++ source ++ "' does not parse: " ++ error.message
  | invalidCondition source error =>
    "condition '" ++ source ++ "' does not parse: " ++ error.message
  | undeclaredState source name => "'" ++ source ++ "' uses undeclared state '" ++ name ++ "'"
  | undeclaredBinding name =>
    "bind: '" ++ name ++ "' names no declared state; control left unbound"

/-- A finding reported at a line. -/
def onLine (f : Finding) (line : Nat) : Diagnostic := ⟨f.kind, line, f.message⟩

end Finding

end PageLang
