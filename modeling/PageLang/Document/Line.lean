import PageLang.Node
import PageLang.Properties
import PageLang.Text.Letter

/-!
# Lines of a source text

A source text is read line by line. Blank lines and lines that start with `#` say nothing. Every
other line has an indentation, the number of blanks before its text, and a `LineContent` that its
tag decides: a page line gives the title, a state line declares an entry, a component line opens a
definition, and any other tag makes a node.

`Line.ofSource` is `scan_lines`, `splitTag` is `split_tag` and `isIdentifier` is `is_identifier`.
`Line.content` is the choice by tag that `parse_block` makes; `StateEntry.ofText?` and
`ComponentHeader.ofText` are what `parse_state` and `parse_component` read off the line itself,
and `Line.node?` builds what `parse_state` and `parse_element` build.
-/

namespace PageLang

open Text (trim trimStart trimEnd isBlank isLetter isAlphanumeric byteLength splitBy)

/-- A line that says something. -/
structure Line where
  /-- Counted from one. -/
  number : Nat
  /-- How many blanks stand before the text; a tab counts as one. -/
  indent : Nat
  /-- The byte of the source at which the text starts. -/
  offset : Nat
  /-- The text without the blanks around it. -/
  text : List Char
  deriving DecidableEq, Repr

namespace Line

/-- The line with the given number that starts at byte `start`, if it says something. -/
def ofRaw? (number start : Nat) (raw : List Char) : Option Line :=
  let leading := raw.takeWhile isBlank
  match trim raw with
  | [] => none
  | '#' :: _ => none
  | text => some ⟨number, leading.length, start + byteLength leading, text⟩

/-- The lines of the pieces of a text, the first of which has the given number and starts at byte
`start`. -/
def ofPieces (number start : Nat) : List (List Char) → List Line
  | [] => []
  | raw :: pieces =>
    let lines := ofPieces (number + 1) (start + byteLength raw + 1) pieces
    match ofRaw? number start raw with
    | some line => line :: lines
    | none => lines

/-- The lines of a source text. -/
def ofSource (source : String) : List Line := ofPieces 1 0 (splitBy (· = '\n') source.toList)

end Line

/-- The characters of a tag. -/
def isTagChar (c : Char) : Bool := c.isAlphanum || c = '_' || c = '-'

/-- A text cut after the tag it starts with. -/
def splitTag (cs : List Char) : List Char × List Char := cs.span isTagChar

/-- Whether a text is a letter or `_` followed by letters, numerals and `_`. -/
def isIdentifier : List Char → Bool
  | [] => false
  | c :: rest => (isLetter c || c = '_') && rest.all fun c => isAlphanumeric c || c = '_'

/-- The name and the parameters that a component line gives. -/
structure ComponentHeader where
  /-- The name as it is written. -/
  name : List Char
  parameters : List String
  /-- What was written in the place of a parameter and cannot be one. -/
  invalid : List String
  deriving DecidableEq, Repr

/-- What the text after the tag of a component line gives. -/
def ComponentHeader.ofText (text : List Char) : ComponentHeader :=
  let (name, rest) := splitTag (trimStart text)
  let words := (splitBy (fun c => c = ',' || isBlank c) rest).filter (· ≠ [])
  ⟨name, (words.filter isIdentifier).map String.ofList,
    (words.filter (!isIdentifier ·)).map String.ofList⟩

/-- The entry that the text after the tag of a state line declares: a name, a colon and a value. -/
def StateEntry.ofText? (text : List Char) : Option StateEntry :=
  let (name, rest) := (trim text).span fun c => isAlphanumeric c || c = '_'
  match trimStart rest with
  | ':' :: value =>
    if isIdentifier name then some ⟨String.ofList name, Literal.coerce value⟩ else none
  | _ => none

/-- What a line says. -/
inductive LineContent where
  | untagged
  /-- The title, if the line gives one. -/
  | page (title : Option String)
  /-- The entry, if the line declares one. -/
  | state (entry : Option StateEntry)
  | component (header : ComponentHeader)
  | element (tag : List Char) (properties : Properties)

/-- What a line says. -/
def Line.content (line : Line) : LineContent :=
  let (tag, rest) := splitTag line.text
  if tag = [] then .untagged
  else if tag = "page".toList then .page ((Properties.ofText rest).pairs.get? "title")
  else if tag = "state".toList then .state (StateEntry.ofText? rest)
  else if tag = "component".toList then .component (.ofText rest)
  else .element tag (.ofText rest)

/-- The header of a component line. -/
def Line.header? (line : Line) : Option ComponentHeader :=
  match line.content with
  | .component header => some header
  | _ => none

/-- The node that a line gives on its own. State lines and elements give one. -/
def Line.node? (line : Line) : Option Node :=
  match line.content with
  | .state (some entry) => some { kind := Node.stateKind, state := some entry, line := line.number }
  | .element tag p =>
    some { kind := Node.kindOfTag tag, properties := p.pairs, content := p.content, line :=
      line.number }
  | _ => none

/-- Whether a line declares a state entry, so that nothing can stand below it. -/
def Line.declaresState (line : Line) : Bool :=
  match line.content with
  | .state (some _) => true
  | _ => false

end PageLang
