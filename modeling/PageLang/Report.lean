import PageLang.ParseError
import PageLang.Text.Blank
import PageLang.Text.Columns
import PageLang.Text.Search

/-!
# Error reports

An error shown in its source: the message, the place, the lines it concerns with what is wrong
underlined, and a short label. A label within one line hangs from its middle; one over several
lines runs down the margin, and all lines between the first and the last are shown as one gap. A
label that reaches beyond the end of the source has no last line to hang from: its text is left
out.

`render` is `format_error`, together with the layout of rows and margins, which that function
leaves to a library.
-/

namespace PageLang.Report

open Text (isBlank trimEnd)

/-- A line of a source. -/
structure SourceLine where
  /-- Counted from one. -/
  number : Nat
  /-- How many characters come before it. -/
  start : Nat
  /-- Its characters, with those that end it. -/
  chars : List Char
  deriving Repr

/-- The characters that end a line. -/
def isLineEnd (c : Char) : Bool :=
  c = '\n' || c = '\r' || c = '\x0b' || c = '\x0c' || c = '\u0085' || c = '\u2028' || c = '\u2029'

/-- A text cut after the end of every line. A line feed after a carriage return belongs to the same
end. -/
def cutLines : List Char → List (List Char)
  | [] => []
  | '\r' :: '\n' :: rest => ['\r', '\n'] :: cutLines rest
  | c :: rest =>
    if isLineEnd c then [c] :: cutLines rest
    else match cutLines rest with
      | [] => [[c]]
      | line :: lines => (c :: line) :: lines

/-- Lines with their numbers and places. -/
def place (number start : Nat) : List (List Char) → List SourceLine
  | [] => []
  | cs :: rest => ⟨number, start, cs⟩ :: place (number + 1) (start + cs.length) rest

/-- The lines of a source. -/
def sourceLines (source : List Char) : List SourceLine := place 1 0 (cutLines source)

namespace SourceLine

/-- How many characters come before what follows it. -/
def stop (l : SourceLine) : Nat := l.start + l.chars.length

/-- What is shown of a line: no blanks at its end. -/
def text (l : SourceLine) : List Char := trimEnd l.chars

/-- The columns that a character takes as the `col`-th of a line: a tab goes to the next stop,
four columns apart. -/
def width (col : Nat) (c : Char) : Nat :=
  if c = '\t' then (col / 4 + 1) * 4 - col else if isBlank c then 1 else Text.columns c

/-- A character as it is shown. -/
def shownChar (col : Nat) (c : Char) : List Char :=
  if isBlank c then List.replicate (width col c) ' ' else [c]

/-- A line as it is shown. -/
def shown (l : SourceLine) : String :=
  String.ofList (l.text.zipIdx.flatMap fun (c, col) => shownChar col c)

/-- How wide a place of a line is; beyond the end all are one column wide. -/
def widthAt (l : SourceLine) (col : Nat) : Nat :=
  match l.text[col]? with
  | some c => width col c
  | none => 1

/-- A row of marks under the first `n` places of a line: a mark at every place, which is continued
by another where the place is wide. -/
def marks (l : SourceLine) (n : Nat) (mark : Nat → Char × Char) : String :=
  String.ofList ((List.range n).flatMap fun col =>
    let (c, tail) := mark col
    (c :: List.replicate (l.widthAt col - 1) tail).take (l.widthAt col))

end SourceLine

/-- The line of a place, for a place in the source or at its end. -/
def lineAt? (source : List Char) (offset : Nat) : Option SourceLine :=
  if offset ≤ source.length then ((sourceLines source).filter (·.start ≤ offset)).getLast? else none

/-- A part of a source with a label: from `start` to before `stop`. -/
structure Label where
  start : Nat
  stop : Nat
  text : String
  first : SourceLine
  last : SourceLine

namespace Label

/-- The columns for the line numbers. -/
def margin (l : Label) : Nat := (toString l.last.number).length

/-- Blanks. -/
def blanks (n : Nat) : String := String.ofList (List.replicate n ' ')

/-- The margin of a source line. -/
def numbered (l : Label) (line : SourceLine) : String :=
  let number := toString line.number
  " " ++ blanks (l.margin - number.length) ++ number ++ " │ "

/-- The margin of any other row. -/
def unnumbered (l : Label) : String := " " ++ blanks (l.margin + 1) ++ "│ "

/-- The margin of a gap. -/
def gap (l : Label) : String := " " ++ blanks (l.margin + 1) ++ "┆ "

/-- Whether a place of the first line belongs to the label. -/
def covers (l : Label) (col : Nat) : Bool :=
  l.start ≤ l.first.start + col && l.first.start + col < l.stop

/-- The place that a label within a line hangs from: its middle. -/
def stem (l : Label) : Nat := (l.start + l.stop) / 2 - l.first.start

/-- The underlining of a label within a line. -/
def underline (l : Label) (col : Nat) : Char × Char :=
  if col = l.stem then (if l.covers col then ('┬', '─') else ('│', ' '))
  else if l.covers col then ('─', '─') else (' ', ' ')

/-- The line from a label within a line to its text. -/
def arrow (l : Label) (col : Nat) : Char × Char :=
  if col = l.stem then ('╰', '─') else if l.stem < col then ('─', '─') else (' ', ' ')

/-- Whether a label ends within its last line, and not beyond the end of the source. -/
def ends (l : Label) : Bool := l.stop ≤ l.last.stop

/-- The rows of a label within a line. -/
def inlineRows (l : Label) : List String :=
  let n := l.stop - l.first.start + 2
  if l.ends then
    [l.numbered l.first ++ l.first.shown,
      l.unnumbered ++ l.first.marks n l.underline,
      l.unnumbered ++ l.first.marks n l.arrow ++ " " ++ l.text]
  else [l.unnumbered]

/-- The rows of a label over several lines. -/
def blockRows (l : Label) : List String :=
  let n := l.last.chars.length + 2
  let lastRows :=
    if l.ends then
      [l.numbered l.last ++ "├─▶ " ++ l.last.shown,
        l.unnumbered ++ "│   " ++ l.last.marks n fun _ => (' ', ' '),
        l.unnumbered ++ "╰───" ++ (l.last.marks n fun _ => ('─', '─')) ++ " " ++ l.text]
    else []
  [l.numbered l.first ++ "╭─▶ " ++ l.first.shown]
    ++ (if !l.ends || l.first.number + 1 < l.last.number then [l.gap ++ "┆   "] else [])
    ++ lastRows

/-- The rows of a labelled part of a file. -/
def rows (l : Label) (file : String) : List String :=
  let place := toString l.first.number ++ ":" ++ toString (l.start - l.first.start + 1)
  [blanks (l.margin + 2) ++ "╭─[" ++ file ++ ":" ++ place ++ "]", blanks (l.margin + 2) ++ "│"]
    ++ (if l.first.number = l.last.number then l.inlineRows else l.blockRows)
    ++ [String.ofList (List.replicate (l.margin + 2) '─') ++ "╯"]

/-- A label on a part of a source, if the part lies in it. An empty part lies in the line of its
place. -/
def ofSpan? (source : List Char) (start stop : Nat) (text : String) : Option Label := do
  let first ← lineAt? source start
  let last ← if start < stop then lineAt? source (stop - 1) else some first
  return ⟨start, stop, text, first, last⟩

end Label

/-- The span of an error, cut to the bytes of the source. -/
def span (e : ParseError) (source : String) : Nat × Nat :=
  let stop := min e.span.2 source.utf8ByteSize
  (min e.span.1 stop, stop)

/-- The report of an error in a file. The span of the error is taken to count characters; when it
leaves the source there is only the message. -/
def render (e : ParseError) (file source : String) : String :=
  let (start, stop) := span e source
  let rows := match Label.ofSpan? source.toList start stop e.label with
    | none => []
    | some l => l.rows file
  String.join ((("Error: " ++ e.message) :: rows).map (· ++ "\n"))

end PageLang.Report
