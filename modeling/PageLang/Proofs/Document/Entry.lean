import PageLang.Document.Parser
import PageLang.Proofs.Document.Forest

/-!
# Entries

The lines after a component line that are deeper than it are the body of the component. An `Entry`
is a line on its own, or a component line with the entries of its body, so bodies are set apart
from the lines around them before anything else is read off them: the trees of a block, its
misplaced lines, the components and what is reported.
-/

namespace PageLang

/-- A line on its own, or a component line with what follows it at greater depth. -/
inductive Entry where
  | line (line : Line)
  | component (line : Line) (header : ComponentHeader) (body : List Entry)

namespace Entry

/-- The entries of a sequence of lines. -/
def ofLines : List Line → List Entry
  | [] => []
  | l :: rest =>
    match l.content with
    | .component header =>
      .component l header (ofLines (rest.takeWhile fun x => l.indent < x.indent))
        :: ofLines (rest.dropWhile fun x => l.indent < x.indent)
    | _ => .line l :: ofLines rest
termination_by ls => ls.length
decreasing_by
  · have := (List.takeWhile_prefix (l := rest) fun x => l.indent < x.indent).length_le
    simp only [List.length_cons]
    omega
  · have := (List.dropWhile_suffix (l := rest) fun x => l.indent < x.indent).length_le
    simp only [List.length_cons]
    omega
  · simp

/-- The lines of the block itself, without those of component bodies. -/
def ownLines : List Entry → List Line
  | [] => []
  | .line l :: entries => l :: ownLines entries
  | .component _ _ _ :: entries => ownLines entries

/-- The trees of a block. -/
def nodes (entries : List Entry) : List Node := forest (NodeLine.ofLines (ownLines entries))

/-- The first misplaced line of a block itself. -/
def ownMisplaced? (entries : List Entry) : Option Misplaced :=
  misplaced? none (NodeLine.ofLines (ownLines entries))

/-- The one that comes first in the source. -/
def earlier : Option Misplaced → Option Misplaced → Option Misplaced
  | some a, some b => some (if a.line.number < b.line.number then a else b)
  | some a, none => some a
  | none, b => b

/-- The first misplaced line in the component bodies of a block. -/
def bodyMisplaced? : List Entry → Option Misplaced
  | [] => none
  | .line _ :: entries => bodyMisplaced? entries
  | .component _ _ body :: entries =>
    match earlier (ownMisplaced? body) (bodyMisplaced? body) with
    | some m => some m
    | none => bodyMisplaced? entries

/-- The first misplaced line of a block and the component bodies in it. -/
def misplacedIn? (entries : List Entry) : Option Misplaced :=
  earlier (ownMisplaced? entries) (bodyMisplaced? entries)

/-- The components defined in a block, one defined inside a body before the one around it. -/
def components : List Entry → List Component
  | [] => []
  | .line _ :: entries => components entries
  | .component l header body :: entries =>
    components body
      ++ (if header.name = [] then []
        else [⟨Node.kindOfTag header.name, header.parameters, nodes body, l.number⟩])
      ++ components entries

/-- The title after a block, and what is reported of it. The findings on a component line come after
those in its body. -/
def report (title : Option String) : List Entry → Option String × List Diagnostic
  | [] => (title, [])
  | .line l :: entries =>
    let (title, findings) := lineFindings title l
    let (title, rest) := report title entries
    (title, findings.map (·.onLine l.number) ++ rest)
  | .component l header body :: entries =>
    let (title, inner) := report title body
    let (title, rest) := report title entries
    (title, inner ++ (headerFindings header (nodes body)).map (·.onLine l.number) ++ rest)

/-- The document of the entries of a source text, which is refused for the first misplaced line. -/
def document (entries : List Entry) : Except ParseError Document :=
  match misplacedIn? entries with
  | some m => .error m.error
  | none =>
    let (title, diagnostics) := report none entries
    .ok ⟨Node.page title (nodes entries), components entries, diagnostics⟩

end Entry

end PageLang
