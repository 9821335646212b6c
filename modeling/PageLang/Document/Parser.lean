import PageLang.Document.Frame

/-!
# Documents

A block is read line by line. A component line opens a block of its own, the deeper lines that
follow it; its nodes become the body of the component and are not placed in the block around it.
All other lines that give nodes are placed on the stack of the block. The page has the first title
that any line gives.

`parseBlock` is `parse_block` with `parse_component` in it, and `Document.parse` is
`parse_document`. The lines that are still to be read, the title, the components and the
diagnostics are passed along and returned rather than kept in a parser; `lineFindings` gathers
what `parse_page`, `parse_state` and `parse_element` report of one line.
-/

namespace PageLang

/-- What is found on a component line, once its body is known. -/
def headerFindings (header : ComponentHeader) (body : List Node) : List Finding :=
  if header.name = [] then [.unnamedComponent]
  else
    header.invalid.map (.invalidParameter · (String.ofList header.name))
      ++ (if body.isEmpty then [.emptyBody (Node.kindOfTag header.name)] else [])

/-- The title after a line, and what is found on the line. -/
def lineFindings (title : Option String) (l : Line) : Option String × List Finding :=
  match l.content with
  | .untagged => (title, [.untaggedLine (String.ofList l.text)])
  | .page none => (title, [.untitledPage])
  | .page (some new) =>
    match title with
    | none => (some new, [])
    | some old => (title, [.repeatedTitle old new])
  | .state none => (title, [.malformedState (String.ofList l.text)])
  | .state (some _) => (title, [])
  | .component _ => (title, [])
  | .element _ p => (title, p.skipped.map .skippedPair)

/-- The root of a page. -/
def Node.page (title : Option String) (children : List Node) : Node where
  kind := Node.pageKind
  properties := match title with
    | none => ∅
    | some title => (∅ : OrderedMap String).insert "title" title
  children := children
  line := 0

namespace Document

/-- What the lines so far have given beside nodes. -/
structure Gathered where
  title : Option String := none
  components : List Component := []
  diagnostics : List Diagnostic := []

namespace Gathered

/-- Report what was found on a line. -/
def report (g : Gathered) (l : Line) (findings : List Finding) : Gathered :=
  { g with diagnostics := g.diagnostics ++ findings.map (·.onLine l.number) }

/-- Note what a line gives beside its node. -/
def note (g : Gathered) (l : Line) : Gathered :=
  let (title, findings) := lineFindings g.title l
  { g.report l findings with title }

/-- Add the component of a line, unless the line names none. -/
def define (g : Gathered) (l : Line) (header : ComponentHeader) (body : List Node) : Gathered :=
  let g := g.report l (headerFindings header body)
  if header.name = [] then g
  else
    let component := ⟨Node.kindOfTag header.name, header.parameters, body, l.number⟩
    { g with components := g.components ++ [component] }

end Gathered

/-- What is known when a block that starts with these lines has ended. -/
structure Block (lines : List Line) where
  nodes : List Node
  gathered : Gathered
  /-- The lines that do not belong to the block any more. -/
  rest : List Line
  length_rest : rest.length ≤ lines.length

/-- Read a block: the lines deeper than `base`, or all that are left if there is no `base`. -/
def parseBlock (base : Option Nat) (s : Frames) (g : Gathered) :
    (lines : List Line) → Except Misplaced (Block lines)
  | [] => .ok ⟨s.close, g, [], Nat.le_refl _⟩
  | l :: lines =>
    if base.any (l.indent ≤ ·) then .ok ⟨s.close, g, l :: lines, Nat.le_refl _⟩
    else
      match l.header? with
      | some header => do
        let body ← parseBlock (some l.indent) (.container l.indent) g lines
        let block ← parseBlock base s (body.gathered.define l header body.nodes) body.rest
        return { block with
          length_rest := Nat.le_succ_of_le (Nat.le_trans block.length_rest body.length_rest) }
      | none => do
        let s ← s.placeLine l
        let block ← parseBlock base s (g.note l) lines
        return { block with length_rest := Nat.le_succ_of_le block.length_rest }
termination_by lines => lines.length
decreasing_by
  · simp
  · have := body.length_rest
    simp only [List.length_cons]
    omega
  · simp

end Document

/-- The document that a source text gives. The only reason to refuse it is a line that cannot
stand where it does. -/
def Document.parse (source : String) : Except ParseError Document :=
  match Document.parseBlock none (.container 0) {} (Line.ofSource source) with
  | .error m => .error m.error
  | .ok block =>
    let g := block.gathered
    .ok ⟨Node.page g.title block.nodes, g.components, g.diagnostics⟩

end PageLang
