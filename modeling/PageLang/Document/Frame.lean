import PageLang.Document.Line

/-!
# Open nodes

While the lines of a block are read, the nodes that can still get children stand on a stack: each
is a child of the one below it, and the one at the bottom stands for the block itself. A line
first closes every open node that is not less indented than it (`closeUntil` is `close_until`),
then has to line up with the children that the node on top already has (`checkSibling` is
`check_sibling`), and becomes the last of them. Unless it declares a state entry, it is then open
itself.

The stack is never empty, so the two have no case for an empty one.
-/

namespace PageLang

/-- A line and what is wrong with its indentation. -/
structure Misplaced where
  line : Line
  cause : Misplacement

/-- The error that a misplaced line is. -/
def Misplaced.error (m : Misplaced) : ParseError :=
  .misplaced m.line.number (m.line.indent + 1) m.line.offset
    (m.line.offset + Text.byteLength m.line.text) m.cause (String.ofList m.line.text)

namespace Document

/-- An open node that waits for children. -/
structure Frame where
  indent : Nat
  node : Node
  /-- The indentation of the first child, which every later one must share. -/
  childIndent : Option Nat := none

/-- Add a last child. -/
def Frame.attach (f : Frame) (child : Node) : Frame :=
  { f with node := { f.node with children := f.node.children ++ [child] } }

/-- The frame once a line is to become its child, which has to line up with the earlier children. -/
def Frame.checkSibling (f : Frame) (l : Line) : Except Misplaced Frame :=
  match f.childIndent with
  | none => .ok { f with childIndent := some l.indent }
  | some expected =>
    if l.indent = expected then .ok f
    else
      let underState := expected < l.indent
        ∧ f.node.children.getLast?.any (·.kind = Node.stateKind)
      .error ⟨l, if underState then .belowState else .unaligned l.indent expected⟩

/-- The open nodes of a block. -/
structure Frames where
  top : Frame
  /-- The frames below the top, the innermost first. -/
  below : List Frame := []

namespace Frames

/-- The stack on which a block starts. -/
def container (indent : Nat) : Frames where
  top := { indent, node := { kind := Node.pageKind, line := 0 } }

/-- Close `top` and the frames below it as long as they are at `indent` or deeper, each into the one
below it. The frame at the bottom stays open. -/
def closeFrom (indent : Nat) (top : Frame) : List Frame → Frames
  | [] => { top }
  | parent :: below =>
    if indent ≤ top.indent then closeFrom indent (parent.attach top.node) below
    else { top, below := parent :: below }

/-- Close every frame at `indent` or deeper. -/
def closeUntil (s : Frames) (indent : Nat) : Frames := closeFrom indent s.top s.below

/-- Put the node of a line where its indentation says. -/
def place (s : Frames) (l : Line) (n : Node) : Except Misplaced Frames := do
  let s := s.closeUntil l.indent
  let top ← s.top.checkSibling l
  if l.declaresState then
    return { s with top := top.attach n }
  else
    return { top := { indent := l.indent, node := n }, below := top :: s.below }

/-- Put a line where its indentation says, if it gives a node. -/
def placeLine (s : Frames) (l : Line) : Except Misplaced Frames :=
  match l.node? with
  | none => .ok s
  | some n => s.place l n

/-- The nodes of the block, once it has ended. -/
def close (s : Frames) : List Node := (s.closeUntil 0).top.node.children

end Frames

end Document

end PageLang
