import PageLang.Decimal.Format
import PageLang.Decimal.Reader
import PageLang.Diagnostic
import PageLang.OrderedMap
import PageLang.Text.Blank
import PageLang.Text.CaseMap

/-!
# The tree of a page

A page is a tree of nodes. Every node has a kind, named properties, a content text and the number
of the line it was written on; a node that declares a state entry carries it. Components are named
lists of nodes with parameters. A document is what one source text gives.

`kindOfTag` is `canonicalize_kind`, `slotName` is `slot_name`, `Literal.coerce` is `coerce` with
`isNumeral` for `is_numeric_literal`, and `Literal.display` is the display of a `StateValue`.
-/

namespace PageLang

open Text (trim stored)

/-- The initial value of a state entry. -/
inductive Literal where
  | number (value : Float)
  | text (value : String)
  deriving DecidableEq, Repr, Inhabited

namespace Literal

/-- Whether a text is a numeral with at most a minus sign before it. -/
def isNumeral : List Char → Bool
  | '-' :: cs => Decimal.isNumeral cs
  | cs => Decimal.isNumeral cs

/-- The value that a text on a state line stands for: a number if it looks like one, else the
text, without the quotes around it if there are any. -/
def coerce (raw : List Char) : Literal :=
  match isNumeral (trim raw), Decimal.parse? (trim raw) with
  | true, some x => .number x
  | _, _ => .text (String.ofList (stored raw))

/-- How a value is shown. -/
def display : Literal → String
  | .number x => Decimal.display x
  | .text s => s

end Literal

/-- A declared state entry. -/
structure StateEntry where
  name : String
  value : Literal
  deriving DecidableEq, Repr, Inhabited

/-- A node of the tree. -/
structure Node where
  kind : String
  properties : OrderedMap String := ∅
  content : String := ""
  children : List Node := []
  /-- The entry that the node declares. -/
  state : Option StateEntry := none
  /-- The line of the source, counted from one. -/
  line : Nat
  deriving Repr, Inhabited

/-- The kinds with a meaning of their own. -/
def Node.pageKind : String := "Page"

@[inherit_doc Node.pageKind]
def Node.stateKind : String := "State"

@[inherit_doc Node.pageKind]
def Node.slotKind : String := "Slot"

/-- The slot of content that names none. -/
def Node.defaultSlot : String := "default"

/-- The kind that a tag stands for: the tag with a capital first letter. -/
def Node.kindOfTag : List Char → String
  | [] => ""
  | c :: rest => String.ofList (Text.upperChar c ++ rest)

/-- The title of a page. -/
def Node.title? (n : Node) : Option String := n.properties.get? "title"

/-- The name of the slot that a slot marker stands for. -/
def Node.slotName (n : Node) : String :=
  let named := (n.properties.get? "name").getD ""
  let content := Text.trimmed n.content
  if named ≠ "" then named else if content ≠ "" then content else Node.defaultSlot

mutual

/-- How many nodes a tree has. -/
def Node.count : Node → Nat
  | ⟨_, _, _, children, _, _⟩ => Node.countAll children + 1

/-- How many nodes a list of trees has. -/
def Node.countAll : List Node → Nat
  | [] => 0
  | n :: ns => n.count + Node.countAll ns

end

mutual

/-- A node and all below it, the upper before the lower and from left to right. -/
def Node.preorder : Node → List Node
  | n@⟨_, _, _, children, _, _⟩ => n :: Node.preorderAll children

/-- All nodes of a list of trees. -/
def Node.preorderAll : List Node → List Node
  | [] => []
  | n :: ns => n.preorder ++ Node.preorderAll ns

end

/-- A tree is its root and then the trees below it. -/
theorem Node.preorder_eq (n : Node) : n.preorder = n :: Node.preorderAll n.children := by
  obtain ⟨kind, properties, content, children, state, line⟩ := n
  rw [Node.preorder]

/-- Two runs of trees are walked one after the other. -/
theorem Node.preorderAll_append (ns ms : List Node) :
    Node.preorderAll (ns ++ ms) = Node.preorderAll ns ++ Node.preorderAll ms := by
  induction ns with
  | nil => rw [Node.preorderAll, List.nil_append, List.nil_append]
  | cons n ns ih => rw [List.cons_append, Node.preorderAll, Node.preorderAll, ih, List.append_assoc]

/-- The nodes of several trees are those of each. -/
theorem Node.mem_preorderAll {m : Node} {ns : List Node} :
    m ∈ Node.preorderAll ns ↔ ∃ n ∈ ns, m ∈ n.preorder := by
  induction ns with
  | nil => simp [Node.preorderAll]
  | cons n ns ih => simp [Node.preorderAll, ih]

theorem Node.mem_preorderAll_of_mem {n : Node} {ns : List Node} (h : n ∈ ns) :
    n ∈ Node.preorderAll ns := by
  refine Node.mem_preorderAll.mpr ⟨n, h, ?_⟩
  rw [Node.preorder_eq]
  exact List.mem_cons_self ..

mutual

/-- The tree with a function applied to every node, whose children are then the changed ones. -/
def Node.mapAll (f : Node → Node) : Node → Node
  | n@⟨_, _, _, children, _, _⟩ => { f n with children := Node.mapAllList f children }

/-- The trees with a function applied to every node. -/
def Node.mapAllList (f : Node → Node) : List Node → List Node
  | [] => []
  | n :: ns => n.mapAll f :: Node.mapAllList f ns

end

mutual

/-- Whether two trees are equal. -/
def Node.same : Node → Node → Bool
  | ⟨k, p, c, ns, s, l⟩, ⟨k', p', c', ns', s', l'⟩ =>
    k == k' && p.entries == p'.entries && c == c' && Node.sameList ns ns' && s == s' && l == l'

/-- Whether two lists of trees are equal. -/
def Node.sameList : List Node → List Node → Bool
  | [], [] => true
  | n :: ns, n' :: ns' => n.same n' && Node.sameList ns ns'
  | _, _ => false

end

/-- A named list of nodes with parameters, to be put in place of its usages. -/
structure Component where
  name : String
  parameters : List String
  body : List Node
  line : Nat
  deriving Repr, Inhabited

/-- What one source text gives: a page on which components are used, and their definitions. -/
structure Document where
  page : Node
  components : List Component
  diagnostics : List Diagnostic
  deriving Repr, Inhabited

/-- All nodes of a document: the bodies of its components, then the page. -/
def Document.preorder (d : Document) : List Node :=
  d.components.flatMap (fun c => Node.preorderAll c.body) ++ d.page.preorder

end PageLang
