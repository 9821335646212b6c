import PageLang.Artifact

/-!
# Lowering in one walk

The template of a tree, its actions and what is reported of it can all be had in one walk that
carries them along, together with how deep it is. Going in and coming out again are then steps of
the walk, and an element with one and not the other would put everything after it at the wrong
depth. None does:

> `Walk.node_eq`: a walk over a node writes the steps that build the node at the depth of the
> walk, notes what the shown nodes in it have to say, and is as deep afterwards as before.
-/

namespace PageLang

open Markup (attr styleAttribute)

/-- Where a walk is and what it has given so far. -/
structure Walk where
  depth : Nat := 0
  builder : TemplateBuilder := {}
  actions : ActionTable := ∅
  diagnostics : List Diagnostic := []

namespace Walk

/-- The walk after one more step. -/
def write (w : Walk) (x : BuildStep) : Walk := { w with builder := w.builder.step x }

/-- The walk after further steps. -/
def writeAll (w : Walk) (steps : List BuildStep) : Walk := steps.foldl write w

/-- The walk one level deeper. -/
def indent (w : Walk) : Walk := { w with depth := w.depth + 1 }

/-- The walk one level up, or where it is if it is at the top. -/
def dedent (w : Walk) : Walk := { w with depth := w.depth - 1 }

/-- The walk with the action of a node noted, if it has one. -/
def noteAction (w : Walk) (n : Node) : Walk :=
  match n.buttonAction? with
  | none => w
  | some source => { w with actions := w.actions.insert source (.ofSource source) }

variable (l : Lowering)

/-- The walk with a node noted: its action, and what is found in it. -/
def note (w : Walk) (n : Node) : Walk :=
  let w := w.noteAction n
  { w with diagnostics := w.diagnostics ++ (l.state.check n).map (·.onLine n.line) }

/-- Starts a line at the depth of the walk. -/
def lineStart (w : Walk) : Walk := w.write (l.lineStart w.depth)

/-- Ends a line. -/
def lineEnd (w : Walk) : Walk := w.write l.lineEnd

/-- Walks over an element with its content and its children. -/
def container (n : Node) (tag class_ : String) (attrs : List BuildStep) (children : Walk → Walk)
    (w : Walk) : Walk :=
  let w := (w.lineStart l).write (.static ("<" ++ tag ++ " class=\"" ++ class_ ++ "\""))
  let w :=
    (w.writeAll attrs).writeAll
      ([.static (styleAttribute n), .static ">"] ++ l.interpolated n.content)
  let w := if n.children.isEmpty then w else (children (w.lineEnd l).indent).dedent.lineStart l
  (w.write (.static ("</" ++ tag ++ ">"))).lineEnd l

/-- Walks over a choice; its options are a level deeper. -/
def select (n : Node) (w : Walk) : Walk :=
  let w := (w.lineStart l).write (.static "<select class=\"qcl-select\"")
  let w :=
    (w.writeAll (Lowering.boundAttrs (l.bound? n))).writeAll
      [.static (styleAttribute n), .static ">"]
  let w := (selectOptions ((n.property? "options").getD "")).foldl
    (fun w value => w.writeAll (l.option w.depth (l.bound? n) value)) (w.lineEnd l).indent
  ((w.dedent.lineStart l).write (.static "</select>")).lineEnd l

/-- Walks over children that show while a condition holds; they are not a level deeper. -/
def conditional (n : Node) (children : Walk → Walk) (w : Walk) : Walk :=
  match n.condition with
  | .ok condition => (children (w.write (.beginIf condition))).write .endIf
  | .error _ => w.writeAll (l.line w.depth "<!-- invalid condition -->")

mutual

/-- Walks over a node. -/
def node : Node → Walk → Walk
  | n@⟨_, _, _, children, _, _⟩, w =>
    let w := w.note l n
    match n.element with
    | .box => w.container l n "div" "qcl-box" [] (nodes children)
    | .text => w.container l n "p" "qcl-text" [] (nodes children)
    | .button => w.container l n "button" "qcl-button" (Lowering.buttonAttrs n) (nodes children)
    | .input => w.writeAll (l.input w.depth n)
    | .textarea => w.writeAll (l.textarea w.depth n)
    | .select => w.select l n
    | .checkbox => w.writeAll (l.checkbox w.depth n)
    | .image => w.writeAll (l.image w.depth n)
    | .link => w.container l n "a" "qcl-link" (l.linkAttrs n) (nodes children)
    | .divider => w.writeAll (l.line w.depth "<hr class=\"qcl-divider\">")
    | .conditional => w.conditional l n (nodes children)
    | .state => w
    | .generic => w.container l n "div" "qcl-node" (Lowering.genericAttrs n) (nodes children)

/-- Walks over nodes, one after the other. -/
def nodes : List Node → Walk → Walk
  | [], w => w
  | n :: ns, w => nodes ns (node n w)

end

/-! ## What a walk does -/

/-- The walk after steps were written and nodes were noted, at the same depth. -/
def after (w : Walk) (steps : List BuildStep) (noted : List Node) : Walk where
  depth := w.depth
  builder := steps.foldl TemplateBuilder.step w.builder
  actions :=
    (noted.filterMap Node.buttonAction?).foldl (fun t source => t.insert source (.ofSource source))
      w.actions
  diagnostics := w.diagnostics ++ l.state.diagnostics noted

variable {l}

theorem after_nil (w : Walk) : w.after l [] [] = w := by
  unfold after StateTable.diagnostics
  rw [List.flatMap_nil, List.append_nil]
  rfl

/-- Two parts of a walk are one. -/
theorem after_after (w : Walk) (xs ys : List BuildStep) (ns ms : List Node) :
    (w.after l xs ns).after l ys ms = w.after l (xs ++ ys) (ns ++ ms) := by
  unfold after StateTable.diagnostics
  rw [List.foldl_append, List.filterMap_append, List.foldl_append, List.flatMap_append,
    List.append_assoc]

/-- One step more is written. -/
theorem write_eq (w : Walk) (x : BuildStep) : w.write x = w.after l [x] [] := by
  unfold after StateTable.diagnostics
  rw [List.flatMap_nil, List.append_nil]
  rfl

theorem writeAll_eq (w : Walk) (steps : List BuildStep) :
    w.writeAll steps = w.after l steps [] := by
  induction steps generalizing w with
  | nil => exact (after_nil w).symm
  | cons x steps ih =>
    show (w.write x).writeAll steps = _
    rw [ih, write_eq, after_after, List.singleton_append, List.append_nil]

/-- One node more is noted. -/
theorem note_eq (w : Walk) (n : Node) : w.note l n = w.after l [] [n] := by
  unfold note noteAction after StateTable.diagnostics
  rw [List.flatMap_cons, List.flatMap_nil, List.append_nil]
  cases h : n.buttonAction? with
  | none =>
    rw [List.filterMap_cons_none h]
    rfl
  | some source =>
    rw [List.filterMap_cons_some h]
    rfl

/-- What is done a level deeper is done at the level, once the walk is out again. -/
theorem dedent_after_indent (w : Walk) (steps : List BuildStep) (noted : List Node) :
    (w.indent.after l steps noted).dedent = w.after l steps noted := rfl

/-- The children of an element are at the next level, and after them the walk is back at the level
of the element. -/
theorem container_eq {n : Node} {children : Walk → Walk}
    (h : ∀ w : Walk, children w = w.after l (l.nodes w.depth n.children) (Node.shownAll n.children))
    (tag class_ : String) (attrs : List BuildStep) (w : Walk) :
    w.container l n tag class_ attrs children
      = w.after l (l.container w.depth n tag class_ attrs (l.nodes (w.depth + 1) n.children))
        (Node.shownAll n.children) := by
  unfold container Lowering.container
  split
  · next hnone =>
    rw [List.isEmpty_iff.mp hnone, Node.shownAll]
    simp only [lineStart, lineEnd, write_eq (l := l), writeAll_eq (l := l), after_after]
    simp only [List.append_nil, List.append_assoc, List.cons_append, List.nil_append]
  · simp only [lineStart, lineEnd, write_eq (l := l), writeAll_eq (l := l), after_after, h,
      dedent_after_indent]
    simp only [List.append_nil, List.append_assoc, List.cons_append, List.nil_append]
    rfl

/-- The options of a choice are written one after the other. -/
theorem options_eq (bound : Option String) (values : List String) (w : Walk) :
    values.foldl (fun w value => w.writeAll (l.option w.depth bound value)) w
      = w.after l (values.flatMap (l.option w.depth bound)) [] := by
  induction values generalizing w with
  | nil => exact (after_nil w).symm
  | cons value values ih =>
    rw [List.foldl_cons, ih, writeAll_eq (l := l), after_after, List.flatMap_cons, List.append_nil]
    rfl

/-- A choice writes its steps and notes nothing. -/
theorem select_eq (n : Node) (w : Walk) : w.select l n = w.after l (l.select w.depth n) [] := by
  unfold select Lowering.select
  simp only [options_eq]
  simp only [lineStart, lineEnd, write_eq (l := l), writeAll_eq (l := l), after_after,
    dedent_after_indent]
  simp only [List.append_nil, List.append_assoc, List.cons_append, List.nil_append]
  rfl

/-- A condition notes what is shown of its children only if it parses. -/
theorem conditional_eq {n : Node} {children : Walk → Walk}
    (h : ∀ w : Walk, children w = w.after l (l.nodes w.depth n.children) (Node.shownAll n.children))
    (w : Walk) :
    w.conditional l n children = w.after l (l.conditional w.depth n (l.nodes w.depth n.children))
      (if n.condition.isOk then Node.shownAll n.children else []) := by
  unfold conditional Lowering.conditional
  cases n.condition with
  | ok condition =>
    simp only [h, write_eq (l := l), after_after, List.append_nil, List.nil_append]
    rfl
  | error e => exact writeAll_eq _ _

mutual

/-- **A walk over a node writes the steps of the node at its depth, notes what is shown, and is as
deep as before**; one case for every element. -/
theorem node_eq (n : Node) (w : Walk) : w.node l n = w.after l (l.node w.depth n) n.shown := by
  obtain ⟨kind, properties, content, children, state, line⟩ := n
  have hchildren := nodes_eq children
  rw [node, note_eq, Lowering.node, Node.shown, Node.showsChildren]
  cases helement : Node.element ⟨kind, properties, content, children, state, line⟩ with
  | box => exact (container_eq hchildren _ _ _ _).trans (after_after ..)
  | text => exact (container_eq hchildren _ _ _ _).trans (after_after ..)
  | button => exact (container_eq hchildren _ _ _ _).trans (after_after ..)
  | input => exact (writeAll_eq _ _).trans (after_after ..)
  | textarea => exact (writeAll_eq _ _).trans (after_after ..)
  | select => exact (select_eq _ _).trans (after_after ..)
  | checkbox => exact (writeAll_eq _ _).trans (after_after ..)
  | image => exact (writeAll_eq _ _).trans (after_after ..)
  | link => exact (container_eq hchildren _ _ _ _).trans (after_after ..)
  | divider => exact (writeAll_eq _ _).trans (after_after ..)
  | conditional => exact (conditional_eq hchildren _).trans (after_after ..)
  | state => rfl
  | generic => exact (container_eq hchildren _ _ _ _).trans (after_after ..)

/-- Nodes write their steps and note what is shown of them. -/
theorem nodes_eq (ns : List Node) (w : Walk) :
    w.nodes l ns = w.after l (l.nodes w.depth ns) (Node.shownAll ns) := by
  match ns with
  | [] =>
    rw [nodes, Lowering.nodes, Node.shownAll, after_nil]
  | n :: ns =>
    rw [nodes, node_eq n w, nodes_eq ns, after_after, Lowering.nodes, Node.shownAll]
    rfl

end

end Walk

end PageLang
