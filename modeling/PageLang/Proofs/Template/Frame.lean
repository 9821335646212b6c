import PageLang.Proofs.Template.Writing
import PageLang.Template.Lowering

/-!
# The fixed markup of elements

Every element is a frame of fixed markup around parts: attributes, texts and children. The
functions here put parts that have been rendered already into the frame, and a lemma each says
that the steps of the element write its frame around what the steps of the parts write. What the
parts are is left open, so these lemmas serve every statement about whole trees.
-/

namespace PageLang

open Markup (Layout attr styleAttribute)

namespace Frame

/-- An element on lines of its own. -/
def line (layout : Layout) (depth : Nat) (html : String) : String :=
  layout.lineStart depth ++ html ++ layout.lineEnd

/-- An element around its content, which is a text and then the children. -/
def container (layout : Layout) (depth : Nat) (n : Node) (tag class_ attrs text children : String) :
    String :=
  line layout depth <|
    "<" ++ tag ++ " class=\"" ++ class_ ++ "\"" ++ attrs ++ styleAttribute n ++ ">" ++ text
      ++ (if n.children.isEmpty then "" else layout.lineEnd ++ children ++ layout.lineStart depth)
      ++ "</" ++ tag ++ ">"

/-- The attributes by which a bound control is found. -/
def boundAttrs : Option String → String
  | none => ""
  | some name => attr "id" ("qcl-bind-" ++ name) ++ attr "data-qcl-bind" name

/-- The attributes of a button. -/
def buttonAttrs (n : Node) : String :=
  attr "type" "button" ++
    match n.action? with
    | none => ""
    | some source => attr "data-qcl-action" source

/-- The attributes of a link with its address. -/
def linkAttrs (n : Node) (href : String) : String :=
  href ++
    match n.property? "target" with
    | none => ""
    | some target => attr "target" target ++ attr "rel" "noopener noreferrer"

/-- An input line with the attributes for its value and its hint. -/
def input (layout : Layout) (depth : Nat) (n : Node) (value placeholder : String) : String :=
  line layout depth <|
    "<input class=\"qcl-input\"" ++ attr "type" ((n.property? "type").getD "text") ++ value
      ++ placeholder ++ styleAttribute n ++ ">"

/-- An input area with its text. -/
def textarea (layout : Layout) (depth : Nat) (n : Node) (attrs placeholder text : String) :
    String :=
  line layout depth <|
    "<textarea class=\"qcl-textarea\"" ++ attrs ++ placeholder ++ styleAttribute n ++ ">" ++ text
      ++ "</textarea>"

/-- One option of a choice, with the attribute that may mark it. -/
def option (layout : Layout) (depth : Nat) (value mark : String) : String :=
  line layout depth <|
    "<option" ++ attr "value" value ++ mark ++ ">" ++ Markup.escape value ++ "</option>"

/-- A choice with its options. -/
def select (layout : Layout) (depth : Nat) (n : Node) (attrs options : String) : String :=
  line layout depth <|
    "<select class=\"qcl-select\"" ++ attrs ++ styleAttribute n ++ ">" ++ layout.lineEnd ++ options
      ++ layout.lineStart depth ++ "</select>"

/-- A box to tick with its attributes and its label. -/
def checkbox (layout : Layout) (depth : Nat) (n : Node) (attrs text : String) : String :=
  line layout depth <|
    "<label class=\"qcl-checkbox\"" ++ styleAttribute n ++ "><input type=\"checkbox\""
      ++ attrs ++ "> "
      ++ text ++ "</label>"

/-- An image with the attributes for its address and its description. -/
def image (layout : Layout) (depth : Nat) (n : Node) (src alt : String) : String :=
  line layout depth <| "<img class=\"qcl-image\"" ++ src ++ alt ++ styleAttribute n ++ ">"

/-- What stands for an image without an address. -/
def noImage : String := "<!-- image without src -->"

/-- What stands for a condition that does not parse. -/
def noCondition : String := "<!-- invalid condition -->"

/-- A dividing line. -/
def divider : String := "<hr class=\"qcl-divider\">"

end Frame

namespace Lowering

variable {l : Lowering} {s : State}

/-- An element stands on lines of its own. -/
theorem writes_line (depth : Nat) (html : String) :
    Writes s (l.line depth html) (Frame.line l.layout depth html) := by
  refine (((writes_static _).cons_static _).cons_static _).of_eq ?_
  rw [Frame.line, String.append_assoc]

/-- An attribute has its text between quotes. -/
theorem writes_textAttr {value text : String} (name : String)
    (htext : Writes s (l.interpolated value) text) :
    Writes s (l.textAttr name value) (" " ++ name ++ "=\"" ++ text ++ "\"") := by
  refine ((htext.append (writes_static _)).cons_static _).of_eq ?_
  simp only [String.append_assoc]

theorem writes_boundAttrs (bound : Option String) :
    Writes s (boundAttrs bound) (Frame.boundAttrs bound) := by
  cases bound with
  | none => exact writes_nil
  | some name => exact (writes_static _).cons_static _

theorem writes_buttonAttrs (n : Node) : Writes s (buttonAttrs n) (Frame.buttonAttrs n) := by
  unfold buttonAttrs Frame.buttonAttrs
  refine .cons_static _ ?_
  cases n.action? with
  | none => exact writes_nil
  | some source => exact writes_static _

theorem writes_linkAttrs {n : Node} {href : String}
    (hhref : Writes s (l.urlAttr "href" ((n.property? "href").getD "#")) href) :
    Writes s (l.linkAttrs n) (Frame.linkAttrs n href) := by
  unfold linkAttrs Frame.linkAttrs
  refine hhref.append ?_
  cases n.property? "target" with
  | none => exact writes_nil
  | some target => exact .cons_static _ (writes_static _)

/-- An element writes its attributes, its text and its children in its tag. -/
theorem writes_container {attrs children : List BuildStep} {a t c : String} {n : Node}
    (hattrs : Writes s attrs a) (htext : Writes s (l.interpolated n.content) t)
    (hchildren : Writes s children c) (depth : Nat) (tag class_ : String) :
    Writes s (l.container depth n tag class_ attrs children)
      (Frame.container l.layout depth n tag class_ a t c) := by
  have hbelow : Writes s
      (if n.children.isEmpty then [] else l.lineEnd :: children ++ [l.lineStart depth])
      (if n.children.isEmpty then "" else l.layout.lineEnd ++ c ++ l.layout.lineStart depth) := by
    split
    · exact writes_nil
    · refine ((hchildren.append (writes_static _)).cons_static _).of_eq ?_
      rw [String.append_assoc]
  unfold container
  refine Writes.of_eq
    (.append (.append (.append (.append (.append (.cons_static _ (writes_static _))
    hattrs) (.cons_static _ (writes_static _))) htext) hbelow) (.cons_static _ (writes_static _)))
      ?_
  simp only [Frame.container, Frame.line, String.append_assoc]

/-- An input line writes its value and its hint. -/
theorem writes_input {n : Node} {value placeholder : String}
    (hvalue : Writes s (l.inputValue n) value)
    (hplaceholder : Writes s (l.textAttr? "placeholder" (n.property? "placeholder")) placeholder)
    (depth : Nat) :
    Writes s (l.input depth n) (Frame.input l.layout depth n value placeholder) := by
  unfold input
  refine Writes.of_eq (.append (.append (.append (.cons_static _ (.cons_static _ (writes_static _)))
    hvalue) hplaceholder) (.cons_static _ (.cons_static _ (writes_static _)))) ?_
  simp only [Frame.input, Frame.line, String.append_assoc]

/-- The text of an input area: the value of its entry, or its content. -/
def areaText (l : Lowering) (n : Node) : List BuildStep :=
  match l.bound? n with
  | some name => [.segment (.text name)]
  | none => l.interpolated n.content

/-- An input area writes its hint and its text. -/
theorem writes_textarea {n : Node} {placeholder text : String}
    (hplaceholder : Writes s (l.textAttr? "placeholder" (n.property? "placeholder")) placeholder)
    (htext : Writes s (l.areaText n) text) (depth : Nat) :
    Writes s (l.textarea depth n)
      (Frame.textarea l.layout depth n (Frame.boundAttrs (l.bound? n)) placeholder text) := by
  unfold textarea
  refine Writes.of_eq
    (.append (.append (.append (.append (.append (.cons_static _ (writes_static _))
    (writes_boundAttrs _)) hplaceholder) (.cons_static _ (writes_static _))) htext)
    (.cons_static _ (writes_static _))) ?_
  simp only [Frame.textarea, Frame.line, String.append_assoc]

/-- The attribute that marks an option of a choice. -/
def optionMark (bound : Option String) (value : String) : List BuildStep :=
  match bound with
  | some name => [.segment (.selected name value)]
  | none => []

theorem writes_option {bound : Option String} {value mark : String}
    (hmark : Writes s (optionMark bound value) mark) (depth : Nat) :
    Writes s (l.option depth bound value) (Frame.option l.layout depth value mark) := by
  unfold option
  refine Writes.of_eq (.append (.append (.cons_static _ (.cons_static _ (writes_static _))) hmark)
    (.cons_static _ (writes_static _))) ?_
  simp only [Frame.option, Frame.line, String.append_assoc]

/-- Options are written one after the other, each with its mark. -/
theorem writes_options {bound : Option String} {mark : String → String}
    (hmark : ∀ value, Writes s (optionMark bound value) (mark value)) (depth : Nat)
    (values : List String) :
    Writes s (values.flatMap (l.option depth bound))
      (String.join (values.map fun value => Frame.option l.layout depth value (mark value))) := by
  induction values with
  | nil => exact writes_nil
  | cons value values ih =>
    rw [List.flatMap_cons, List.map_cons, String.join_cons]
    exact (writes_option (hmark value) depth).append ih

/-- A choice writes its options. -/
theorem writes_select {n : Node} {mark : String → String}
    (hmark : ∀ value, Writes s (optionMark (l.bound? n) value) (mark value)) (depth : Nat) :
    Writes s (l.select depth n)
      (Frame.select l.layout depth n (Frame.boundAttrs (l.bound? n))
        (String.join ((selectOptions ((n.property? "options").getD "")).map fun value =>
          Frame.option l.layout (depth + 1) value (mark value)))) := by
  unfold select
  refine Writes.of_eq (.append (.append (.append (.append (.cons_static _ (writes_static _))
    (writes_boundAttrs _)) (.cons_static _ (.cons_static _ (writes_static _))))
    (writes_options hmark (depth + 1) _)) (writes_line depth _)) ?_
  simp only [Frame.select, Frame.line, String.append_assoc]

/-- The attributes of a box to tick. -/
def checkboxAttrs (bound : Option String) : List BuildStep :=
  match bound with
  | some name => boundAttrs (some name) ++ [.segment (.checked name)]
  | none => []

/-- A box to tick writes its attributes and its label. -/
theorem writes_checkbox {n : Node} {attrs text : String}
    (hattrs : Writes s (checkboxAttrs (l.bound? n)) attrs)
    (htext : Writes s (l.interpolated n.content) text) (depth : Nat) :
    Writes s (l.checkbox depth n) (Frame.checkbox l.layout depth n attrs text) := by
  unfold checkbox
  refine Writes.of_eq (.append (.append (.append (.append
    (.cons_static _ (.cons_static _ (.cons_static _ (writes_static _)))) hattrs) (writes_static _))
    htext) (.cons_static _ (writes_static _))) ?_
  simp only [Frame.checkbox, Frame.line, String.append_assoc]

/-- The steps of an image that has an address. -/
theorem writes_image {n : Node} {address src alt : String}
    (haddress : n.property? "src" = some address) (hsrc : Writes s (l.urlAttr "src" address) src)
    (halt : Writes s (l.textAttr "alt" ((n.property? "alt").getD n.content)) alt) (depth : Nat) :
    Writes s (l.image depth n) (Frame.image l.layout depth n src alt) := by
  unfold image
  rw [haddress]
  refine Writes.of_eq (.append (.append (.append (.cons_static _ (writes_static _)) hsrc) halt)
    (.cons_static _ (.cons_static _ (writes_static _)))) ?_
  simp only [Frame.image, Frame.line, String.append_assoc]

end Lowering

end PageLang
