import Mathlib.Tactic.Choose
import PageLang.Artifact
import PageLang.Proofs.Markup.Text
import PageLang.Proofs.Template.Frame

/-!
# Rendered markup is well formed

`WellFormed` is a grammar of markup: safe texts, two fixed comments and elements that are closed
by their own end tags, with attributes from a fixed list of names and safe values. Whatever a page
says and whatever state it is in, its template renders to a text of this grammar:

> `wellFormed_render_template`

A condition may leave out any stretch of a template at rendering. So the statement about steps is
that they *emit* well-formed markup in every state, and a block emits what its body does, or
nothing.
-/

namespace PageLang

namespace Markup

/-! ## The grammar -/

/-- The elements with an end tag. -/
def elementTags : List String :=
  ["div", "p", "button", "a", "label", "select", "option", "textarea"]

/-- The elements without one. -/
def voidTags : List String := ["input", "img", "hr"]

/-- The comments. -/
def comments : List String := ["<!-- image without src -->", "<!-- invalid condition -->"]

/-- The names of attributes with a value. -/
def attributeNames : List String :=
  ["class", "type", "id", "value", "placeholder", "href", "target", "rel", "src", "alt", "style",
    "data-qcl-action", "data-qcl-bind", "data-qcl-kind"]

/-- The attributes without a value. -/
def bareAttributes : List String := ["checked", "selected"]

/-- The attributes of a tag, with a blank before each. -/
inductive Attributes : String → Prop
  | nil : Attributes ""
  | value {name text rest : String} (known : name ∈ attributeNames) (safe : Safe text)
      (others : Attributes rest) : Attributes (" " ++ name ++ "=\"" ++ text ++ "\"" ++ rest)
  | bare {name rest : String} (known : name ∈ bareAttributes) (others : Attributes rest) :
      Attributes (" " ++ name ++ rest)

/-- A sequence of texts, comments and properly nested elements. -/
inductive WellFormed : String → Prop
  | nil : WellFormed ""
  | text {text rest : String} (safe : Safe text) (others : WellFormed rest) :
    WellFormed (text ++ rest)
  | comment {comment rest : String} (known : comment ∈ comments) (others : WellFormed rest) :
      WellFormed (comment ++ rest)
  | void {tag attrs rest : String} (known : tag ∈ voidTags) (attributes : Attributes attrs)
      (others : WellFormed rest) : WellFormed ("<" ++ tag ++ attrs ++ ">" ++ rest)
  | element {tag attrs body rest : String} (known : tag ∈ elementTags)
    (attributes : Attributes attrs)
      (inner : WellFormed body) (others : WellFormed rest) :
      WellFormed ("<" ++ tag ++ attrs ++ ">" ++ body ++ "</" ++ tag ++ ">" ++ rest)

/-- Attributes can be put behind each other. -/
theorem Attributes.append {a b : String} (ha : Attributes a) (hb : Attributes b) :
    Attributes (a ++ b) := by
  induction ha with
  | nil =>
    rw [String.empty_append]
    exact hb
  | value known safe _ ih =>
    rw [String.append_assoc]
    exact .value known safe ih
  | bare known _ ih =>
    rw [String.append_assoc]
    exact .bare known ih

/-- Well-formed markup can be put behind each other. -/
theorem WellFormed.append {a b : String} (ha : WellFormed a) (hb : WellFormed b) :
    WellFormed (a ++ b) := by
  induction ha with
  | nil =>
    rw [String.empty_append]
    exact hb
  | text safe _ ih =>
    rw [String.append_assoc]
    exact .text safe ih
  | comment known _ ih =>
    rw [String.append_assoc]
    exact .comment known ih
  | void known attributes _ ih =>
    rw [String.append_assoc]
    exact .void known attributes ih
  | element known attributes inner _ _ ih =>
    rw [String.append_assoc]
    exact .element known attributes inner ih

/-! Single parts of the grammar. -/

/-- Text without special characters is well-formed markup. -/
theorem Safe.wellFormed {text : String} (h : Safe text) : WellFormed text := by
  have hone := WellFormed.text h .nil
  rwa [String.append_empty] at hone

/-- The fixed comments are well formed. -/
theorem wellFormed_comment {comment : String} (h : comment ∈ comments) : WellFormed comment := by
  have hone := WellFormed.comment h .nil
  rwa [String.append_empty] at hone

/-- A tag that has no end tag is well formed with attributes alone. -/
theorem wellFormed_void {tag attrs : String} (htag : tag ∈ voidTags) (hattrs : Attributes attrs) :
    WellFormed ("<" ++ tag ++ attrs ++ ">") := by
  have hone := WellFormed.void htag hattrs .nil
  rwa [String.append_empty] at hone

/-- An element is well formed if its attributes and what is inside it are. -/
theorem wellFormed_element {tag attrs body : String} (htag : tag ∈ elementTags)
    (hattrs : Attributes attrs) (hbody : WellFormed body) :
    WellFormed ("<" ++ tag ++ attrs ++ ">" ++ body ++ "</" ++ tag ++ ">") := by
  have hone := WellFormed.element htag hattrs hbody .nil
  rwa [String.append_empty] at hone

/-- A quoted value may hold any safe text. -/
theorem attributes_value {name text : String} (hname : name ∈ attributeNames) (htext : Safe text) :
    Attributes (" " ++ name ++ "=\"" ++ text ++ "\"") := by
  have hone := Attributes.value hname htext .nil
  rwa [String.append_empty] at hone

theorem attributes_bare {name : String} (hname : name ∈ bareAttributes) :
    Attributes (" " ++ name) := by
  have hone := Attributes.bare hname .nil
  rwa [String.append_empty] at hone

/-- An escaped value is safe, whatever the value was. -/
theorem attributes_attr {name : String} (hname : name ∈ attributeNames) (value : String) :
    Attributes (attr name value) :=
  attributes_value hname (safe_escape value)

/-- The style of a node is one attribute or none. -/
theorem attributes_styleAttribute (n : Node) : Attributes (styleAttribute n) := by
  unfold styleAttribute
  split
  · exact .nil
  · exact attributes_attr (by decide) _

/-- The class comes first, with attributes behind it. -/
theorem attributes_class {class_ attrs : String} (hclass : class_.toList.all isPlain = true)
    (hattrs : Attributes attrs) : Attributes (" class=\"" ++ class_ ++ "\"" ++ attrs) := by
  have hname : " class=\"" = " " ++ "class" ++ "=\"" := by decide
  rw [hname]
  exact .value (by decide) (safe_of_plain hclass) hattrs

/-- A void element whose tag begins with a class. -/
theorem wellFormed_void_class (tag class_ opening : String) {attrs : String}
    (h : opening = "<" ++ tag ++ " class=\"" ++ class_ ++ "\"" ∧ tag ∈ voidTags
      ∧ class_.toList.all isPlain = true)
    (hattrs : Attributes attrs) : WellFormed (opening ++ attrs ++ ">") := by
  obtain ⟨rfl, htag, hclass⟩ := h
  have hvoid := wellFormed_void htag (attributes_class hclass hattrs)
  simpa only [String.append_assoc] using hvoid

/-- An element whose tag begins with a class. -/
theorem wellFormed_element_class (tag class_ opening closing : String) {attrs body : String}
    (h : opening = "<" ++ tag ++ " class=\"" ++ class_ ++ "\"" ∧ closing = "</" ++ tag ++ ">"
      ∧ tag ∈ elementTags ∧ class_.toList.all isPlain = true)
    (hattrs : Attributes attrs) (hbody : WellFormed body) :
    WellFormed (opening ++ attrs ++ ">" ++ body ++ closing) := by
  obtain ⟨rfl, rfl, htag, hclass⟩ := h
  have helement := wellFormed_element htag (attributes_class hclass hattrs) hbody
  simpa only [String.append_assoc] using helement

/-! ## Layout -/

/-- Blanks are safe: none of the special characters is one. -/
theorem safe_of_blank {text : String} (h : ∀ c ∈ text.toList, Text.isBlank c = true) :
    Safe text := by
  refine safe_of_plain (List.all_eq_true.mpr fun c hc => ?_)
  have hblank := h c hc
  rw [isPlain_iff]
  constructor
  · rintro rfl
    cases hblank
  · intro hmem
    simp only [rawCharacters, List.mem_cons, List.not_mem_nil, or_false] at hmem
    rcases hmem with rfl | rfl | rfl | rfl <;> cases hblank

/-- The indentation of a blank layout is safe. -/
theorem Layout.IsBlank.safe_lineStart {layout : Layout} (h : layout.IsBlank) (depth : Nat) :
    Safe (layout.lineStart depth) := by
  unfold Layout.lineStart
  split
  · induction depth with
    | zero => exact safe_empty
    | succ depth ih =>
      rw [List.replicate_succ, String.join_cons]
      exact (safe_of_blank h).append ih
  · exact safe_empty

/-- The end of a line is a line feed or nothing. -/
theorem safe_lineEnd (layout : Layout) : Safe layout.lineEnd := by
  unfold Layout.lineEnd
  split
  · exact safe_of_plain (by decide)
  · exact safe_empty

end Markup

/-! ## Frames -/

namespace Frame

open Markup

/-- A bound control is marked by two attributes, any other by none. -/
theorem attributes_boundAttrs (bound : Option String) : Attributes (boundAttrs bound) := by
  cases bound with
  | none => exact .nil
  | some name => exact (attributes_attr (by decide) _).append (attributes_attr (by decide) _)

/-- A button with an action carries it in an escaped attribute. -/
theorem attributes_buttonAttrs (n : Node) : Attributes (buttonAttrs n) := by
  refine (attributes_attr (by decide) _).append ?_
  cases n.action? with
  | none => exact .nil
  | some source => exact attributes_attr (by decide) _

/-- A link with a target is also told what not to give away. -/
theorem attributes_linkAttrs {href : String} (hhref : Attributes href) (n : Node) :
    Attributes (linkAttrs n href) := by
  refine hhref.append ?_
  cases n.property? "target" with
  | none => exact .nil
  | some target => exact (attributes_attr (by decide) _).append (attributes_attr (by decide) _)

section

variable {layout : Layout} (hlayout : layout.IsBlank)
include hlayout

/-- A line of well-formed markup is well formed with its indentation and end. -/
theorem wellFormed_line {html : String} (h : WellFormed html) (depth : Nat) :
    WellFormed (line layout depth html) :=
  ((hlayout.safe_lineStart depth).wellFormed.append h).append (safe_lineEnd layout).wellFormed

/-- A container is well formed if its text is safe and its children are well formed. -/
theorem wellFormed_container {tag class_ attrs text children : String} (htag : tag ∈ elementTags)
    (hclass : class_.toList.all isPlain = true) (hattrs : Attributes attrs) (htext : Safe text)
    (hchildren : WellFormed children) (depth : Nat) (n : Node) :
    WellFormed (container layout depth n tag class_ attrs text children) := by
  have hbelow : WellFormed
      (if n.children.isEmpty then "" else layout.lineEnd ++ children
          ++ layout.lineStart depth) := by
    split
    · exact .nil
    · exact ((safe_lineEnd layout).wellFormed.append hchildren).append
        (hlayout.safe_lineStart depth).wellFormed
  have h := wellFormed_element_class tag class_ _ _ ⟨rfl, rfl, htag, hclass⟩
    (hattrs.append (attributes_styleAttribute n)) (htext.wellFormed.append hbelow)
  refine wellFormed_line hlayout ?_ depth
  simpa only [String.append_assoc] using h

/-- An input line is one tag. -/
theorem wellFormed_input {value placeholder : String} (hvalue : Attributes value)
    (hplaceholder : Attributes placeholder) (depth : Nat) (n : Node) :
    WellFormed (input layout depth n value placeholder) := by
  have htype :=
    attributes_attr (show "type" ∈ attributeNames by decide) ((n.property? "type").getD "text")
  have hattrs := ((htype.append hvalue).append hplaceholder).append (attributes_styleAttribute n)
  have h := wellFormed_void_class "input" "qcl-input" "<input class=\"qcl-input\""
    (by decide) hattrs
  refine wellFormed_line hlayout ?_ depth
  simpa only [String.append_assoc] using h

/-- An input area holds safe text and no markup. -/
theorem wellFormed_textarea {attrs placeholder text : String} (hattrs : Attributes attrs)
    (hplaceholder : Attributes placeholder) (htext : Safe text) (depth : Nat) (n : Node) :
    WellFormed (textarea layout depth n attrs placeholder text) := by
  have hall := (hattrs.append hplaceholder).append (attributes_styleAttribute n)
  have h := wellFormed_element_class "textarea" "qcl-textarea" "<textarea class=\"qcl-textarea\""
    "</textarea>" (by decide) hall htext.wellFormed
  refine wellFormed_line hlayout ?_ depth
  simpa only [String.append_assoc] using h

/-- An option shows its value, escaped. -/
theorem wellFormed_option {mark : String} (hmark : Attributes mark) (depth : Nat) (value : String) :
    WellFormed (option layout depth value mark) := by
  have hvalue := attributes_attr (show "value" ∈ attributeNames by decide) value
  have h := wellFormed_element (show "option" ∈ elementTags by decide) (hvalue.append hmark)
    (safe_escape value).wellFormed
  have hopening : "<option" = "<" ++ "option" := by decide
  have hclosing : "</option>" = "</" ++ "option" ++ ">" := by decide
  refine wellFormed_line hlayout ?_ depth
  rw [hopening, hclosing]
  simpa only [String.append_assoc] using h

/-- The options of a selection are well formed one by one. -/
theorem wellFormed_options {mark : String → String} (hmark : ∀ value, Attributes (mark value))
    (depth : Nat) (values : List String) :
    WellFormed (String.join (values.map fun value => option layout depth value (mark value))) := by
  induction values with
  | nil => exact .nil
  | cons value values ih =>
    rw [List.map_cons, String.join_cons]
    exact (wellFormed_option hlayout (hmark value) depth value).append ih

/-- A selection is well formed if its options are. -/
theorem wellFormed_select {attrs options : String} (hattrs : Attributes attrs)
    (hoptions : WellFormed options) (depth : Nat) (n : Node) :
    WellFormed (select layout depth n attrs options) := by
  have hbody := ((safe_lineEnd layout).wellFormed.append hoptions).append
    (hlayout.safe_lineStart depth).wellFormed
  have h :=
    wellFormed_element_class "select" "qcl-select" "<select class=\"qcl-select\"" "</select>"
    (by decide) (hattrs.append (attributes_styleAttribute n)) hbody
  refine wellFormed_line hlayout ?_ depth
  simpa only [String.append_assoc] using h

/-- The box is an element of its own inside its label. -/
theorem wellFormed_checkbox {attrs text : String} (hattrs : Attributes attrs) (htext : Safe text)
    (depth : Nat) (n : Node) : WellFormed (checkbox layout depth n attrs text) := by
  have htype : Attributes (" " ++ "type" ++ "=\"" ++ "checkbox" ++ "\"" ++ attrs) :=
    .value (by decide) (safe_of_plain (by decide)) hattrs
  have hbox := wellFormed_void (show "input" ∈ voidTags by decide) htype
  have hlabel : Safe (" " ++ text) := (safe_of_plain (by decide)).append htext
  have h :=
    wellFormed_element_class "label" "qcl-checkbox" "<label class=\"qcl-checkbox\"" "</label>"
    (by decide) (attributes_styleAttribute n) (hbox.append hlabel.wellFormed)
  -- The frame has the end of one tag and the start of the next in one piece.
  have hinput : "><input type=\"checkbox\""
      = ">" ++ "<" ++ "input" ++ " " ++ "type" ++ "=\"" ++ "checkbox" ++ "\"" := by decide
  have hgap : "> " = ">" ++ " " := by decide
  refine wellFormed_line hlayout ?_ depth
  rw [hinput, hgap]
  simpa only [String.append_assoc] using h

/-- An image is one tag. -/
theorem wellFormed_image {src alt : String} (hsrc : Attributes src) (halt : Attributes alt)
    (depth : Nat) (n : Node) : WellFormed (image layout depth n src alt) := by
  have h := wellFormed_void_class "img" "qcl-image" "<img class=\"qcl-image\"" (by decide)
    ((hsrc.append halt).append (attributes_styleAttribute n))
  refine wellFormed_line hlayout ?_ depth
  simpa only [String.append_assoc] using h

theorem wellFormed_divider (depth : Nat) : WellFormed (line layout depth divider) := by
  have h := wellFormed_void_class "hr" "qcl-divider" "<hr class=\"qcl-divider\"" (by decide) .nil
  exact wellFormed_line hlayout h depth

end

end Frame

/-! ## Steps -/

/-- The steps write a text with a property. -/
def Emits (s : State) (P : String → Prop) (steps : List BuildStep) : Prop :=
  ∃ text, Writes s steps text ∧ P text

namespace Lowering

open Markup

variable {l : Lowering} {s : State}

/-- A value that is filled in is escaped, so it is safe. -/
theorem safe_render_text (name : String) : Safe ((Segment.text name).render s) := by
  rw [Segment.render]
  split <;> exact safe_escape _

/-- A part of a text comes out safe: a character is escaped at once, a hole when it is filled. -/
theorem emits_piece (p : Piece) : Emits s Safe [l.piece p] := by
  cases p with
  | char c => exact ⟨_, writes_static _, safe_escape _⟩
  | marker name =>
    rw [piece]
    split
    · exact ⟨_, writes_segment _, safe_render_text name⟩
    · exact ⟨_, writes_static _, safe_escape _⟩

/-- A text with markers comes out safe in every state. -/
theorem emits_interpolated (text : String) : Emits s Safe (l.interpolated text) := by
  unfold interpolated
  induction pieces text.toList with
  | nil => exact ⟨"", writes_nil, safe_empty⟩
  | cons p ps ih =>
    obtain ⟨t, ht, hsafe⟩ := emits_piece p
    obtain ⟨u, hu, hsafe'⟩ := ih
    exact ⟨t ++ u, ht.append hu, hsafe.append hsafe'⟩

/-- A text with markers may stand in an attribute. -/
theorem emits_textAttr {name : String} (hname : name ∈ attributeNames) (value : String) :
    Emits s Attributes (l.textAttr name value) := by
  obtain ⟨t, ht, hsafe⟩ := emits_interpolated value
  exact ⟨_, writes_textAttr name ht, attributes_value hname hsafe⟩

theorem emits_textAttr? {name : String} (hname : name ∈ attributeNames) (value : Option String) :
    Emits s Attributes (l.textAttr? name value) := by
  cases value with
  | none => exact ⟨"", writes_nil, .nil⟩
  | some value => exact emits_textAttr hname value

/-- An address may stand in an attribute, checked at once or when it is filled. -/
theorem emits_urlAttr {name : String} (hname : name ∈ attributeNames) (value : String) :
    Emits s Attributes (l.urlAttr name value) := by
  unfold urlAttr
  split
  · have hwrites :
        Writes s [.static (" " ++ name ++ "=\""), .segment (.url value), .static "\""] _ :=
      ((writes_static _).cons_segment _).cons_static _
    refine ⟨_, hwrites, ?_⟩
    rw [Segment.render, ← String.append_assoc]
    exact attributes_value hname (safe_escape _)
  · exact ⟨_, writes_static _, attributes_attr hname _⟩

/-- The value of an input line is an attribute, bound or fixed. -/
theorem emits_inputValue (n : Node) : Emits s Attributes (l.inputValue n) := by
  unfold inputValue
  split
  · next name _ =>
    have hwrites : Writes s [.static " value=\"", .segment (.text name), .static "\""] _ :=
      ((writes_static _).cons_segment _).cons_static _
    refine ⟨_, (writes_boundAttrs _).append hwrites, (Frame.attributes_boundAttrs _).append ?_⟩
    rw [← String.append_assoc, show " value=\"" = " " ++ "value" ++ "=\"" by decide]
    exact attributes_value (by decide) (safe_render_text name)
  · exact emits_textAttr? (by decide) _

/-- The text of an input area is safe, bound or fixed. -/
theorem emits_areaText (n : Node) : Emits s Safe (l.areaText n) := by
  unfold areaText
  split
  · next name _ => exact ⟨_, writes_segment _, safe_render_text name⟩
  · exact emits_interpolated _

/-- An option is marked as selected by a bare attribute or not at all. -/
theorem emits_optionMark (bound : Option String) (value : String) :
    Emits s Attributes (optionMark bound value) := by
  cases bound with
  | none => exact ⟨"", writes_nil, .nil⟩
  | some name =>
    refine ⟨_, writes_segment _, ?_⟩
    rw [Segment.render]
    split
    · exact attributes_bare (show "selected" ∈ bareAttributes by decide)
    · exact .nil

/-- A checkbox is marked as checked by a bare attribute or not at all. -/
theorem emits_checkboxAttrs (bound : Option String) : Emits s Attributes (checkboxAttrs bound) := by
  cases bound with
  | none => exact ⟨"", writes_nil, .nil⟩
  | some name =>
    refine ⟨_, (writes_boundAttrs _).append (writes_segment _),
      (Frame.attributes_boundAttrs _).append ?_⟩
    rw [Segment.render]
    split
    · exact attributes_bare (show "checked" ∈ bareAttributes by decide)
    · exact .nil

section Elements

variable (hlayout : l.layout.IsBlank)
include hlayout

/-- The steps of a container emit well-formed markup if those of its children do. -/
theorem emits_container {attrs children : List BuildStep} {tag class_ : String}
    (htag : tag ∈ elementTags) (hclass : class_.toList.all isPlain = true)
    (hattrs : Emits s Attributes attrs)
    (hchildren : Emits s WellFormed children) (depth : Nat) (n : Node) :
    Emits s WellFormed (l.container depth n tag class_ attrs children) := by
  obtain ⟨a, ha, hA⟩ := hattrs
  obtain ⟨t, ht, hT⟩ := emits_interpolated n.content
  obtain ⟨c, hc, hC⟩ := hchildren
  exact ⟨_, writes_container ha ht hc depth tag class_,
    Frame.wellFormed_container hlayout htag hclass hA hT hC depth n⟩

theorem emits_input (depth : Nat) (n : Node) : Emits s WellFormed (l.input depth n) := by
  obtain ⟨v, hv, hV⟩ := emits_inputValue n
  obtain ⟨p, hp, hP⟩ := emits_textAttr? (show "placeholder" ∈ attributeNames by decide)
    (n.property? "placeholder")
  exact ⟨_, writes_input hv hp depth, Frame.wellFormed_input hlayout hV hP depth n⟩

theorem emits_textarea (depth : Nat) (n : Node) : Emits s WellFormed (l.textarea depth n) := by
  obtain ⟨p, hp, hP⟩ := emits_textAttr? (show "placeholder" ∈ attributeNames by decide)
    (n.property? "placeholder")
  obtain ⟨t, ht, hT⟩ := emits_areaText n
  exact ⟨_, writes_textarea hp ht depth,
    Frame.wellFormed_textarea hlayout (Frame.attributes_boundAttrs _) hP hT depth n⟩

theorem emits_select (depth : Nat) (n : Node) : Emits s WellFormed (l.select depth n) := by
  -- Whether an option is marked depends on the state, so every option has a mark of its own.
  choose mark hmark hattrs using fun value => emits_optionMark (s := s) (l.bound? n) value
  exact ⟨_, writes_select hmark depth,
    Frame.wellFormed_select hlayout (Frame.attributes_boundAttrs _)
      (Frame.wellFormed_options hlayout hattrs (depth + 1) _) depth n⟩

theorem emits_checkbox (depth : Nat) (n : Node) : Emits s WellFormed (l.checkbox depth n) := by
  obtain ⟨a, ha, hA⟩ := emits_checkboxAttrs (l.bound? n)
  obtain ⟨t, ht, hT⟩ := emits_interpolated n.content
  exact ⟨_, writes_checkbox ha ht depth, Frame.wellFormed_checkbox hlayout hA hT depth n⟩

/-- What cannot be shown leaves a comment. -/
theorem emits_comment {comment : String} (h : comment ∈ comments) (depth : Nat) :
    Emits s WellFormed (l.line depth comment) :=
  ⟨_, writes_line depth comment, Frame.wellFormed_line hlayout (wellFormed_comment h) depth⟩

/-- An image without an address leaves a comment. -/
theorem emits_image (depth : Nat) (n : Node) : Emits s WellFormed (l.image depth n) := by
  cases haddress : n.property? "src" with
  | none =>
    unfold image
    rw [haddress]
    exact emits_comment hlayout (by decide) depth
  | some address =>
    obtain ⟨u, hu, hU⟩ := emits_urlAttr (show "src" ∈ attributeNames by decide) address
    obtain ⟨a, ha, hA⟩ := emits_textAttr (show "alt" ∈ attributeNames by decide)
      ((n.property? "alt").getD n.content)
    exact ⟨_, writes_image haddress hu ha depth, Frame.wellFormed_image hlayout hU hA depth n⟩

/-- Leaving out the children of a condition leaves nothing open. -/
theorem emits_conditional {children : List BuildStep} (hchildren : Emits s WellFormed children)
    (depth : Nat) (n : Node) : Emits s WellFormed (l.conditional depth n children) := by
  unfold conditional
  cases n.condition with
  | error _ => exact emits_comment hlayout (by decide) depth
  | ok condition =>
    obtain ⟨c, hc, hC⟩ := hchildren
    refine ⟨_, hc.conditional condition, ?_⟩
    split
    · exact hC
    · exact .nil

end Elements

end Lowering

/-! ## Trees -/

mutual

/-- The steps of a node emit well-formed markup; one case for every element. -/
theorem Lowering.emits_node {l : Lowering} (hlayout : l.layout.IsBlank) (s : State) (depth : Nat)
    (n : Node) : Emits s Markup.WellFormed (l.node depth n) := by
  obtain ⟨kind, properties, content, children, state, line⟩ := n
  have hbelow := Lowering.emits_nodes hlayout s (depth + 1) children
  have hnone : Emits s Markup.Attributes [] := ⟨"", writes_nil, .nil⟩
  rw [Lowering.node]
  cases Node.element ⟨kind, properties, content, children, state, line⟩ with
  | box => exact emits_container hlayout (by decide) (by decide) hnone hbelow depth _
  | text => exact emits_container hlayout (by decide) (by decide) hnone hbelow depth _
  | button =>
    refine emits_container hlayout (by decide) (by decide) ?_ hbelow depth _
    exact ⟨_, writes_buttonAttrs _, Frame.attributes_buttonAttrs _⟩
  | input => exact emits_input hlayout depth _
  | textarea => exact emits_textarea hlayout depth _
  | select => exact emits_select hlayout depth _
  | checkbox => exact emits_checkbox hlayout depth _
  | image => exact emits_image hlayout depth _
  | link =>
    refine emits_container hlayout (by decide) (by decide) ?_ hbelow depth _
    obtain ⟨u, hu, hU⟩ := emits_urlAttr (show "href" ∈ Markup.attributeNames by decide) _
    exact ⟨_, writes_linkAttrs hu, Frame.attributes_linkAttrs hU _⟩
  | divider => exact ⟨_, writes_line depth _, Frame.wellFormed_divider hlayout depth⟩
  | conditional =>
    exact emits_conditional hlayout (Lowering.emits_nodes hlayout s depth children) depth _
  | state => exact ⟨"", writes_nil, .nil⟩
  | generic =>
    refine emits_container hlayout (by decide) (by decide) ?_ hbelow depth _
    exact ⟨_, writes_static _, Markup.attributes_attr (by decide) _⟩

/-- The same for several nodes, one behind the other. -/
theorem Lowering.emits_nodes {l : Lowering} (hlayout : l.layout.IsBlank) (s : State) (depth : Nat)
    (ns : List Node) : Emits s Markup.WellFormed (l.nodes depth ns) := by
  match ns with
  | [] =>
    rw [Lowering.nodes]
    exact ⟨"", writes_nil, .nil⟩
  | n :: ns =>
    rw [Lowering.nodes]
    obtain ⟨t, ht, hT⟩ := Lowering.emits_node hlayout s depth n
    obtain ⟨u, hu, hU⟩ := Lowering.emits_nodes hlayout s depth ns
    exact ⟨t ++ u, ht.append hu, hT.append hU⟩

end

/-- **Rendered markup is well formed**, whatever the page and its state, if lines are indented by
blanks. -/
theorem wellFormed_render_template (o : GenerateOptions) (p : Page) (s : State)
    (hlayout : o.layout.IsBlank) :
    Markup.WellFormed ((Artifact.generate o p).template.render s) := by
  obtain ⟨text, hwrites, hwell⟩ :=
    Lowering.emits_nodes (l := ⟨o.layout, p.state⟩) hlayout s 0 p.root.children
  have hrender : (Artifact.generate o p).template.render s = text := hwrites.render_ofSteps
  rw [hrender]
  exact hwell

/-- A page whose texts try to be markup, in a state whose values do. -/
def hostilePage : Page where
  root := { kind := "Page", line := 1, children := [
    { kind := "<Card>", content := "\x7bname\x7d & <script>", line := 2 },
    { kind := "Input", properties := .ofList [("bind", "name"), ("bg", "\"><b>")], line := 3 }] }
  state := .ofList [("name", .text "\"'></p>")]

/-- A page whose texts try to close quotes, tags and scripts. -/
theorem wellFormed_render_hostilePage :
    ({} : GenerateOptions).layout.IsBlank
      ∧ Markup.WellFormed
        ((Artifact.generate {} hostilePage).template.render (State.initial hostilePage.state)) := by
  have h : ({} : GenerateOptions).layout.IsBlank := by decide
  exact ⟨h, wellFormed_render_template {} hostilePage _ h⟩

end PageLang
