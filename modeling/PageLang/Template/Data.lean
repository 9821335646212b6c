import PageLang.Expr.Data
import PageLang.Template

/-!
# Templates as data

The JSON form of templates.
-/

namespace PageLang

open Json (Draft Fault)

mutual

/-- A segment as data. -/
def Segment.toJson : Segment → Json
  | .static html => .kinded "Static" [("html", .str html)]
  | .text name => .kinded "Text" [("name", .str name)]
  | .url value => .kinded "Url" [("value", .str value)]
  | .conditional condition body =>
    .kinded "If" [("condition", condition.toJson), ("body", .arr (Segment.listToJson body))]
  | .checked name => .kinded "Checked" [("name", .str name)]
  | .selected name option => .kinded "Selected" [("name", .str name), ("option", .str option)]

/-- Segments as data. -/
def Segment.listToJson : List Segment → List Json
  | [] => []
  | s :: ss => s.toJson :: Segment.listToJson ss

end

/-- A template as data. -/
def Template.toJson (t : Template) : Json :=
  .obj [("segments", .arr (Segment.listToJson t.segments))]

/-- The kinds of segments. -/
def Segment.kinds : List String := ["Static", "Text", "Url", "If", "Checked", "Selected"]

/-- The segment of a kind with the given fields; `inner` reads the segments inside it. -/
def Segment.ofRecord? (inner : Json → Option Segment) (kind : String) (record : Json) :
    Option Segment :=
  match kind with
  | "Static" => do
    let [html] ← record.fields? ["html"] | none
    return .static (← html.string?)
  | "Text" => do
    let [name] ← record.fields? ["name"] | none
    return .text (← name.string?)
  | "Url" => do
    let [value] ← record.fields? ["value"] | none
    return .url (← value.string?)
  | "If" => do
    let [condition, body] ← record.fields? ["condition", "body"] | none
    return .conditional (← Expr.ofJson? condition) (← (← body.items?).mapM inner)
  | "Checked" => do
    let [name] ← record.fields? ["name"] | none
    return .checked (← name.string?)
  | "Selected" => do
    let [name, option] ← record.fields? ["name", "option"] | none
    return .selected (← name.string?) (← option.string?)
  | _ => none

/-- The segment that a value of bounded height stands for. -/
def Segment.ofJsonWithin? : Nat → Json → Option Segment
  | 0, _ => none
  | n + 1, j => do
    let (kind, record) ← j.tagged? Segment.kinds
    Segment.ofRecord? (Segment.ofJsonWithin? n) kind record

/-- Reads a segment. -/
def Segment.read : Json.Reader Segment := fun depth d => do
  let (kind, record) ← d.tagged (Json.among Segment.kinds) depth
  Json.orMismatch (Segment.ofRecord? (Segment.ofJsonWithin? record.height) kind record)

/-- Reads one field of a template. -/
def Template.readField (depth : Nat) (segments : Option (List Segment)) (name : String)
    (d : Draft) : Except Fault (Option (List Segment)) :=
  match name with
  | "segments" => Draft.once segments (Draft.list Segment.read depth d)
  | _ => do
    d.skip
    return segments

/-- Reads a template. -/
def Template.read : Json.Reader Template := fun depth d => do
  return ⟨← Draft.required (← Draft.record ["segments"] Template.readField none depth d)⟩

end PageLang
