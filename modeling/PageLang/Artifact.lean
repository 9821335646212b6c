import PageLang.Browser.Script
import PageLang.Json.Printer
import PageLang.Page
import PageLang.Session
import PageLang.Template.Data
import PageLang.Template.Lowering

/-!
# Generated markup

What a page is turned into: its title and its first rendering in an element of its own, and, for
use in a browser, the program as data and the script that runs it.

`generate` is `generate_with_options`, `scriptSafe` is `script_safe_json`, `document` is
`to_document` and `session` is `runtime`. That values are turned into data can fail there; here it
cannot.
-/

namespace PageLang

/-- What to generate. -/
structure GenerateOptions where
  /-- The id of the element that holds the page. -/
  rootId : String := "qcl-app"
  /-- Whether the title is shown as a heading. -/
  includeTitle : Bool := true
  /-- Whether the program and the script are included. -/
  includeRuntime : Bool := true
  layout : Markup.Layout := {}
  deriving DecidableEq, Repr, Inhabited

/-- The result of generating markup for a page. -/
structure Artifact where
  title : Option String
  markup : String
  template : Template
  state : StateTable
  actions : ActionTable
  diagnostics : List Diagnostic

namespace Artifact

/-- How a character of data is written inside a script element, which must not hold markup. -/
def scriptEntity : Char → List Char
  | '<' => "\\u003c".toList
  | '>' => "\\u003e".toList
  | '&' => "\\u0026".toList
  | c => [c]

/-- Data as it is written inside a script element. -/
def scriptSafe (json : String) : String := String.ofList (json.toList.flatMap scriptEntity)

/-- The program of a page as data. -/
def island (state : StateTable) (template : Template) (actions : ActionTable) : Json :=
  .obj [
    ("state", state.toJson Literal.toJson),
    ("template", template.toJson),
    ("actions", actions.toJson)]

/-- The heading of a page. -/
def heading (o : GenerateOptions) : Option String → String
  | none => ""
  | some title =>
    if o.includeTitle then "<h1 class=\"qcl-title\">" ++ Markup.escape title ++ "</h1>"
      ++ o.layout.lineEnd
    else ""

/-- The element that holds the page. -/
def root (o : GenerateOptions) (rendered : String) : String :=
  "<div id=\"" ++ Markup.escape o.rootId ++ "\" class=\"qcl-app\">" ++ o.layout.lineEnd ++ rendered
    ++ "</div>" ++ o.layout.lineEnd

/-- The program and the script. -/
def runtime (o : GenerateOptions) (program : Json) : String :=
  if o.includeRuntime then
    "<script type=\"application/json\" id=\"" ++ Markup.escape o.rootId ++ "-program\">"
      ++ scriptSafe program.compact ++ "</script>" ++ o.layout.lineEnd
      ++ "<script>\n" ++ Browser.script (scriptSafe (Json.compact (.str o.rootId)))
      ++ "</script>" ++ o.layout.lineEnd
  else ""

/-- The markup of a page. -/
def generate (o : GenerateOptions) (p : Page) : Artifact :=
  let shown := Node.shownAll p.root.children
  let template := Lowering.template ⟨o.layout, p.state⟩ p.root.children
  let actions := ActionTable.ofNodes shown
  let rendered := template.render (State.initial p.state)
  { title := p.title?
    markup := heading o p.title? ++ root o rendered ++ runtime o (island p.state template actions)
    template
    state := p.state
    actions
    diagnostics := p.diagnostics ++ p.state.diagnostics shown }

/-- The page in use. -/
def session (a : Artifact) : Session := .new a.template a.state a.actions

/-- The styles of a standalone document. -/
def documentStyles : List String := [
  "    body \x7b font-family: system-ui, sans-serif; margin: 2rem; \x7d",
  "    .qcl-box \x7b display: flex; flex-direction: column; gap: 8px; \x7d",
  "    .qcl-button \x7b cursor: pointer; align-self: flex-start; \x7d",
  "    .qcl-checkbox \x7b display: flex; align-items: center; gap: 4px; \x7d",
  "    .qcl-divider \x7b width: 100%; border: none; border-top: 1px solid #ddd; \x7d"]

/-- The lines of a standalone document before the markup. -/
def documentHead (title : String) : List String :=
  ["<!DOCTYPE html>", "<html>", "<head>",
    "  <meta charset=\"utf-8\">",
    "  <meta name=\"viewport\" content=\"width=device-width, initial-scale=1\">",
    "  <title>" ++ Markup.escape title ++ "</title>",
    "  <style>"]
  ++ documentStyles ++ ["  </style>", "</head>", "<body>"]

/-- Lines, each with its end. -/
def unlines (lines : List String) : String := String.join (lines.map (· ++ "\n"))

/-- The markup as a standalone document. -/
def document (a : Artifact) : String :=
  unlines (documentHead (a.title.getD "QCL Page")) ++ a.markup
    ++ (if a.markup.toList.getLast? = some '\n' then "" else "\n")
    ++ unlines ["</body>", "</html>"]

end Artifact

end PageLang
