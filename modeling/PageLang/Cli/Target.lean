/-!
# Output formats
-/

namespace PageLang.Cli

/-- What a source is compiled to. -/
inductive Target where
  /-- A standalone document. -/
  | html
  /-- Markup to be put into a document. -/
  | fragment
  /-- The expanded page as data. -/
  | json
  deriving DecidableEq, Repr, Inhabited

/-- The format of a name. -/
def Target.ofName? : String → Option Target
  | "html" => some .html
  | "fragment" => some .fragment
  | "json" => some .json
  | _ => none

/-- The extension of files in a format. -/
def Target.extension : Target → String
  | .html => "html"
  | .fragment => "fragment.html"
  | .json => "json"

end PageLang.Cli
