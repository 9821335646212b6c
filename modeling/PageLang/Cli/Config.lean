import PageLang.Cli.Target
import PageLang.Json.Reader

/-!
# The configuration file

A file beside the sources can set the output directory, the format and the id of the root element.

`Config` is of that name and `ofText` is what `load` does with the text of the file.
-/

namespace PageLang.Cli

open Json (Draft Fault)

/-- The settings of a configuration file. -/
structure Config where
  outDir : String := "dist"
  rootId : Option String := none
  target : Target := .html
  deriving DecidableEq, Repr, Inhabited

namespace Config

/-- The name of the file. -/
def fileName : String := "qcl.config.json"

/-- The fields that have been read. -/
structure Fields where
  outDir : Option String := none
  rootId : Option (Option String) := none
  target : Option Target := none

/-- Reads a string or `null`. -/
def readOption : Json.Reader (Option String)
  | _, .null => .ok none
  | depth, d => some <$> Draft.string depth d

/-- Reads one field. -/
def readField (depth : Nat) (s : Fields) (name : String) (d : Draft) : Except Fault Fields :=
  match name with
  | "outDir" => do return { s with outDir := ← Draft.once s.outDir (Draft.string depth d) }
  | "rootId" => do return { s with rootId := ← Draft.once s.rootId (readOption depth d) }
  | "target" => do
    return { s with target := ← Draft.once s.target (Draft.alternative Target.ofName? depth d) }
  | _ => do
    d.skip
    return s

/-- Reads a configuration. What it does not set has its default. -/
def read : Json.Reader Config := fun depth d => do
  let s ← Draft.record ["outDir", "rootId", "target"] readField {} depth d
  return ⟨s.outDir.getD "dist", s.rootId.getD none, s.target.getD .html⟩

/-- Why a text is no configuration. -/
def reason : Fault → String
  | .malformed => "malformed data"
  | .truncated => "unexpected end of data"
  | .mismatch => "data of another shape"

/-- The configuration in a text. -/
def ofText (text : String) : Except String Config := (Json.readText read text).mapError reason

end Config

end PageLang.Cli
