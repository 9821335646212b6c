import PageLang.Artifact
import PageLang.Cli.Arguments
import PageLang.Cli.Config
import PageLang.Cli.Host
import PageLang.Cli.Path
import PageLang.Report

/-!
# Commands

`compile` turns sources into documents, fragments or data; `check` only tells what is wrong with
them. A source that fails does not stop the others, and the exit status tells that one did.

`CompileRequest.run` is `compile` with `compile_file` for each source, `CheckRequest.run` is
`check`, `findSources` is `find_qcl_files` and `compileSource` is `compile_source`. What they ask
of a disk goes through a `Host`.
-/

namespace PageLang.Cli

variable {m : Type → Type} [Monad m]

/-- A source file: its path, and the path under the directory that was asked for. -/
structure SourceFile where
  path : String
  relative : String
  deriving DecidableEq, Repr

/-- The order of paths: name by name. -/
def namesLE (a b : List String) : Bool := !decide (b < a)

/-- The files that are sources, by their extension, in order. -/
def sourcesAmong (files : List (List String)) : List (List String) :=
  (files.filter fun names => Path.extension? (names.getLast?.getD "") = some "qcl").mergeSort
    namesLE

/-- The sources of an input: the file itself, or those below the directory. -/
def findSources (h : Host m) (input : String) : m (Except String (List SourceFile)) := do
  if ← h.isFile input then
    return .ok [⟨input, Path.fileName input⟩]
  else if ← h.isDirectory input then
    let files ← h.filesBelow input
    return .ok ((sourcesAmong files).map fun names =>
      let relative := String.intercalate "/" names
      ⟨Path.join input relative, relative⟩)
  else
    return .error ("Input path does not exist: " ++ input)

/-- The page of a source file. -/
def compileSource (h : Host m) (file : SourceFile) : m (Except String Page) := do
  match ← h.read file.path with
  | .error reason => return .error ("Cannot read " ++ file.path ++ ": " ++ reason)
  | .ok source =>
    return (Page.compile source).mapError fun e =>
      "\n" ++ Report.render e (Path.fileName file.path) source

/-- The configuration of the working directory. -/
def loadConfig (h : Host m) : m (Except String Config) := do
  let path := Path.join h.cwd Config.fileName
  if ← h.isFile path then
    match ← h.read path with
    | .error reason => return .error reason
    | .ok text =>
      return (Config.ofText text).mapError fun reason => "Invalid " ++ path ++ ": " ++ reason
  else if ← h.isDirectory path then
    match ← h.read path with
    | .error reason => return .error reason
    | .ok _ => return .ok {}
  else
    return .ok {}

/-! ## Compiling -/

/-- The settings of a compilation. -/
structure Job where
  target : Target
  options : GenerateOptions
  toStdout : Bool
  outDir : String

/-- The text that a page is compiled to, and how many diagnostics there are. -/
def Job.output (j : Job) (p : Page) : String × Nat :=
  match j.target with
  | .json => (p.toJson.pretty, p.diagnostics.length)
  | .html =>
    let a := Artifact.generate j.options p
    (a.document, a.diagnostics.length)
  | .fragment =>
    let a := Artifact.generate j.options p
    (a.markup, a.diagnostics.length)

/-- The file that a source is compiled to. -/
def Job.outputFile (j : Job) (file : SourceFile) : String :=
  Path.withExtension (Path.join j.outDir file.relative) j.target.extension

/-- Compiles one source; tells where the output went and how many diagnostics there are. -/
def Job.compileFile (j : Job) (h : Host m) (file : SourceFile) :
    m (Except String (String × Nat)) := do
  match ← compileSource h file with
  | .error message => return .error message
  | .ok page =>
    let (text, warnings) := j.output page
    if j.toStdout then
      h.print (text ++ "\n")
      return .ok ("stdout", warnings)
    else
      match ← h.write (j.outputFile file) text with
      | .error message => return .error message
      | .ok () => return .ok (j.outputFile file, warnings)

/-- The note on diagnostics beside a compiled file. -/
def warningNote (warnings : Nat) : String :=
  if warnings > 0 then " (" ++ toString warnings ++ " warnings)" else ""

/-- Compiles one source and says how that went; tells how many failed. -/
def Job.compileOne (j : Job) (h : Host m) (file : SourceFile) : m Nat := do
  match ← j.compileFile h file with
  | .ok (output, warnings) =>
    unless j.toStdout do
      h.print ("  ✓ " ++ file.relative ++ " → " ++ output ++ warningNote warnings ++ "\n")
    return 0
  | .error message =>
    h.printError ("  ✗ " ++ file.relative ++ " - " ++ message ++ "\n")
    return 1

/-- Compiles sources one after the other; tells how many failed. -/
def Job.compileAll (j : Job) (h : Host m) : List SourceFile → m Nat
  | [] => return 0
  | file :: files => do
    let failed ← j.compileOne h file
    return failed + (← j.compileAll h files)

/-- What is said at the end of a compilation. -/
def compileSummary (total failed : Nat) : String :=
  if failed = 0 then "\n✓ Compiled " ++ toString total ++ " files successfully\n"
  else "\n! Compiled " ++ toString (total - failed) ++ " files, " ++ toString failed ++ " errors\n"

/-- The settings that a request makes. -/
def CompileRequest.job (r : CompileRequest) (cwd : String) (c : Config) : Job where
  target := r.target.getD c.target
  options :=
    match r.rootId <|> c.rootId with
    | some rootId => { rootId }
    | none => {}
  toStdout := r.toStdout
  outDir := Path.join cwd (r.outDir.getD c.outDir)

/-- Compiles the sources that were found. -/
def CompileRequest.runOn (r : CompileRequest) (h : Host m) (c : Config) (files : List SourceFile) :
    m (Except String Unit) := do
  let j := r.job h.cwd c
  if files.isEmpty then
    h.print "No .qcl files found\n"
    return .ok ()
  unless j.toStdout do
    h.print ("Compiling QCL files...\nFound " ++ toString files.length ++ " files\n")
  let failed ← j.compileAll h files
  unless j.toStdout do
    h.print (compileSummary files.length failed)
  if failed > 0 then
    return .error (toString failed ++ " of " ++ toString files.length ++ " files failed to compile")
  else
    return .ok ()

/-- The `compile` command. -/
def CompileRequest.run (r : CompileRequest) (h : Host m) : m (Except String Unit) := do
  match ← loadConfig h with
  | .error message => return .error message
  | .ok c =>
    match ← findSources h (Path.join h.cwd r.input) with
    | .error message => return .error message
    | .ok files => r.runOn h c files

/-! ## Checking -/

/-- How many sources failed and how many diagnostics the others have. -/
structure Tally where
  errors : Nat := 0
  warnings : Nat := 0
  deriving DecidableEq, Repr

/-- The diagnostics of a source as text. -/
def diagnosticLines (relative : String) (ds : List Diagnostic) : String :=
  if ds.isEmpty then "✓ " ++ relative ++ "\n"
  else relative ++ "\n" ++ String.join (ds.map fun d =>
    "  warning line " ++ toString d.line ++ " [" ++ d.kind.name ++ "] " ++ d.message ++ "\n")

/-- Whether diagnostics are printed as data. -/
def CheckRequest.asJson (r : CheckRequest) : Bool := r.format = "json"

/-- The diagnostics of a source as they are printed. -/
def CheckRequest.diagnosticText (r : CheckRequest) (relative : String) (ds : List Diagnostic) :
    String :=
  if r.asJson then Json.pretty (.arr (ds.map Diagnostic.toJson)) ++ "\n"
  else diagnosticLines relative ds

/-- Checks one source. -/
def CheckRequest.checkOne (r : CheckRequest) (h : Host m) (file : SourceFile) : m Tally := do
  match ← compileSource h file with
  | .error message =>
    h.printError ("✗ " ++ file.relative ++ message ++ "\n")
    return { errors := 1 }
  | .ok page =>
    let ds := (Artifact.generate {} page).diagnostics
    h.print (r.diagnosticText file.relative ds)
    return { warnings := ds.length }

/-- Checks sources one after the other. -/
def CheckRequest.checkAll (r : CheckRequest) (h : Host m) : List SourceFile → m Tally
  | [] => return {}
  | file :: files => do
    let first ← r.checkOne h file
    let rest ← r.checkAll h files
    return ⟨first.errors + rest.errors, first.warnings + rest.warnings⟩

/-- What is said at the end of a check. -/
def checkSummary (files : Nat) (t : Tally) : String :=
  "\n   Files checked: " ++ toString files ++ "\n"
    ++ (if t.errors > 0 then "   Errors: " ++ toString t.errors ++ "\n" else "")
    ++ (if t.warnings > 0 then "   Warnings: " ++ toString t.warnings ++ "\n" else "")
    ++ (if t.errors = 0 && t.warnings = 0 then "   ✓ No issues found!\n" else "")

/-- The `check` command. -/
def CheckRequest.run (r : CheckRequest) (h : Host m) : m (Except String Unit) := do
  match ← findSources h (Path.join h.cwd r.input) with
  | .error message => return .error message
  | .ok files =>
    let t ← r.checkAll h files
    unless r.asJson do
      h.print (checkSummary files.length t)
    if t.errors > 0 || (r.strict && t.warnings > 0) then return .error "check failed"
    else return .ok ()

/-! ## The program -/

/-- The exit status after a command: one that failed says why. -/
def finish (h : Host m) : Except String Unit → m UInt32
  | .ok () => return 0
  | .error message => do
    h.printError ("\nError: " ++ message ++ "\n\n")
    return 1

/-- What is said when the arguments are wrong. -/
def misuseText : String := "error: invalid arguments\n\nFor more information, try '--help'.\n"

/-- Does what a request asks for; gives the exit status. -/
def Request.run (h : Host m) : Request → m UInt32
  | .compile r => do finish h (← r.run h)
  | .check r => do finish h (← r.run h)
  | .help topic => do
    h.print topic.text
    return 0
  | .version => do
    h.print versionText
    return 0
  | .misuse => do
    h.printError misuseText
    return 2

/-- Runs the program with arguments; gives the exit status. -/
def run (h : Host m) (args : List String) : m UInt32 := (Request.ofArgs args).run h

end PageLang.Cli
