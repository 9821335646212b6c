/-!
# Help texts

What the command line tells about itself.
-/

namespace PageLang.Cli

/-- The subjects of help. -/
inductive HelpTopic where
  | program
  /-- The `compile` command, in brief or at length. -/
  | compile (long : Bool)
  | check
  | help
  deriving DecidableEq, Repr

/-- The line that tells the version. -/
def versionText : String := "qcl 0.1.0\n"

/-- The help on the program. -/
def programHelp : List String := [
  "Command line front end for the QCL compiler",
  "",
  "Usage: qcl [OPTIONS] <COMMAND>",
  "",
  "Commands:",
  "  compile  Compile .qcl files to HTML or AST JSON",
  "  check    Parse and expand .qcl files, reporting diagnostics",
  "  help     Print this message or the help of the given subcommand(s)",
  "",
  "Options:",
  "  -v, --verbose  Log pipeline progress (overridden by RUST_LOG)",
  "  -h, --help     Print help",
  "  -V, --version  Print version"]

/-- The brief help on `compile`. -/
def compileHelp : List String := [
  "Compile .qcl files to HTML or AST JSON",
  "",
  "Usage: qcl compile [OPTIONS] [INPUT]",
  "",
  "Arguments:",
  "  [INPUT]  .qcl file or directory to compile [default: .]",
  "",
  "Options:",
  "  -t, --target <TARGET>    Output format (overrides config) [possible values: html, fragment, json]",
  "  -v, --verbose            Log pipeline progress (overridden by RUST_LOG)",
  "      --stdout             Output to stdout instead of files",
  "  -o, --out-dir <OUT_DIR>  Output directory (overrides config)",
  "      --root-id <ROOT_ID>  Root element id for the runtime (overrides config)",
  "  -h, --help               Print help (see more with '--help')"]

/-- The help on `compile` at length. -/
def compileLongHelp : List String := [
  "Compile .qcl files to HTML or AST JSON",
  "",
  "Usage: qcl compile [OPTIONS] [INPUT]",
  "",
  "Arguments:",
  "  [INPUT]",
  "          .qcl file or directory to compile",
  "          ",
  "          [default: .]",
  "",
  "Options:",
  "  -t, --target <TARGET>",
  "          Output format (overrides config)",
  "",
  "          Possible values:",
  "          - html:     Standalone HTML page",
  "          - fragment: Markup fragment with the runtime, for embedding",
  "          - json:     Expanded AST as JSON",
  "",
  "  -v, --verbose",
  "          Log pipeline progress (overridden by RUST_LOG)",
  "",
  "      --stdout",
  "          Output to stdout instead of files",
  "",
  "  -o, --out-dir <OUT_DIR>",
  "          Output directory (overrides config)",
  "",
  "      --root-id <ROOT_ID>",
  "          Root element id for the runtime (overrides config)",
  "",
  "  -h, --help",
  "          Print help (see a summary with '-h')"]

/-- The help on `check`. -/
def checkHelp : List String := [
  "Parse and expand .qcl files, reporting diagnostics",
  "",
  "Usage: qcl check [OPTIONS] [INPUT]",
  "",
  "Arguments:",
  "  [INPUT]  .qcl file or directory to check [default: .]",
  "",
  "Options:",
  "  -f, --format <FORMAT>  Output format (text, json) [default: text]",
  "  -v, --verbose          Log pipeline progress (overridden by RUST_LOG)",
  "      --strict           Treat warnings as errors",
  "  -h, --help             Print help"]

/-- The help on `help`. -/
def helpHelp : List String := [
  "Print this message or the help of the given subcommand(s)",
  "",
  "Usage: qcl help [COMMAND]...",
  "",
  "Arguments:",
  "  [COMMAND]...  Print help for the subcommand(s)"]

/-- The lines of help on a subject. -/
def HelpTopic.lines : HelpTopic → List String
  | .program => programHelp
  | .compile false => compileHelp
  | .compile true => compileLongHelp
  | .check => checkHelp
  | .help => helpHelp

/-- The help on a subject. -/
def HelpTopic.text (t : HelpTopic) : String := String.join (t.lines.map (· ++ "\n"))

end PageLang.Cli
