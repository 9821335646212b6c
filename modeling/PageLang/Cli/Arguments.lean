import PageLang.Cli.Help
import PageLang.Cli.Target

/-!
# Command line arguments

Arguments are read from left to right, and the first thing that settles the matter does: a request
for help or for the version, or a mistake. An option has a long name and perhaps a letter. Its
value is the next argument or is attached to it; letters without values can share a dash. After
`--` nothing is an option.
-/

namespace PageLang.Cli

/-- An option of a command. -/
structure Flag where
  letter : Option Char
  name : String
  takesValue : Bool
  deriving DecidableEq, Repr

/-- What the arguments of a command have given so far. -/
structure Given where
  /-- The options by name, with their values; an option that takes none has an empty one. -/
  options : List (String × String) := []
  input : Option String := none
  /-- The option that waits for its value. -/
  pending : Option Flag := none
  /-- Whether options have ended. -/
  ended : Bool := false
  deriving Repr

/-- Why the reading of arguments ends early. -/
inductive Stop where
  /-- A mistake in the arguments. -/
  | misuse
  /-- Help was asked for, in brief or at length. -/
  | help (long : Bool)
  deriving DecidableEq, Repr

/-- The options of a command and the values they may have. -/
structure Grammar where
  flags : List Flag
  accepts : (name value : String) → Bool

namespace Grammar

/-- The options that every command has. -/
def common : List Flag := [⟨some 'v', "verbose", false⟩, ⟨some 'h', "help", false⟩]

/-- What is given after an option with its value. No option is given twice. -/
def give (g : Grammar) (s : Given) (f : Flag) (value : String) : Except Stop Given :=
  if s.options.any (·.1 = f.name) then .error .misuse
  else if f.takesValue && !g.accepts f.name value then .error .misuse
  else .ok { s with options := s.options ++ [(f.name, value)], pending := none }

/-- What is given after an input. There is one at most, and it has a name. -/
def giveInput (s : Given) (path : String) : Except Stop Given :=
  if s.input.isSome || path = "" then .error .misuse else .ok { s with input := some path }

/-- What is given after an option with a long name, and perhaps an attached value. -/
def long (g : Grammar) (s : Given) (name : String) (attached : Option String) : Except Stop Given :=
  match g.flags.find? (·.name = name), attached with
  | none, _ => .error .misuse
  | some f, none =>
    if f.name = "help" then .error (.help true)
    else if f.takesValue then .ok { s with pending := some f } else g.give s f ""
  | some f, some value => if f.takesValue then g.give s f value else .error .misuse

/-- What is given after letters that share a dash. -/
def letters (g : Grammar) (s : Given) : List Char → Except Stop Given
  | [] => .ok s
  | c :: rest =>
    match g.flags.find? (·.letter = some c) with
    | none => .error .misuse
    | some f =>
      if f.name = "help" then .error (.help false)
      else if f.takesValue then
        match rest with
        | [] => .ok { s with pending := some f }
        | '=' :: value => g.give s f (String.ofList value)
        | value => g.give s f (String.ofList value)
      else do letters g (← g.give s f "") rest

/-- What is given after one more argument. -/
def step (g : Grammar) (s : Given) (arg : String) : Except Stop Given :=
  if s.ended then giveInput s arg
  else match s.pending, arg.toList with
    | some _, '-' :: _ :: _ => .error .misuse
    | some f, _ => g.give s f arg
    | none, ['-', '-'] => .ok { s with ended := true }
    | none, '-' :: '-' :: cs =>
      let name := cs.takeWhile (· ≠ '=')
      match cs.drop name.length with
      | [] => g.long s (String.ofList name) none
      | _ :: value => g.long s (String.ofList name) (some (String.ofList value))
    | none, '-' :: c :: cs => g.letters s (c :: cs)
    | none, _ => giveInput s arg

/-- What all arguments give. -/
def read (g : Grammar) (args : List String) : Except Stop Given := do
  let s ← args.foldlM g.step {}
  if s.pending.isSome then .error .misuse else .ok s

end Grammar

/-- The value of an option. -/
def Given.value? (s : Given) (name : String) : Option String := s.options.lookup name

/-- The arguments of `compile`. -/
structure CompileRequest where
  input : String
  target : Option Target
  toStdout : Bool
  outDir : Option String
  rootId : Option String
  deriving DecidableEq, Repr

/-- The arguments of `check`. -/
structure CheckRequest where
  input : String
  format : String
  strict : Bool
  deriving DecidableEq, Repr

/-- What is asked of the program. -/
inductive Request where
  | compile (r : CompileRequest)
  | check (r : CheckRequest)
  | help (topic : HelpTopic)
  | version
  /-- The arguments are wrong. -/
  | misuse
  deriving DecidableEq, Repr

namespace Request

/-- The options of `compile`. -/
def compileGrammar : Grammar where
  flags := Grammar.common ++ [⟨some 't', "target", true⟩, ⟨none, "stdout", false⟩,
    ⟨some 'o', "out-dir", true⟩, ⟨none, "root-id", true⟩]
  accepts name value := name ≠ "target" || (Target.ofName? value).isSome

/-- The options of `check`. -/
def checkGrammar : Grammar where
  flags := Grammar.common ++ [⟨some 'f', "format", true⟩, ⟨none, "strict", false⟩]
  accepts _ _ := true

/-- The request that arguments of `compile` make. -/
def ofCompile (args : List String) : Request :=
  match compileGrammar.read args with
  | .error .misuse => .misuse
  | .error (.help long) => .help (.compile long)
  | .ok s => .compile {
      input := s.input.getD "."
      target := (s.value? "target").bind Target.ofName?
      toStdout := (s.value? "stdout").isSome
      outDir := s.value? "out-dir"
      rootId := s.value? "root-id" }

/-- The request that arguments of `check` make. -/
def ofCheck (args : List String) : Request :=
  match checkGrammar.read args with
  | .error .misuse => .misuse
  | .error (.help _) => .help .check
  | .ok s => .check {
      input := s.input.getD "."
      format := (s.value? "format").getD "text"
      strict := (s.value? "strict").isSome }

/-- The request that the arguments of `help` make. -/
def ofHelp : List String → Request
  | [] => .help .program
  | ["compile"] => .help (.compile true)
  | ["check"] => .help .check
  | ["help"] => .help .help
  | _ => .misuse

/-- What letters before the command come to: an answer, or whether `-v` has been given. -/
def leadingLetters (verbose : Bool) : List Char → Except Request Bool
  | [] => .ok verbose
  | 'v' :: rest => if verbose then .error .misuse else leadingLetters true rest
  | 'h' :: _ => .error (.help .program)
  | 'V' :: _ => .error .version
  | _ => .error .misuse

/-- The request that arguments make when `-v` has or has not been given before them. -/
def read (verbose : Bool) : List String → Request
  | [] => .misuse
  | "compile" :: rest => ofCompile rest
  | "check" :: rest => ofCheck rest
  | "help" :: rest => ofHelp rest
  | "--help" :: _ => .help .program
  | "--version" :: _ => .version
  | "--verbose" :: rest => if verbose then .misuse else read true rest
  | arg :: rest =>
    match arg.toList with
    | '-' :: c :: cs =>
      match leadingLetters verbose (c :: cs) with
      | .ok verbose => read verbose rest
      | .error request => request
    | _ => .misuse

/-- The request that arguments make. -/
def ofArgs (args : List String) : Request := read false args

end Request

end PageLang.Cli
