import PageLang.Cli.Host
import PageLang.Cli.Path

/-!
# Folders as values

A directory with all that is in it, as a value, and a host that works on it and keeps what is
printed. Of the names in a path, `.` and an empty one stay where they are and `..` goes one up;
whatever another name is sought in must be a directory.
-/

namespace PageLang.Cli

/-- Files by the names that lead to them. Their directories are there with them, and so are
further ones. -/
structure Folder where
  files : List (List String × String) := []
  directories : List (List String) := []
  deriving Repr

/-- Why a file operation fails. -/
inductive FileError where
  | notFound
  | exists
  | notDirectory
  | isDirectory
  deriving DecidableEq, Repr

/-- The wording of a failure. -/
def FileError.message : FileError → String
  | .notFound => "No such file or directory (os error 2)"
  | .exists => "File exists (os error 17)"
  | .notDirectory => "Not a directory (os error 20)"
  | .isDirectory => "Is a directory (os error 21)"

namespace Folder

/-- The text of a file. -/
def file? (f : Folder) (names : List String) : Option String := f.files.lookup names

/-- Whether names lead to a directory: the folder itself, one on its own, or one that leads to a
file. -/
def isDirectory (f : Folder) (names : List String) : Bool :=
  names.isEmpty || f.directories.any (names.isPrefixOf ·)
    || f.files.any fun file => names.isPrefixOf file.1 && names.length < file.1.length

/-- Follows parts of a path from a directory. -/
def follow (f : Folder) (here : List String) : List String → Except FileError (List String)
  | [] => .ok here
  | part :: parts =>
    if !f.isDirectory here then .error (if (f.file? here).isSome then .notDirectory else .notFound)
    else if part = "" || part = "." then f.follow here parts
    else if part
      = ".." then (if here.isEmpty then .error .notFound else f.follow here.dropLast parts)
    else f.follow (here ++ [part]) parts

/-- The parts of a path after those of the directory that the folder stands for. -/
def inside? : (directory path : List String) → Option (List String)
  | [], parts => some parts
  | d :: ds, p :: ps => if d = p then inside? ds ps else none
  | _ :: _, [] => none

/-- Where a path leads when the folder stands for the directory `cwd`. -/
def resolve (f : Folder) (cwd path : String) : Except FileError (List String) :=
  match inside? (Path.parts cwd) (Path.parts path) with
  | none => .error .notFound
  | some parts => f.follow [] parts

/-- Whether a path leads to a file. -/
def hasFile (f : Folder) (cwd path : String) : Bool :=
  match f.resolve cwd path with
  | .ok names => (f.file? names).isSome
  | .error _ => false

/-- Whether a path leads to a directory. -/
def hasDirectory (f : Folder) (cwd path : String) : Bool :=
  match f.resolve cwd path with
  | .ok names => f.isDirectory names
  | .error _ => false

/-- The files below a directory, each by the names from there. -/
def filesBelow (f : Folder) (cwd path : String) : List (List String) :=
  match f.resolve cwd path with
  | .ok names =>
    (f.files.filter fun file => names.isPrefixOf file.1).map fun file => file.1.drop names.length
  | .error _ => []

/-- The text of the file that a path leads to. -/
def read (f : Folder) (cwd path : String) : Except FileError String := do
  let names ← f.resolve cwd path
  match f.file? names with
  | some text => .ok text
  | none => .error (if f.isDirectory names then .isDirectory else .notFound)

/-- Follows parts of a path and makes the directories that are missing. Nothing is known of what
lies above the folder, and a path that leads there leads nowhere. -/
def makeDirectories (f : Folder) (here : List String) :
    List String → Except FileError (Folder × Option (List String))
  | [] => .ok (f, some here)
  | part :: parts =>
    if part = "" || part = "." then f.makeDirectories here parts
    else if part = ".." then
      if here.isEmpty then .ok (f, none) else f.makeDirectories here.dropLast parts
    else
      let next := here ++ [part]
      if (f.file? next).isSome then
        .error (if parts.all fun p => p = "" || p = "." then .exists else .notDirectory)
      else if f.isDirectory next then f.makeDirectories next parts
      else { f with directories := f.directories ++ [next] }.makeDirectories next parts

/-- Whether a name leads to a directory wherever it stands. -/
def isDots (name : String) : Bool := name = "" || name = "." || name = ".."

/-- The folder after a file was written, the directories that lead to it made before. These stay
also when the file cannot be written. What is written above the folder is not kept. -/
def write (f : Folder) (cwd path text : String) : Folder × Except FileError Unit :=
  match inside? (Path.parts cwd) (Path.parts path) with
  | none => (f, .error .notFound)
  | some parts =>
    match f.makeDirectories [] parts.dropLast with
    | .error e => (f, .error e)
    | .ok (f, here) =>
      let name := parts.getLast?.getD ""
      if isDots name then (f, .error .isDirectory)
      else match here with
        | none => (f, .ok ())
        | some here =>
          let names := here ++ [name]
          if f.isDirectory names then (f, .error .isDirectory)
          else ({ f with files := f.files.filter (·.1 ≠ names) ++ [(names, text)] }, .ok ())

/-- The folder with files at the given paths. -/
def ofFiles (files : List (String × String)) : Folder :=
  files.foldl (fun f file => (f.write "" ("/" ++ file.1) file.2).1) {}

end Folder

/-- A folder in use and what has been printed. -/
structure Desk where
  folder : Folder
  printed : String := ""
  printedErrors : String := ""

/-- A host that works on a folder in place of the directory `cwd`. -/
def Desk.host (cwd : String) : Host (StateM Desk) where
  cwd
  isFile path := return (← get).folder.hasFile cwd path
  isDirectory path := return (← get).folder.hasDirectory cwd path
  filesBelow path := return (← get).folder.filesBelow cwd path
  read path := return ((← get).folder.read cwd path).mapError FileError.message
  write path text := do
    let d ← get
    let (folder, outcome) := d.folder.write cwd path text
    set { d with folder }
    return outcome.mapError FileError.message
  print text := modify fun d => { d with printed := d.printed ++ text }
  printError text := modify fun d => { d with printedErrors := d.printedErrors ++ text }

end PageLang.Cli
