import PageLang.Text.Search

/-!
# Paths

File paths as they are written: names divided by slashes. Nothing here looks at a disk.
-/

namespace PageLang.Cli.Path

/-- A path under a directory; a path that starts with a slash stays as it is. -/
def join (directory path : String) : String :=
  if path.startsWith "/" then path
  else if directory.endsWith "/" then directory ++ path
  else directory ++ "/" ++ path

/-- A path and what is between its slashes. An empty part is where two slashes meet or one ends
the path. -/
def parts (path : String) : List String :=
  (Text.splitBy (· = '/') path.toList).map String.ofList

/-- The last name of a path. -/
def fileName (path : String) : String :=
  ((parts path).filter fun part => part ≠ "" ∧ part ≠ ".").getLast?.getD ""

/-- A name cut at its last point, if that is not its first character. -/
def cutName (name : List Char) : List Char × Option (List Char) :=
  let ext := (name.reverse.takeWhile (· ≠ '.')).reverse
  let stem := name.take (name.length - ext.length - 1)
  if stem.isEmpty then (name, none) else (stem, some ext)

/-- The extension of a name. -/
def extension? (name : String) : Option String := (cutName name.toList).2.map String.ofList

/-- A path with the extension of its last name replaced. Where nothing but two points is left of
the name without its extension, the path leads to the directory above and gets no extension. -/
def withExtension (path ext : String) : String :=
  let name := (path.toList.reverse.takeWhile (· ≠ '/')).reverse
  let directory := path.toList.take (path.length - name.length)
  match cutName name with
  | (['.'], some _) => String.ofList (directory ++ ['.', '.'])
  | (stem, _) => String.ofList (directory ++ stem) ++ "." ++ ext

end PageLang.Cli.Path
