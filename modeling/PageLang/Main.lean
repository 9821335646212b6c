import PageLang.Cli.Command

/-!
# The program

The commands on the disk.
-/

namespace PageLang.Cli

/-- What an action gives, or the wording of its failure. -/
def attempt {α : Type} (action : IO α) : IO (Except String α) := do
  try
    return .ok (← action)
  catch e =>
    return .error (toString e)

/-- Whether an action succeeds with `true`. -/
def succeeds (action : IO Bool) : IO Bool := do
  try
    action
  catch _ =>
    return false

/-- All files below a directory, each as the names that lead to it. -/
partial def walk (directory : String) : IO (List (List String)) := do
  let root ← IO.currentDir
  let entries ← attempt (root / directory).readDir
  match entries with
  | .error _ => return []
  | .ok entries =>
    let lists ← entries.toList.mapM fun entry => do
      if ← entry.path.isDir then
        return (← walk entry.path.toString).map (entry.fileName :: ·)
      else
        return [[entry.fileName]]
    return lists.flatten

/-- The disk, seen from the current directory. -/
def disk : IO (Host IO) := do
  let root ← IO.currentDir
  return {
    cwd := root.toString
    isFile := fun path => succeeds do
      return (← (root / path).metadata).type == .file
    isDirectory := fun path => (root / path).isDir
    filesBelow := walk
    read := fun path => attempt (IO.FS.readFile (root / path))
    write := fun path text => attempt do
      let file := root / path
      if let some parent := file.parent then
        IO.FS.createDirAll parent
      IO.FS.writeFile file text
    print := fun text => IO.print text
    printError := fun text => IO.eprint text }

end PageLang.Cli

/-- Runs the program. -/
def main (args : List String) : IO UInt32 := do
  PageLang.Cli.run (← PageLang.Cli.disk) args
