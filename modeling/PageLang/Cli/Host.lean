/-!
# What a command needs of its surroundings

A command reads and writes files and prints, and nothing else. The operations are given to it, so
that it can be run on a disk as well as on a folder that is only a value.
-/

namespace PageLang.Cli

/-- Access to files and to the two output streams. A file operation that fails tells why. -/
structure Host (m : Type → Type) where
  /-- The directory that relative paths start from. -/
  cwd : String
  isFile : (path : String) → m Bool
  isDirectory : (path : String) → m Bool
  /-- All files below a directory, each as the names that lead to it. -/
  filesBelow : (directory : String) → m (List (List String))
  read : (path : String) → m (Except String String)
  /-- Writes a file and makes the directories that lead to it. -/
  write : (path text : String) → m (Except String Unit)
  print : String → m Unit
  printError : String → m Unit

end PageLang.Cli
