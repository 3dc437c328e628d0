/-!
# Hosts

What the library and the command line ask of the machine that they run on: files in folders, two
outlets for text, a clock, and one switch. A host may be the machine itself, or a value that holds
files (`Memory`).
-/

namespace LifeStory

/-- What became of a file that was to be removed. -/
inductive Removal where
  | removed
  /-- There is no such file. -/
  | missing
  | refused
deriving DecidableEq, Repr

/-- A machine to run on. -/
class Host (m : Type → Type) where
  /-- Whether there is a file under a path. -/
  isFile : String → m Bool
  /-- Whether there is a folder under a path. -/
  isFolder : String → m Bool
  /-- The text of a file, if it can be read. -/
  readText : String → m (Option String)
  /-- The names in a folder in any order, if it can be listed. -/
  names : String → m (Option (List String))
  /-- Makes a folder, and those that it is in; says whether it is there now. -/
  makeFolder : String → m Bool
  /-- Makes a file with a text; says whether that was possible. -/
  writeText : String → String → m Bool
  /-- Adds a text at the end of a file; says whether that was possible. -/
  appendText : String → String → m Bool
  removeFile : String → m Removal
  /-- Prints a text. -/
  print : String → m Unit
  /-- Prints a text about trouble. -/
  complain : String → m Unit
  /-- The time in nanoseconds, from any beginning. -/
  now : m Nat
  /-- Waits for so many milliseconds. -/
  pause : Nat → m Unit
  /-- The switch for the events for testing, if it is set. -/
  testSwitch : m (Option String)
  /-- Whether what is printed is styled. -/
  colours : m Bool

namespace Host

/-- A name in a folder as one path. A name that is a full path stands for itself. -/
def join (folder name : String) : String :=
  if name.startsWith "/" then name
  else if folder = "" ∨ folder.endsWith "/" then folder ++ name
  else folder ++ "/" ++ name

end Host

end LifeStory
