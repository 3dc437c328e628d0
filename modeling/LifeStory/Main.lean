import LifeStory.Command.Program

/-!
# The command line

The program on the machine itself.
-/

namespace LifeStory

/-- Whether an action succeeds. -/
def succeeds (act : IO Unit) : IO Bool := do
  try
    act
    return true
  catch _ => return false

/-- The answer of an action, if it succeeds. -/
def answerOf {α : Type} (act : IO α) : IO (Option α) := do
  try return some (← act) catch _ => return none

/-- What is under a path, if something is. -/
def kindOf (path : String) : IO (Option IO.FS.FileType) :=
  answerOf do return (← (← IO.FS.realPath path).metadata).type

/-- The names in a folder. -/
def namesIn (path : String) : IO (List String) := do
  return ((← (← IO.FS.realPath path).readDir).map IO.FS.DirEntry.fileName).toList

/-- Removes a file. -/
def removeFile (path : String) : IO Removal := do
  match ← (IO.FS.removeFile path).toBaseIO with
  | .ok _ => return .removed
  | .error (.noFileOrDirectory ..) => return .missing
  | .error _ => return .refused

instance : Host IO where
  isFile path := return (← kindOf path) == some .file
  isFolder path := return (← kindOf path) == some .dir
  readText path := answerOf (IO.FS.readFile path)
  names path := answerOf (namesIn path)
  makeFolder path := succeeds (IO.FS.createDirAll path)
  writeText path text := succeeds (IO.FS.writeFile path text)
  appendText path text := succeeds (IO.FS.withFile path .append fun file ↦ file.putStr text)
  removeFile := removeFile
  print text := do
    IO.print text
    (← IO.getStdout).flush
  complain text := IO.eprint text
  now := IO.monoNanosNow
  pause milliseconds := IO.sleep milliseconds.toUInt32
  testSwitch := IO.getEnv "RABBITHOLE_SHOW_TEST_EVENTS"
  colours := return (← (← IO.getStdout).isTty) && (← IO.getEnv "NO_COLOR").isNone

end LifeStory

/-- Runs the program with the arguments of the command line. -/
def main (arguments : List String) : IO UInt32 :=
  LifeStory.Command.run "assets/content" arguments
