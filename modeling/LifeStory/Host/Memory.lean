import LifeStory.Host
import LifeStory.StringMap

/-!
# A host in memory

`Memory` is a host that holds the files of one folder, its home, and the texts that were printed.
Paths are resolved name by name from the home on: every name but the last has to be that of a
folder, `..` leads to the folder above, and nothing outside of the home can be reached. Time does
not pass.
-/

namespace LifeStory

/-- The place of a file or folder: the names that lead to it from the home. -/
abbrev Place : Type := List String

/-- Files, and what was printed. -/
structure Memory where
  /-- The path of the home. Any other path that begins with a slash leads outside. -/
  home : String
  files : List (Place × String)
  /-- The folders that were made; those that files are in need not be among them. -/
  folders : List Place
  printed : String
  complained : String
  /-- Whether what is printed is styled. -/
  coloured : Bool

namespace Memory

/-- A home without files, on which nothing is styled. -/
def empty (home : String) : Memory := ⟨home, [], [], "", "", false⟩

/-- The pieces between slashes. -/
def pieces (path : String) : List String :=
  (path.toList.splitOn '/').map String.ofList

/-- The text of the file at a place. -/
def textAt? (memory : Memory) (place : Place) : Option String :=
  (memory.files.find? fun file ↦ file.1 = place).map Prod.snd

/-- Whether there is a folder at a place. -/
def isFolderAt (memory : Memory) (place : Place) : Bool :=
  place.isEmpty || memory.folders.any place.isPrefixOf
    || memory.files.any fun file ↦ place ≠ file.1 && place.isPrefixOf file.1

/-- Why a path leads nowhere. -/
inductive Obstacle where
  /-- A folder on the way is not there. -/
  | missing
  /-- What is on the way is no folder, or a name cannot be one. -/
  | refused
deriving DecidableEq, Repr

/-- How many bytes a name may have. -/
def maxNameSize : Nat := 255

/-- The place that a step leads to; a step leads on from folders only. -/
def step (memory : Memory) (place : Place) (name : String) : Except Obstacle Place :=
  if ¬ memory.isFolderAt place then
    .error (if (memory.textAt? place).isSome then .refused else .missing)
  else
    match name with
    | "" | "." => .ok place
    | ".." => if place.isEmpty then .error .missing else .ok place.dropLast
    | name => if name.utf8ByteSize ≤ maxNameSize then .ok (place ++ [name]) else .error .refused

/-- What is left of a path from the home on. -/
def fromHome (memory : Memory) (path : String) : Except Obstacle String :=
  if path.contains '\x00' then .error .refused
  else if path = memory.home then .ok ""
  else if path.startsWith (memory.home ++ "/") then
    .ok ((path.drop (memory.home.length + 1)).toString)
  else if path.startsWith "/" then .error .missing
  else .ok path

/-- The place that a path leads to, whether something is there or not. -/
def place (memory : Memory) (path : String) : Except Obstacle Place := do
  (pieces (← memory.fromHome path)).foldlM memory.step []

/-- The place that a path leads to, if it leads to one. -/
def place? (memory : Memory) (path : String) : Option Place := (memory.place path).toOption

/-- The names in the folder at a place. -/
def namesAt (memory : Memory) (place : Place) : List String :=
  ((memory.files.map Prod.fst ++ memory.folders).filterMap fun other ↦
    if place.isPrefixOf other then other[place.length]? else none).eraseDups

/-- Puts a file at a place. -/
def put (memory : Memory) (place : Place) (text : String) : Memory :=
  { memory with files := (memory.files.filter fun file ↦ file.1 ≠ place) ++ [(place, text)] }

/-- Whether a file can be put at a place. -/
def canPut (memory : Memory) (place : Place) : Bool :=
  !memory.isFolderAt place && memory.isFolderAt place.dropLast

/-- The home with a file under a path; the folders that it is in are made. -/
def withFile (memory : Memory) (path text : String) : Memory :=
  memory.put ((pieces path).filter (· ≠ "")) text

/-- Makes the folders along a path. -/
def makeFolders (memory : Memory) : Place → List String → Option Memory
  | _, [] => some memory
  | place, name :: rest =>
    match memory.step place name with
    | .error _ => none
    | .ok next =>
      if (memory.textAt? next).isSome then none
      else if memory.isFolderAt next then makeFolders memory next rest
      else makeFolders { memory with folders := memory.folders ++ [next] } next rest

/-- Prints a text. -/
def sayPrinted (text : String) (memory : Memory) : Memory :=
  { memory with printed := memory.printed ++ text }

/-- Prints a text about trouble. -/
def sayComplained (text : String) (memory : Memory) : Memory :=
  { memory with complained := memory.complained ++ text }

/-- Changes the memory if it can be changed; says whether it was. -/
def attempt (change : Memory → Option Memory) : StateM Memory Bool := fun memory ↦
  match change memory with
  | some changed => (true, changed)
  | none => (false, memory)

/-- Puts a file under a path, made from the text that is there. -/
def replaceText (path : String) (text : String → String) (memory : Memory) : Option Memory := do
  let place ← memory.place? path
  if memory.canPut place then
    some (memory.put place (text ((memory.textAt? place).getD "")))
  else none

/-- Removes the file under a path. -/
def remove (path : String) : StateM Memory Removal := fun memory ↦
  match memory.place path with
  | .error .missing => (.missing, memory)
  | .error .refused => (.refused, memory)
  | .ok place =>
    if (memory.textAt? place).isSome then
      (.removed, { memory with files := memory.files.filter fun file ↦ file.1 ≠ place })
    else if memory.isFolderAt place then (.refused, memory)
    else (.missing, memory)

instance : Host (StateM Memory) where
  isFile path := return (((← get).place? path).bind (← get).textAt?).isSome
  isFolder path := return ((← get).place? path).any (← get).isFolderAt
  readText path := return ((← get).place? path).bind (← get).textAt?
  names path := do
    let memory ← get
    return ((memory.place? path).filter memory.isFolderAt).map memory.namesAt
  makeFolder path := attempt fun memory ↦ do
    memory.makeFolders [] (pieces (← (memory.fromHome path).toOption))
  writeText path text := attempt (replaceText path fun _ ↦ text)
  appendText path text := attempt (replaceText path fun before ↦ before ++ text)
  removeFile := remove
  print text := modify (sayPrinted text)
  complain text := modify (sayComplained text)
  now := return 0
  pause _ := return
  testSwitch := return none
  colours := return (← get).coloured

end Memory

end LifeStory
