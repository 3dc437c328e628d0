import LifeStory.Document.Config
import LifeStory.Game
import LifeStory.Host
import LifeStory.Import

/-!
# Libraries

A library is a folder of content: the base content, a folder of packs, and settings. The folder of
packs and the settings may be missing. Of the packs, a filter takes some; they are read in the order
of their names, whatever the order in which the host lists them (`PackFilter.choose`).
-/

namespace LifeStory

/-- Which packs are taken. -/
inductive PackFilter where
  | all
  | none
  | only (packs : List String)
deriving DecidableEq, Repr

namespace PackFilter

/-- The end of the name of a pack file. -/
def packSuffix : String := ".pack.json"

/-- The name of the pack that a file holds, if it holds one. -/
def packName? (file : String) : Option String :=
  if packSuffix.toList.isSuffixOf file.toList then
    some (String.ofList (file.toList.take (file.length - packSuffix.length)))
  else Option.none

/-- The filter that a text spells: `all`, `none`, or names of packs between commas. -/
def ofText (text : String) : PackFilter :=
  let names := Text.commaList text
  if names = [] ∨ "all" ∈ names.map Text.asciiLower then all
  else if "none" ∈ names.map Text.asciiLower then none
  else only names

/-- Whether a pack is taken. -/
def accepts (filter : PackFilter) (pack : String) : Bool :=
  match filter with
  | all => true
  | none => false
  | only packs => packs.contains pack

/-- The pack files to read, in the order of their names, among the files of a folder. -/
def choose (filter : PackFilter) (files : List String) : List String :=
  (files.filter fun file ↦ (packName? file).any filter.accepts).mergeSort fun a b ↦ a ≤ b

end PackFilter

/-- Why content or a save cannot be read or written. -/
inductive LibraryError where
  /-- A file or folder cannot be read, or cannot be written. -/
  | inaccessible (path : String)
  | content (reason : ContentError)
  | config (reason : Config.Refusal)
  /-- The file of a save slot is no save. -/
  | brokenSave (slot : String)

namespace LibraryError

/-- What is reported. -/
def message : LibraryError → String
  | inaccessible path => "failed to access " ++ path
  | content reason => reason.message
  | config reason => reason.message
  | brokenSave slot => "save slot `" ++ slot ++ "` is not valid JSON"

end LibraryError

/-- A folder of content. -/
structure Library where
  folder : String
  filter : PackFilter

namespace Library

/-- The path of the base content. -/
def basePath (library : Library) : String := Host.join library.folder "base.json"

/-- The path of the settings. -/
def configPath (library : Library) : String := Host.join library.folder "engine.json"

/-- The path of the folder of packs. -/
def packFolder (library : Library) : String := Host.join library.folder "packs"

variable {m : Type → Type} [Monad m] [Host m]

/-- The text of a file. -/
def readFile (path : String) : ExceptT LibraryError m String := do
  match ← Host.readText (m := m) path with
  | some text => return text
  | none => throw (.inaccessible path)

/-- The base content. -/
def readBase (library : Library) : ExceptT LibraryError m (BaseContent Float) := do
  let text ← readFile library.basePath
  match BaseContent.ofText "base.json" text with
  | .ok base => return base
  | .error reason => throw (.content reason)

/-- The packs that the filter takes. -/
def readPacks (library : Library) : ExceptT LibraryError m (Import Float) := do
  if ← Host.isFolder (m := m) library.packFolder then
    match ← Host.names (m := m) library.packFolder with
    | none => throw (.inaccessible library.packFolder)
    | some files =>
      let sources ← (library.filter.choose files).mapM fun file ↦ do
        return (file, ← readFile (Host.join library.packFolder file))
      return .ofSources sources
  else return .empty

/-- The settings, or those that hold unless it is said otherwise. -/
def readConfig (library : Library) : ExceptT LibraryError m (Config Float) := do
  if ← Host.isFile (m := m) library.configPath then
    let text ← readFile library.configPath
    match Config.ofText text with
    | .ok config => return config
    | .error reason => throw (.config reason)
  else return .default

/-- The content under its settings, and what became of the packs. -/
def load (library : Library) : ExceptT LibraryError m (Setting Float × Import Float) := do
  let batch ← library.readPacks
  let base ← library.readBase
  let config ← library.readConfig
  let switch ← Host.testSwitch (m := m)
  return (.ofContent base batch.packs config switch, batch)

end Library

end LifeStory
