import LifeStory.Document.Content
import LifeStory.Json.Reader

/-!
# Reading content from text

Base content has to be a document of the right form. A pack has to have an id and a name as well;
a batch of packs takes those that do and have an id that no pack before them has
(`Import.ofSources`), and says why the others were skipped. A pack that is skipped claims no id.
-/

namespace LifeStory

/-- Why a text gives no content. -/
inductive ContentError where
  /-- The text is no document of the right form. -/
  | malformed (source : String)
  /-- A field that a pack has to have is blank. -/
  | missingField (source field : String)
  /-- A pack before it in the batch has the id. -/
  | duplicateId (id : String)
deriving DecidableEq, Repr

namespace ContentError

/-- What the author of the text is told. -/
def message : ContentError → String
  | malformed source => "failed to parse " ++ source
  | missingField source field =>
    "content pack " ++ source ++ " is missing required field `" ++ field ++ "`"
  | duplicateId id => "content pack id `" ++ id ++ "` appears more than once in this import"

end ContentError

/-- The base content that a text gives. -/
def BaseContent.ofText (source text : String) : Except ContentError (BaseContent Float) :=
  match (Json.parse? text).bind BaseContent.ofJson? with
  | some base => .ok base
  | none => .error (.malformed source)

namespace Pack

/-- The first field of a pack that must not be blank and is. -/
def blankField? {R : Type} (pack : Pack R) : Option String :=
  if Text.trim pack.id = "" then some "id"
  else if Text.trim pack.name = "" then some "name"
  else none

/-- The pack that a text gives. -/
def ofText (source text : String) : Except ContentError (Pack Float) :=
  match (Json.parse? text).bind ofJson? with
  | none => .error (.malformed source)
  | some pack =>
    match pack.blankField? with
    | some field => .error (.missingField source field)
    | none => .ok pack

end Pack

/-- A pack of a batch that was skipped. -/
structure Skipped where
  source : String
  reason : ContentError
deriving DecidableEq, Repr

/-- A skipped pack in a document. -/
def Skipped.toJson (skipped : Skipped) : Json :=
  .object [("source", .string skipped.source), ("reason", .string skipped.reason.message)]

/-- What became of a batch of packs. -/
structure Import (R : Type) where
  packs : List (Pack R)
  skipped : List Skipped

namespace Import

variable {R : Type}

/-- An empty batch. -/
def empty : Import R := ⟨[], []⟩

/-- Takes a pack into a batch, if no pack of the batch has its id. -/
def accept (batch : Import R) (pack : Pack R) : Except ContentError (Pack R) :=
  if batch.packs.any fun p ↦ p.id = pack.id then .error (.duplicateId pack.id) else .ok pack

/-- Adds what a text gives to a batch: the pack, or why it was skipped. -/
def add (batch : Import R) (source : String) (read : Except ContentError (Pack R)) : Import R :=
  match read.bind batch.accept with
  | .ok pack => { batch with packs := batch.packs ++ [pack] }
  | .error reason => { batch with skipped := batch.skipped ++ [⟨source, reason⟩] }

/-- Reads a batch of packs, given by the names and the texts of their sources. -/
def ofSources (sources : List (String × String)) : Import Float :=
  sources.foldl (fun batch s ↦ batch.add s.1 (Pack.ofText s.1 s.2)) empty

end Import

end LifeStory
