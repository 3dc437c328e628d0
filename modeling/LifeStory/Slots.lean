import LifeStory.Document.Life
import LifeStory.Json.Printer
import LifeStory.Json.Reader
import LifeStory.Library

/-!
# Save slots

Every save slot is a file in one folder, which is made for the first save.
-/

namespace LifeStory

/-- A folder of save slots. -/
structure Slots where
  folder : String

namespace Slots

/-- The path of the file of a slot. -/
def path (slots : Slots) (slot : String) : String := Host.join slots.folder (slot ++ ".json")

variable {m : Type → Type} [Monad m] [Host m]

/-- Writes a life into a slot. -/
def save (slots : Slots) (slot : String) (life : Life Float) : ExceptT LibraryError m Unit := do
  if ← Host.makeFolder (m := m) slots.folder then
    if ← Host.writeText (m := m) (slots.path slot) life.toJson.pretty then return
    else throw (.inaccessible (slots.path slot))
  else throw (.inaccessible slots.folder)

/-- The life that a slot holds; nothing if there is no file for it. -/
def load? (slots : Slots) (slot : String) : ExceptT LibraryError m (Option (Life Float)) := do
  if ← Host.isFile (m := m) (slots.path slot) then
    let text ← Library.readFile (slots.path slot)
    match (Json.parse? text).bind Life.ofJson? with
    | some life => return some life
    | none => throw (.brokenSave slot)
  else return none

/-- Empties a slot. A slot that is empty stays so. -/
def delete (slots : Slots) (slot : String) : ExceptT LibraryError m Unit := do
  match ← Host.removeFile (m := m) (slots.path slot) with
  | .refused => throw (.inaccessible (slots.path slot))
  | _ => return

/-- A run that goes on from what a slot holds. -/
def resume? (slots : Slots) (setting : Setting Float) (slot : String) (seed : UInt64) :
    ExceptT LibraryError m (Option (Session Float Ledger Xoshiro)) := do
  let life ← slots.load? slot
  return life.map fun life ↦ setting.resume seed (setting.catalog.backfill life)

end Slots

end LifeStory
