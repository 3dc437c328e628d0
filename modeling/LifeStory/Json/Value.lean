/-!
# Document values

A `Json` value is what a document or a part of it says. Whole numbers of up to 64 bits are kept
apart from numbers of double precision. The fields of an object stand in a list, in the order in
which they were written; `Json.canonical` is the same value with every object sorted by key, and a
key that was written twice given its later value.

A leaf can be `unreadable`: it has the outward form of a value and no meaning (a number beyond the
range of double precision, half of a surrogate pair, a container nested too deep). Such a leaf is
an error for whoever reads it, and none for whoever skips it.
-/

namespace LifeStory

/-- The value of a document. -/
inductive Json where
  | null
  | bool (value : Bool)
  | int (value : Int)
  | real (value : Float)
  | string (value : String)
  | array (items : List Json)
  | object (fields : List (String × Json))
  | unreadable
deriving Inhabited

namespace Json

/-- A number as documents hold it; one that is not finite becomes null. -/
def ofFloat (x : Float) : Json := if x.isFinite then .real x else .null

/-- A whole number. -/
def ofNat (n : Nat) : Json := .int n

/-- The value, or null. -/
def ofOption {α : Type} (encode : α → Json) : Option α → Json
  | none => .null
  | some a => encode a

/-- A list of values. -/
def ofList {α : Type} (encode : α → Json) (items : List α) : Json := .array (items.map encode)

/-- The value of a field of an object. -/
def get? (key : String) : Json → Option Json
  | .object fields => (fields.find? fun f ↦ f.1 = key).map Prod.snd
  | _ => none

/-- Puts a field at its place in key order, over a field that has the key already. -/
def insertField (key : String) (value : Json) : List (String × Json) → List (String × Json)
  | [] => [(key, value)]
  | (k, v) :: rest =>
    if key < k then (key, value) :: (k, v) :: rest
    else if k = key then (key, value) :: rest
    else (k, v) :: insertField key value rest

/-- Fields in key order; of two with one key the later stays. -/
def sortFields (fields : List (String × Json)) : List (String × Json) :=
  fields.foldl (fun sorted f ↦ insertField f.1 f.2 sorted) []

mutual

/-- The same value with the fields of every object in key order and without repeated keys. -/
def canonical : Json → Json
  | .array items => .array (canonicalItems items)
  | .object fields => .object (sortFields (canonicalFields fields))
  | other => other

/-- `canonical` for the items of an array. -/
def canonicalItems : List Json → List Json
  | [] => []
  | item :: rest => canonical item :: canonicalItems rest

/-- `canonical` for the values of an object, before the fields are sorted. -/
def canonicalFields : List (String × Json) → List (String × Json)
  | [] => []
  | (key, value) :: rest => (key, canonical value) :: canonicalFields rest

end

mutual

/-- Whether no leaf of the value is unreadable. -/
def isReadable : Json → Bool
  | .array items => areReadable items
  | .object fields => areReadableFields fields
  | .unreadable => false
  | _ => true

/-- `isReadable` for the items of an array. -/
def areReadable : List Json → Bool
  | [] => true
  | item :: rest => isReadable item && areReadable rest

/-- `isReadable` for the values of an object. -/
def areReadableFields : List (String × Json) → Bool
  | [] => true
  | (_, value) :: rest => isReadable value && areReadableFields rest

end

end Json

end LifeStory
