import LifeStory.Json.Value
import LifeStory.StringMap

/-!
# Reading records

A record is given as an object, or as the array of its fields in order. A field may be known under
several keys; unknown keys are skipped. `required`, `optional` and `defaulted` say what a field
that is not given stands for: an error, nothing, a value. An object must not give one field twice,
and an array must not be longer than the record.
-/

namespace LifeStory.Json

/-! ### Leaves -/

/-- A truth value. -/
def bool? : Json → Option Bool
  | .bool b => some b
  | _ => none

/-- A text. -/
def string? : Json → Option String
  | .string s => some s
  | _ => none

/-- Any number. -/
def float? : Json → Option Float
  | .int n => some (if n < 0 then -(n.natAbs.toUInt64.toFloat) else n.natAbs.toUInt64.toFloat)
  | .real x => some x
  | _ => none

/-- A whole number from zero up to the bound; `1.0` is none. -/
def natUpTo? (bound : Nat) : Json → Option Nat
  | .int n => if 0 ≤ n ∧ n ≤ bound then some n.toNat else none
  | _ => none

/-- A whole number of 32 bits with a sign. -/
def int32? : Json → Option Int
  | .int n => if -2147483648 ≤ n ∧ n ≤ 2147483647 then some n else none
  | _ => none

/-- A whole number of 32 bits without a sign. -/
def nat32? : Json → Option Nat := natUpTo? 4294967295

/-- A whole number of 64 bits without a sign. -/
def nat64? : Json → Option Nat := natUpTo? 18446744073709551615

/-- Null for nothing, or a value. -/
def nullable? {α : Type} (decode : Json → Option α) : Json → Option (Option α)
  | .null => some none
  | j => (decode j).map some

/-- An array of values. -/
def list? {α : Type} (decode : Json → Option α) : Json → Option (List α)
  | .array items => items.mapM decode
  | _ => none

/-- An object from names to values; of two values with one name the later counts. -/
def stringMap? {α : Type} (decode : Json → Option α) : Json → Option (StringMap α)
  | .object fields =>
    (fields.mapM fun f ↦ (decode f.2).map (Prod.mk f.1)).map StringMap.ofList
  | _ => none

/-- An array of names, in any order. -/
def stringSet? (j : Json) : Option StringSet := (list? string? j).map StringSet.ofNames

/-- One of finitely many names, as a text or as the only key of an object whose value is null. -/
def oneOf? {α : Type} (name : α → String) (all : List α) : Json → Option α
  | .string s => all.find? fun a ↦ name a = s
  | .object [(key, .null)] => all.find? fun a ↦ name a = key
  | _ => none

/-! ### Records -/

/-- A record as a document gives it. -/
inductive Record where
  | keyed (fields : List (String × Json))
  /-- The fields that have not been read, in order. -/
  | listed (items : List Json)

/-- Reads fields of a record, in order. -/
abbrev Fields (α : Type) : Type := StateT Record Option α

namespace Fields

/-- Reads the next field: `absent` stands for one that an object does not give, `short` for one
that is behind the end of an array. -/
def read {α : Type} (names : List String) (decode : Json → Option α)
    (absent short : Option α) : Fields α := fun record ↦
  match record with
  | .keyed fields =>
    match fields.filter fun f ↦ f.1 ∈ names with
    | [] => absent.map (·, record)
    | [f] => (decode f.2).map (·, record)
    | _ => none
  | .listed [] => short.map (·, record)
  | .listed (item :: rest) => (decode item).map (·, .listed rest)

/-- A field that has to be given. -/
def required {α : Type} (name : String) (decode : Json → Option α) : Fields α :=
  read [name] decode none none

/-- A field that may be missing in an object. -/
def optional {α : Type} (name : String) (decode : Json → Option α) : Fields (Option α) :=
  read [name] (nullable? decode) (some none) none

/-- A field that stands for a value when it is not given. -/
def defaulted {α : Type} (names : List String) (decode : Json → Option α) (value : α) :
    Fields α :=
  read names decode (some value) (some value)

/-- A field that may be missing or null. -/
def maybe {α : Type} (name : String) (decode : Json → Option α) : Fields (Option α) :=
  defaulted [name] (nullable? decode) none

end Fields

/-- Reads a record whose fields are read by `fields`. -/
def record? {α : Type} (fields : Fields α) (j : Json) : Option α := do
  let record ←
    match j with
    | .object fields => some (.keyed fields)
    | .array items => some (.listed items)
    | _ => none
  let (a, rest) ← fields.run record
  match rest with
  | .listed (_ :: _) => none
  | _ => some a

/-! ### Writing -/

/-- A field that is left out when there is nothing to write. -/
def fieldIfSome {α : Type} (name : String) (encode : α → Json) : Option α → List (String × Json)
  | none => []
  | some a => [(name, encode a)]

/-- An array of texts. -/
def ofStrings (texts : List String) : Json := .array (texts.map .string)

/-- An object from names to values. -/
def ofStringMap {α : Type} (encode : α → Json) (map : StringMap α) : Json :=
  .object (map.entries.map fun e ↦ (e.1, encode e.2))

/-- The names of a set, in increasing order. -/
def ofStringSet (set : StringSet) : Json := ofStrings set.keys

end LifeStory.Json
