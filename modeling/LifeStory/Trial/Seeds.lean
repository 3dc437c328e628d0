import LifeStory.Text.Blank
import LifeStory.Text.Digit

/-!
# Lists of seeds

Seeds are given by tokens: whole numbers, hexadecimal ones, and ranges of them with both ends
included. A negative number stands for its magnitude. `Seeds.ofTokens` expands tokens in order,
and drops what has come before.
-/

namespace LifeStory.Trial

/-- Why tokens give no list of seeds. -/
inductive SeedError where
  /-- The end of a range is below its start. -/
  | backwards (range : String)
  /-- A range has too many seeds. -/
  | tooWide (range : String)
  /-- No token gives a seed. -/
  | noSeeds
  | badHex (text : String)
  | badNumber (text : String)
deriving DecidableEq, Repr

namespace Seeds

/-- The largest seed. -/
def maxSeed : Nat := 1 <<< 64 - 1

/-- How many seeds a range may have. -/
def maxSpan : Nat := 10000

end Seeds

namespace SeedError

/-- What the author of the tokens is told. -/
def message : SeedError → String
  | backwards range => "seed range " ++ range ++ " runs backwards"
  | tooWide range =>
    "seed range " ++ range ++ " spans more than " ++ toString Seeds.maxSpan ++ " seeds"
  | noSeeds => "no seeds given"
  | badHex text => "invalid hex seed " ++ text
  | badNumber text => "invalid seed " ++ text

end SeedError

namespace Seeds

/-- The value of a digit in a base of up to sixteen. -/
def digit? (base : Nat) (c : Char) : Option Nat :=
  (Text.hexValue? c).filter (· < base)

/-- The number with the given digits; there has to be one. -/
def digits? (base : Nat) (cs : List Char) : Option Nat :=
  if cs = [] then none
  else cs.foldlM (fun n c ↦ (digit? base c).map (n * base + ·)) 0

/-- A number of at most the given size; a plus sign may stand before it. -/
def natural? (base bound : Nat) (cs : List Char) : Option Nat :=
  let unsigned :=
    match cs with
    | '+' :: rest => rest
    | cs => cs
  (digits? base unsigned).filter (· ≤ bound)

/-- What stands behind the mark of a hexadecimal number. -/
def afterHexMark? : List Char → Option (List Char)
  | '0' :: 'x' :: rest => some rest
  | '0' :: 'X' :: rest => some rest
  | _ => none

/-- The magnitude of a negative number of 64 bits. -/
def magnitude? : List Char → Option Nat
  | '-' :: rest => (digits? 10 rest).filter (· ≤ 1 <<< 63)
  | _ => none

/-- The seed that a text spells, blanks around it aside. -/
def seed? (cs : List Char) : Except SeedError Nat :=
  let cs := Text.trimChars cs
  let text := String.ofList cs
  match afterHexMark? cs with
  | some digits =>
    match natural? 16 maxSeed digits with
    | some seed => .ok seed
    | none => .error (.badHex text)
  | none =>
    match (natural? 10 maxSeed cs).or (magnitude? cs) with
    | some seed => .ok seed
    | none => .error (.badNumber text)

/-- Cuts a text at its first two dots. -/
def cutRange? : List Char → Option (List Char × List Char)
  | [] => none
  | '.' :: '.' :: rest => some ([], rest)
  | c :: rest => (cutRange? rest).map fun (start, stop) ↦ (c :: start, stop)

/-- The seeds from the first to the last. -/
def range (text : String) (first last : Nat) : Except SeedError (List Nat) :=
  if last < first then .error (.backwards text)
  else if maxSpan ≤ last - first then .error (.tooWide text)
  else .ok ((List.range (last - first + 1)).map (first + ·))

/-- The seeds that a token gives, none if it is blank. -/
def ofToken (token : String) : Except SeedError (List Nat) :=
  let cs := Text.trimChars token.toList
  if cs = [] then .ok []
  else
    match cutRange? cs with
    | some (start, stop) => do
      let first ← seed? start
      let last ← seed? stop
      range (String.ofList cs) first last
    | none => do
      let seed ← seed? cs
      return [seed]

/-- The seeds that tokens give, each once, in the order in which they come first. -/
def ofTokens (tokens : List String) : Except SeedError (List Nat) := do
  let seeds := (← tokens.mapM ofToken).flatten.eraseDups
  if seeds = [] then .error .noSeeds else return seeds

end Seeds

end LifeStory.Trial
