import LifeStory.Decimal.Layout
import LifeStory.Json.Value

/-!
# Writing documents

A document is written in one of two layouts: `compact`, without any blank, and `pretty`, with one
item a line, two blanks for each level, and nothing between the brackets of an empty container.
Fields are written in the order in which the value holds them.
-/

namespace LifeStory.Json

/-- The hexadecimal digit of a number below sixteen. -/
def hexDigit (n : Nat) : Char := Nat.digitChar n

/-- How a character stands in a string. Quotes, backslashes and control characters are escaped,
nothing else. -/
def escapeChar (c : Char) : List Char :=
  if c = '"' then ['\\', '"']
  else if c = '\\' then ['\\', '\\']
  else if c = '\n' then ['\\', 'n']
  else if c = '\r' then ['\\', 'r']
  else if c = '\t' then ['\\', 't']
  else if c.toNat = 0x08 then ['\\', 'b']
  else if c.toNat = 0x0C then ['\\', 'f']
  else if c.toNat < 0x20 then
    ['\\', 'u', '0', '0', hexDigit (c.toNat / 16), hexDigit (c.toNat % 16)]
  else [c]

/-- A string between quotes. -/
def quote (s : String) : String :=
  s.foldl (fun out c ↦ (escapeChar c).foldl String.push out) "\"" ++ "\""

/-- A number of double precision; what is not finite is written as null. -/
def realText (x : Float) : String :=
  match Decimal.Reading.ofFloat x with
  | .finite b => Decimal.documentText b
  | _ => "null"

mutual

/-- The document without any blank. -/
def compact : Json → String
  | .null => "null"
  | .bool b => if b then "true" else "false"
  | .int n => toString n
  | .real x => realText x
  | .string s => quote s
  | .array items => "[" ++ compactItems items ++ "]"
  | .object fields => "\x7b" ++ compactFields fields ++ "\x7d"
  | .unreadable => "null"

/-- The items of an array, with commas between them. -/
def compactItems : List Json → String
  | [] => ""
  | [item] => compact item
  | item :: rest => compact item ++ "," ++ compactItems rest

/-- The fields of an object, with commas between them. -/
def compactFields : List (String × Json) → String
  | [] => ""
  | [(key, value)] => quote key ++ ":" ++ compact value
  | (key, value) :: rest => quote key ++ ":" ++ compact value ++ "," ++ compactFields rest

end

/-- A line break and the indentation of a level. -/
def lineBreak (level : Nat) : String := "\n" ++ String.ofList (List.replicate (2 * level) ' ')

mutual

/-- The document with one item a line, at the given level of indentation. -/
def prettyAt (level : Nat) : Json → String
  | .array [] => "[]"
  | .array items => "[" ++ prettyItems (level + 1) items ++ lineBreak level ++ "]"
  | .object [] => "\x7b\x7d"
  | .object fields => "\x7b" ++ prettyFields (level + 1) fields ++ lineBreak level ++ "\x7d"
  | .null => "null"
  | .bool b => if b then "true" else "false"
  | .int n => toString n
  | .real x => realText x
  | .string s => quote s
  | .unreadable => "null"

/-- The items of an array, each on a line of its own. -/
def prettyItems (level : Nat) : List Json → String
  | [] => ""
  | [item] => lineBreak level ++ prettyAt level item
  | item :: rest => lineBreak level ++ prettyAt level item ++ "," ++ prettyItems level rest

/-- The fields of an object, each on a line of its own. -/
def prettyFields (level : Nat) : List (String × Json) → String
  | [] => ""
  | [(key, value)] => lineBreak level ++ quote key ++ ": " ++ prettyAt level value
  | (key, value) :: rest =>
    lineBreak level ++ quote key ++ ": " ++ prettyAt level value ++ "," ++ prettyFields level rest

end

/-- The document with one item a line. -/
def pretty (value : Json) : String := prettyAt 0 value

end LifeStory.Json
