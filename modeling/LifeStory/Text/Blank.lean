/-!
# Blank characters

The characters with the Unicode property `White_Space`, and what is done with them: trimming a
text, and reading a comma separated list.
-/

namespace LifeStory.Text

/-- Whether the character has the Unicode property `White_Space`; there are twenty-five. -/
def isBlank (c : Char) : Bool :=
  let n := c.toNat
  (0x09 ≤ n && n ≤ 0x0D) || n == 0x20 || n == 0x85 || n == 0xA0 || n == 0x1680
    || (0x2000 ≤ n && n ≤ 0x200A) || n == 0x2028 || n == 0x2029 || n == 0x202F || n == 0x205F
    || n == 0x3000

/-- Takes the blanks off the end. -/
def dropBlankEnd : List Char → List Char
  | [] => []
  | c :: cs =>
    match dropBlankEnd cs with
    | [] => if isBlank c then [] else [c]
    | rest => c :: rest

/-- Takes the blanks off both ends. -/
def trimChars (cs : List Char) : List Char := dropBlankEnd (cs.dropWhile isBlank)

/-- The text without the blanks at its ends. -/
def trim (s : String) : String := String.ofList (trimChars s.toList)

/-- The pieces between the separators; a text without one is its own only piece. -/
def splitChars (separator : Char) : List Char → List (List Char)
  | [] => [[]]
  | c :: cs =>
    if c = separator then [] :: splitChars separator cs
    else
      match splitChars separator cs with
      | [] => [[c]]
      | piece :: pieces => (c :: piece) :: pieces

/-- The entries of a comma separated list, trimmed, without the empty ones. -/
def commaList (s : String) : List String :=
  ((splitChars ',' s.toList).map fun piece ↦ String.ofList (trimChars piece)).filter (· ≠ "")

/-- The text with its ASCII letters in lower case. -/
def asciiLower (s : String) : String := s.map Char.toLower

end LifeStory.Text
