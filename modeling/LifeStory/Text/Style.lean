/-!
# Styled text for terminals

A style is a list of display codes. A text is painted by writing the codes before it and a reset
after it; wherever the text itself resets the display, the codes are written again. Without codes,
or where colours are off, a text is written as it is.
-/

namespace LifeStory.Text

/-- A style: the codes that switch it on. -/
structure Style where
  codes : List Nat
deriving DecidableEq, Repr

namespace Style

/-- No style at all. -/
def plain : Style := ⟨[]⟩

/-- Heavy letters. -/
def bold : Style := ⟨[1]⟩

/-- Faint letters. -/
def dimmed : Style := ⟨[2]⟩

/-- Red letters. -/
def red : Style := ⟨[31]⟩

/-- Green letters. -/
def green : Style := ⟨[32]⟩

/-- Yellow letters. -/
def yellow : Style := ⟨[33]⟩

/-- Cyan letters. -/
def cyan : Style := ⟨[36]⟩

/-- Heavy letters in bright red. -/
def boldBrightRed : Style := ⟨[1, 91]⟩

/-- Heavy letters in bright yellow. -/
def boldBrightYellow : Style := ⟨[1, 93]⟩

/-- Heavy letters in bright blue. -/
def boldBrightBlue : Style := ⟨[1, 94]⟩

/-- Heavy letters in bright cyan. -/
def boldBrightCyan : Style := ⟨[1, 96]⟩

/-- Letters in bright white. -/
def brightWhite : Style := ⟨[97]⟩

/-- Heavy letters in bright white. -/
def boldBrightWhite : Style := ⟨[1, 97]⟩

/-- What switches a style on. -/
def opening (style : Style) : String :=
  "\x1b[" ++ String.intercalate ";" (style.codes.map toString) ++ "m"

/-- What switches every style off. -/
def reset : String := "\x1b[0m"

/-- Writes a text in a style, if colours are on. -/
def paint (colours : Bool) (style : Style) (text : String) : String :=
  if colours ∧ style.codes ≠ [] then
    style.opening ++ text.replace reset (reset ++ style.opening) ++ reset
  else text

end Style

end LifeStory.Text
