/-!
# Escaped characters of a template

A backslash takes the meaning from a brace or a backslash after it, and makes a line break or a tab
of `n` and `t`. While the constructs of a template are resolved, escaped braces and backslashes are
held as characters of the private use area (`hold`); at the end everything is resolved (`resolve`).
-/

namespace LifeStory.Template

/-- Stands for an escaped backslash. -/
def heldBackslash : Char := '\ue000'

/-- Stands for an escaped opening brace. -/
def heldOpen : Char := '\ue001'

/-- Stands for an escaped closing brace. -/
def heldClose : Char := '\ue002'

/-- What stands for a character after a backslash, if its meaning is taken. -/
def held? (c : Char) : Option Char :=
  if c = '\\' then some heldBackslash
  else if c = '\x7b' then some heldOpen
  else if c = '\x7d' then some heldClose
  else none

/-- Replaces escaped backslashes and braces by the characters that stand for them. -/
def hold : List Char → List Char
  | [] => []
  | [c] => [c]
  | c :: d :: rest =>
    if c = '\\' then
      match held? d with
      | some marker => marker :: hold rest
      | none => c :: hold (d :: rest)
    else c :: hold (d :: rest)

/-- The character that a held one stands for. -/
def released (c : Char) : Char :=
  if c = heldBackslash then '\\'
  else if c = heldOpen then '\x7b'
  else if c = heldClose then '\x7d'
  else c

/-- The character that an escape with the given letter stands for. -/
def escaped? (c : Char) : Option Char :=
  if c = 'n' then some '\n'
  else if c = 't' then some '\t'
  else if c = '\x7b' ∨ c = '\x7d' ∨ c = '\\' then some c
  else none

/-- Resolves held characters and escapes; a backslash before another character stays. -/
def resolve : List Char → List Char
  | [] => []
  | [c] => [released c]
  | c :: d :: rest =>
    if c = '\\' then
      match escaped? d with
      | some e => e :: resolve rest
      | none => c :: resolve (d :: rest)
    else released c :: resolve (d :: rest)

end LifeStory.Template
