import LifeStory.Random.Source
import LifeStory.Template.Group
import LifeStory.Text.Blank

/-!
# Text that is drawn

The group `A|B|C` shows one of its options, each with the same chance. A group with one option is
left as it is, and nothing is drawn for it.
-/

namespace LifeStory.Template

/-- Reads the content of a group as options: it is not empty, and begins with no dollar sign. -/
def options? : List Char → Option (List (List Char))
  | [] => none
  | c :: cs =>
    if c = '$' then none else some ((Text.splitChars '|' (c :: cs)).map Text.trimChars)

/-- Draws one of several options. -/
def drawOption (R : Type) [Scalar R] {G : Type} [RandomSource G] (options : List (List Char))
    (source : Counted G) : Option (List Char) × Counted G :=
  if options.length ≤ 1 then (none, source)
  else
    let (u, source) := source.unit R
    let index := Scalar.toIndex? (u * Scalar.ofNat options.length) options.length
    (index.bind (options[·]?), source)

/-- Resolves the groups of a text that offer options. -/
def resolveRandom (R : Type) [Scalar R] {G : Type} [RandomSource G] (text : List Char)
    (source : Counted G) : List Char × Counted G :=
  resolveGroups options? (drawOption R) text source

end LifeStory.Template
