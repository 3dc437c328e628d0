import LifeStory.Life.Basic
import LifeStory.Template.Group
import LifeStory.Text.Word

/-!
# Variables in a text

The group `var.NAME` shows a variable, and zero when there is none with the name; the group
`var.NAME:default` shows the default instead.
-/

namespace LifeStory.Template

/-- Reads the content of a group as the name of a variable and its default. -/
def variableRef? : List Char → Option (String × Option (List Char))
  | 'v' :: 'a' :: 'r' :: '.' :: cs =>
    let name := cs.takeWhile Text.isWord
    if name = [] then none
    else
      match cs.dropWhile Text.isWord with
      | [] => some (String.ofList name, none)
      | ':' :: fallback => some (String.ofList name, some fallback)
      | _ => none
  | _ => none

/-- The text that a reference to a variable shows. -/
def shownVariable {R : Type} [Scalar R] (life : Life R) (ref : String × Option (List Char)) :
    List Char :=
  match life.vars.get? ref.1 with
  | some v => v.display.toList
  | none => ref.2.getD ['0']

/-- Resolves the references of a text to variables. -/
def resolveVariables {R : Type} [Scalar R] (life : Life R) (text : List Char) : List Char :=
  (resolveGroups variableRef? (fun ref (_ : Unit) ↦ (some (shownVariable life ref), ())) text ()).1

end LifeStory.Template
