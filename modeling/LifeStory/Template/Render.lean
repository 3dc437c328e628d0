import LifeStory.Template.Conditional
import LifeStory.Template.Escape
import LifeStory.Template.Random
import LifeStory.Template.Variable

/-!
# Templates

All authored texts are templates. A template is resolved in a fixed order: conditions, options,
variables, escapes. What is malformed is left as it is.
-/

namespace LifeStory.Template

variable {R G : Type} [Scalar R] [RandomSource G]

/-- Whether a text may hold anything to resolve. -/
def needsRendering (text : List Char) : Bool := text.any fun c ↦ c = '\x7b' || c = '\\'

/-- Resolves a template by all of its stages. -/
def renderStages (life : Life R) (text : List Char) (source : Counted G) :
    List Char × Counted G :=
  let (text, source) := resolveRandom R (resolveConditionals life (hold text)) source
  (resolve (resolveVariables life text), source)

/-- Resolves a template. One without an opening brace and without a backslash is taken as it is. -/
def render (life : Life R) (template : String) (source : Counted G) : String × Counted G :=
  if needsRendering template.toList then
    let (text, source) := renderStages life template.toList source
    (String.ofList text, source)
  else (template, source)

end LifeStory.Template
