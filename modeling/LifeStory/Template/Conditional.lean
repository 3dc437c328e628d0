import LifeStory.Condition
import LifeStory.Template.Group

/-!
# Text that depends on a condition

The group `$condition:yes|no` shows one of two texts. The condition ends at a colon: the last one
before which every colon belongs to `tag:` or `status:`, as far as two texts follow it. It compares
a variable or a stat with a number, a tag or a status effect.
-/

namespace LifeStory.Template

/-! ### Cutting the group -/

/-- A conditional group: its condition and its two texts. -/
structure Conditional where
  condition : List Char
  whenTrue : List Char
  whenFalse : List Char
deriving DecidableEq, Repr

/-- The two texts behind the colon of a conditional group; neither may be empty, and the first ends
at the first bar. -/
def alternatives? (cs : List Char) : Option (List Char × List Char) :=
  match cs.dropWhile (· ≠ '|') with
  | '|' :: whenFalse =>
    let whenTrue := cs.takeWhile (· ≠ '|')
    if whenTrue = [] ∨ whenFalse = [] then none else some (whenTrue, whenFalse)
  | _ => none

/-- Whether a colon may stand inside of a condition after the given characters, the last one
first. -/
def allowsColon (before : List Char) : Bool :=
  "gat".toList.isPrefixOf before || "sutats".toList.isPrefixOf before

/-- Cuts the content of a conditional group behind the dollar sign; `before` holds the characters of
the condition so far, the last one first. The latest colon that serves is taken. -/
def cutCondition (before : List Char) : List Char → Option Conditional
  | [] => none
  | c :: cs =>
    if c = ':' then
      match if allowsColon before then cutCondition (c :: before) cs else none with
      | some cut => some cut
      | none =>
        if before = [] then none
        else (alternatives? cs).map fun (yes, no) ↦ ⟨before.reverse, yes, no⟩
    else cutCondition (c :: before) cs

/-- Reads the content of a group as a conditional one. -/
def conditional? : List Char → Option Conditional
  | '$' :: cs => cutCondition [] cs
  | _ => none

/-! ### The condition -/

/-- The symbols of the comparisons, those first that begin like others. -/
def comparisonSymbols : List (List Char) :=
  [">=".toList, "<=".toList, "==".toList, "!=".toList, ">".toList, "<".toList]

/-- Reads a symbol and what stands behind it; behind it something has to stand, on one line. -/
def symbolThen? (cs symbol : List Char) : Option (List Char × List Char) :=
  if symbol.isPrefixOf cs then
    let right := (cs.drop symbol.length).dropWhile Text.isBlank
    if right = [] ∨ '\n' ∈ right then none else some (symbol, right)
  else none

/-- Cuts a condition at its comparison: the first place where a symbol stands after at least one
character. `before` holds the left side so far, the last character first. -/
def cutComparison (before : List Char) : List Char → Option (List Char × List Char × List Char)
  | [] => none
  | c :: cs =>
    if c = '\n' then none
    else
      let before := c :: before
      match comparisonSymbols.findSome? (symbolThen? (cs.dropWhile Text.isBlank)) with
      | some (symbol, right) => some (before.reverse, symbol, right)
      | none => cutComparison before cs

variable {R : Type} [Scalar R]

/-- A quantity, zero when it is undefined. -/
def definedOrZero (x : R) : R := if Scalar.isNaN x then 0.0 else x

/-- The left side of a comparison: a variable, else a stat, else zero. -/
def leftValue (life : Life R) (name : String) : R :=
  match life.vars.get? name with
  | some v => definedOrZero v.toNumber
  | none => definedOrZero ((life.stat? name).getD 0.0)

/-- Whether a tag or a status effect is there, as a quantity. -/
def presenceValue (present : Bool) : R := if present then 1.0 else 0.0

/-- The right side of a comparison: whether a tag is held or a status effect is in force, else a
number, else zero. -/
def rightValue (life : Life R) (raw : List Char) : R :=
  if "tag:".toList.isPrefixOf raw then
    presenceValue (life.hasTag (String.ofList (raw.drop 4)))
  else if "status:".toList.isPrefixOf raw then
    presenceValue (life.hasStatus (String.ofList (raw.drop 7)))
  else definedOrZero ((Scalar.ofText? (String.ofList raw)).getD 0.0)

/-- Whether the condition of a group holds; one that is no comparison does not. -/
def conditionHolds (life : Life R) (condition : List Char) : Bool :=
  match cutComparison [] condition with
  | none => false
  | some (left, symbol, right) =>
    let op := Comparison.ofSymbol (String.ofList symbol)
    let left := leftValue life (String.ofList (Text.trimChars left))
    (op.compare? left (rightValue life (Text.trimChars right))).getD false

/-- The text that a conditional group shows. -/
def Conditional.chosen (life : Life R) (g : Conditional) : List Char :=
  if conditionHolds life (Text.trimChars g.condition) then Text.trimChars g.whenTrue
  else Text.trimChars g.whenFalse

/-- Resolves the conditional groups of a text. -/
def resolveConditionals (life : Life R) (text : List Char) : List Char :=
  (resolveGroups conditional? (fun g (_ : Unit) ↦ (some (g.chosen life), ())) text ()).1

end LifeStory.Template
