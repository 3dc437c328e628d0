import LifeStory.Content
import LifeStory.Document.Directive

/-!
# Authored content in documents

Of an event, a talent, an ending, an achievement and a custom stat only the id is asked; whatever
else is missing is empty. Base content and packs may be empty altogether.
-/

namespace LifeStory

open Json

/-- Reads a text that may be missing. -/
def Json.text (name : String) : Fields String := .defaulted [name] string? ""

/-- Reads a list of records that may be missing. -/
def Json.listOf {α : Type} (name : String) (fields : Fields α) : Fields (List α) :=
  .defaulted [name] (records? fields) []

/-- Reads a list of conditions that may be missing. -/
def Json.conditions (name : String) : Fields (List (Condition Float)) :=
  .defaulted [name] (list? Condition.ofJson?) []

/-- Reads a list of directives that may be missing. -/
def Json.directives (name : String) : Fields (List (Directive Float)) :=
  .defaulted [name] (list? Directive.ofJson?) []

/-! ### Events and choices -/

/-- Reads a bucket. -/
def Bucket.fields : Fields (Bucket Float) := do
  return {
    weight := ← .maybe "weight" float?
    outcomes := ← directives "outcomes"
    feedback := ← .maybe "feedback" string? }

/-- A bucket; what is not given has no field. -/
def Bucket.toJson (b : Bucket Float) : Json :=
  .object (fieldIfSome "weight" ofFloat b.weight
    ++ [("outcomes", ofList Directive.toJson b.outcomes)]
    ++ fieldIfSome "feedback" .string b.feedback)

/-- Reads a choice. -/
def Choice.fields : Fields (Choice Float) := do
  return {
    id := ← .maybe "id" string?
    text := ← Json.text "text"
    conditions := ← Json.conditions "conditions"
    worldview := ← .maybe "worldview" string?
    magnitude := ← .maybe "magnitude" float?
    special := ← .defaulted ["isSpecial"] bool? false
    outcomes := ← directives "outcomes"
    results := ← listOf "results" Bucket.fields
    feedback := ← .maybe "feedback" string? }

/-- The choice in a document. -/
def Choice.ofJson? : Json → Option (Choice Float) := record? Choice.fields

/-- A choice; what is not given has no field. -/
def Choice.toJson (c : Choice Float) : Json :=
  .object (fieldIfSome "id" .string c.id
    ++ [("text", .string c.text), ("conditions", ofList Condition.toJson c.conditions)]
    ++ fieldIfSome "worldview" .string c.worldview
    ++ fieldIfSome "magnitude" ofFloat c.magnitude
    ++ [("isSpecial", .bool c.special), ("outcomes", ofList Directive.toJson c.outcomes),
      ("results", ofList Bucket.toJson c.results)]
    ++ fieldIfSome "feedback" .string c.feedback)

/-- Reads an event. -/
def Event.fields : Fields (Event Float) := do
  return {
    id := ← .required "id" string?
    title := ← Json.text "title"
    text := ← Json.text "text"
    conditions := ← Json.conditions "conditions"
    choices := ← listOf "choices" Choice.fields
    tags := ← .defaulted ["tags"] (list? string?) []
    priority := ← .maybe "priority" float?
    unique := ← .defaulted ["isUnique"] bool? false
    locked := ← .defaulted ["requiresUnlock"] bool? false }

/-- The event in a document. -/
def Event.ofJson? : Json → Option (Event Float) := record? Event.fields

/-- An event; a priority that is not given has no field. -/
def Event.toJson (e : Event Float) : Json :=
  .object ([("id", .string e.id), ("title", .string e.title), ("text", .string e.text),
      ("conditions", ofList Condition.toJson e.conditions),
      ("choices", ofList Choice.toJson e.choices), ("tags", ofStrings e.tags)]
    ++ fieldIfSome "priority" ofFloat e.priority
    ++ [("isUnique", .bool e.unique), ("requiresUnlock", .bool e.locked)])

/-! ### What events refer to -/

/-- Reads a status effect. -/
def StatusEffect.fields : Fields (StatusEffect Float) := do
  return {
    name := ← Json.text "name"
    description := ← Json.text "description"
    duration := ← .maybe "duration" int32?
    outcomes := ← directives "outcomes" }

/-- The status effect in a document. -/
def StatusEffect.ofJson? : Json → Option (StatusEffect Float) := record? StatusEffect.fields

/-- A status effect; a duration that is not given has no field. -/
def StatusEffect.toJson (s : StatusEffect Float) : Json :=
  .object ([("name", .string s.name), ("description", .string s.description)]
    ++ fieldIfSome "duration" .int s.duration
    ++ [("outcomes", ofList Directive.toJson s.outcomes)])

/-- Reads a talent. -/
def Talent.fields : Fields (Talent Float) := do
  return {
    id := ← .required "id" string?
    name := ← Json.text "name"
    description := ← Json.text "description"
    effects := ← directives "effects" }

/-- A talent. -/
def Talent.toJson (t : Talent Float) : Json :=
  .object [("id", .string t.id), ("name", .string t.name),
    ("description", .string t.description), ("effects", ofList Directive.toJson t.effects)]

/-- Reads an ending. -/
def Ending.fields : Fields Ending := do
  return {
    id := ← .required "id" string?
    title := ← Json.text "title"
    text := ← Json.text "text" }

/-- An ending. -/
def Ending.toJson (e : Ending) : Json :=
  .object [("id", .string e.id), ("title", .string e.title), ("text", .string e.text)]

/-- Reads an achievement. -/
def Achievement.fields : Fields (Achievement Float) := do
  return {
    id := ← .required "id" string?
    name := ← Json.text "name"
    description := ← Json.text "description"
    hidden := ← .defaulted ["hidden"] bool? false
    conditions := ← Json.conditions "conditions" }

/-- An achievement. -/
def Achievement.toJson (a : Achievement Float) : Json :=
  .object [("id", .string a.id), ("name", .string a.name),
    ("description", .string a.description), ("hidden", .bool a.hidden),
    ("conditions", ofList Condition.toJson a.conditions)]

/-- Reads a stat of a pack. -/
def CustomStat.fields : Fields (CustomStat Float) := do
  return {
    id := ← .required "id" string?
    name := ← Json.text "name"
    initial := ← .defaulted ["initial"] float? 0 }

/-- A stat of a pack. -/
def CustomStat.toJson (s : CustomStat Float) : Json :=
  .object [("id", .string s.id), ("name", .string s.name), ("initial", ofFloat s.initial)]

/-- Reads what content says about tags; two of the fields have two spellings. -/
def TagRules.fields : Fields TagRules := do
  return {
    conflicts := ← .defaulted ["conflicts"] (list? (list? string?)) []
    gated := ← .defaulted ["gatedEventTags", "gated_event_tags"] (list? string?) []
    unlocks := ← .defaulted ["tagUnlocks", "tag_unlocks"] (stringMap? (list? string?)) .empty }

/-- The rules on tags in a document. -/
def TagRules.ofJson? : Json → Option TagRules := record? TagRules.fields

/-- What content says about tags. -/
def TagRules.toJson (rules : TagRules) : Json :=
  .object [("conflicts", ofList ofStrings rules.conflicts),
    ("gatedEventTags", ofStrings rules.gated),
    ("tagUnlocks", ofStringMap ofStrings rules.unlocks)]

/-! ### Whole documents -/

/-- Reads status effects by id. -/
def Json.statusEffects : Fields (StringMap (StatusEffect Float)) :=
  .defaulted ["statusEffects"] (stringMap? StatusEffect.ofJson?) .empty

/-- Reads base content. -/
def BaseContent.fields : Fields (BaseContent Float) := do
  return {
    events := ← listOf "events" Event.fields
    talents := ← listOf "talents" Talent.fields
    endings := ← listOf "endings" Ending.fields
    statusEffects := ← Json.statusEffects
    tags := ← .defaulted ["tags"] TagRules.ofJson? .empty
    achievements := ← listOf "achievements" Achievement.fields }

/-- The base content in a document. -/
def BaseContent.ofJson? : Json → Option (BaseContent Float) := record? BaseContent.fields

/-- Base content. -/
def BaseContent.toJson (b : BaseContent Float) : Json :=
  .object [("events", ofList Event.toJson b.events), ("talents", ofList Talent.toJson b.talents),
    ("endings", ofList Ending.toJson b.endings),
    ("statusEffects", ofStringMap StatusEffect.toJson b.statusEffects),
    ("tags", b.tags.toJson), ("achievements", ofList Achievement.toJson b.achievements)]

/-- Reads a pack. -/
def Pack.fields : Fields (Pack Float) := do
  return {
    id := ← Json.text "id"
    name := ← Json.text "name"
    description := ← .maybe "description" string?
    events := ← listOf "events" Event.fields
    talents := ← listOf "talents" Talent.fields
    endings := ← listOf "endings" Ending.fields
    statusEffects := ← Json.statusEffects
    customStats := ← listOf "customStats" CustomStat.fields
    achievements := ← listOf "achievements" Achievement.fields }

/-- The pack in a document. -/
def Pack.ofJson? : Json → Option (Pack Float) := record? Pack.fields

/-- A pack; a description that is not given has no field. -/
def Pack.toJson (p : Pack Float) : Json :=
  .object ([("id", .string p.id), ("name", .string p.name)]
    ++ fieldIfSome "description" .string p.description
    ++ [("events", ofList Event.toJson p.events), ("talents", ofList Talent.toJson p.talents),
      ("endings", ofList Ending.toJson p.endings),
      ("statusEffects", ofStringMap StatusEffect.toJson p.statusEffects),
      ("customStats", ofList CustomStat.toJson p.customStats),
      ("achievements", ofList Achievement.toJson p.achievements)])

end LifeStory
