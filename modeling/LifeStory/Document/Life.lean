import LifeStory.Json.Record
import LifeStory.Life.Basic
import LifeStory.Scalar.Float

/-!
# Lives in documents

A save holds a life with all of its fields, in the order of this module. Of a document only
`isAlive` is asked; whatever else is missing stands for its value in a life that begins.
-/

namespace LifeStory

open Json

/-- A truth value, a number or a text. -/
def Variable.ofJson? : Json → Option (Variable Float)
  | .bool value => some (.flag value)
  | .string value => some (.text value)
  | j => (float? j).map .number

/-- The value as it is. -/
def Variable.toJson : Variable Float → Json
  | .flag value => .bool value
  | .number value => .ofFloat value
  | .text value => .string value

/-- Reads stats; a missing one has the value that a life begins with. -/
def Stats.fields : Fields (Stats Float) := do
  let start : Stats Float := .initial
  let stat (s : CoreStat) : Fields Float := .defaulted [s.name] float? (start.get s)
  return {
    health := ← stat .health
    sanity := ← stat .sanity
    money := ← stat .money
    logic := ← stat .logic
    gnosis := ← stat .gnosis
    weirdness := ← stat .weirdness
    irony := ← stat .irony
    fame := ← stat .fame
    anonymity := ← stat .anonymity
    exposure := ← stat .exposure
    age := ← stat .age }

/-- All stats by name. -/
def Stats.toJson (stats : Stats Float) : Json :=
  .object (CoreStat.all.map fun s ↦ (s.name, .ofFloat (stats.get s)))

/-- Reads a status effect that is in force. -/
def ActiveStatus.fields : Fields ActiveStatus := do
  return {
    id := ← .required "effectId" string?
    remaining := ← .required "remainingDuration" int32? }

/-- A status effect that is in force. -/
def ActiveStatus.toJson (s : ActiveStatus) : Json :=
  .object [("effectId", .string s.id), ("remainingDuration", .int s.remaining)]

/-- Reads a factor on the weight of an event. -/
def EventModifier.fields : Fields (EventModifier Float) := do
  return {
    event := ← .required "eventId" string?
    multiplier := ← .required "multiplier" float?
    remaining := ← .required "remainingDuration" int32? }

/-- A factor on the weight of an event. -/
def EventModifier.toJson (m : EventModifier Float) : Json :=
  .object [("eventId", .string m.event), ("multiplier", .ofFloat m.multiplier),
    ("remainingDuration", .int m.remaining)]

/-- Reads a talent that a life began with. -/
def TalentRef.fields : Fields TalentRef := do
  return {
    id := ← .required "id" string?
    name := ← .required "name" string? }

/-- A talent that a life began with. -/
def TalentRef.toJson (t : TalentRef) : Json :=
  .object [("id", .string t.id), ("name", .string t.name)]

/-- Reads a line of the log. -/
def LogEntry.fields : Fields LogEntry := do
  return {
    seq := ← .required "seq" nat64?
    turn := ← .required "turn" nat32?
    kind := ← .required "kind" (oneOf? LogKind.name LogKind.all)
    title := ← .maybe "title" string?
    text := ← .required "text" string? }

/-- A line of the log; one without a title has no field for it. -/
def LogEntry.toJson (e : LogEntry) : Json :=
  .object ([("seq", ofNat e.seq), ("turn", ofNat e.turn), ("kind", .string e.kind.name)]
    ++ fieldIfSome "title" .string e.title ++ [("text", .string e.text)])

/-- Reads a list of records. -/
def Json.records? {α : Type} (fields : Fields α) : Json → Option (List α) :=
  list? (record? fields)

/-- Reads the fields of a log, which stand among those of a life; what is not given is as in
`log`. -/
def Log.fieldsOver (log : Log) : Fields Log := do
  return {
    entries := ← .defaulted ["log"] (records? LogEntry.fields) log.entries
    capacity := ← .defaulted ["logCapacity"] nat64? log.capacity
    nextSeq := ← .defaulted ["nextLogSeq"] nat64? log.nextSeq }

/-- Reads a life; what is not given is as in `life`, but for whether the life goes on, which
`alive` reads. -/
def Life.fieldsOver (life : Life Float) (alive : Fields Bool) : Fields (Life Float) := do
  let floats (name : String) : StringMap Float → Fields (StringMap Float) :=
    .defaulted [name] (stringMap? float?)
  let texts (name : String) : List String → Fields (List String) :=
    .defaulted [name] (list? string?)
  let names (name : String) : StringSet → Fields StringSet := .defaulted [name] stringSet?
  return {
    stats := ← .defaulted ["stats"] (record? Stats.fields) life.stats
    customStats := ← floats "customStats" life.customStats
    vars := ← .defaulted ["variables"] (stringMap? Variable.ofJson?) life.vars
    alive := ← alive
    endReason := ← .defaulted ["deathReason"] (nullable? string?) life.endReason
    ended := ← .defaulted ["endingTriggered"] bool? life.ended
    turn := ← .defaulted ["turn"] nat32? life.turn
    multipliers := ← floats "statMultipliers" life.multipliers
    statuses := ← .defaulted ["statusEffects"] (records? ActiveStatus.fields) life.statuses
    inventory := ← texts "inventory" life.inventory
    tags := ← texts "tags" life.tags
    talents := ← .defaulted ["talents"] (records? TalentRef.fields) life.talents
    triggered := ← names "triggeredEventIds" life.triggered
    unlocked := ← names "unlockedEventIds" life.unlocked
    chosen := ← names "madeChoiceIds" life.chosen
    tagOdds := ← floats "tagProbabilityModifiers" life.tagOdds
    eventModifiers :=
      ← .defaulted ["eventModifiers"] (records? EventModifier.fields) life.eventModifiers
    log := ← life.log.fieldsOver }

/-- The life that a document holds, which has to say whether the life goes on. All else is as in a
life that begins unless the document says otherwise. -/
def Life.ofJson? : Json → Option (Life Float) :=
  record? ((Life.fresh Life.defaultLogCapacity).fieldsOver (.required "isAlive" bool?))

/-- A life with the fields that a document gives in the place of its own. -/
def Life.edit? (life : Life Float) : Json → Option (Life Float) :=
  record? (life.fieldsOver (.defaulted ["isAlive"] bool? life.alive))

/-- The fields of a life before its log. -/
def Life.stateFields (life : Life Float) : List (String × Json) :=
  [("stats", life.stats.toJson),
    ("customStats", ofStringMap .ofFloat life.customStats),
    ("variables", ofStringMap Variable.toJson life.vars),
    ("isAlive", .bool life.alive),
    ("deathReason", ofOption .string life.endReason),
    ("endingTriggered", .bool life.ended),
    ("turn", ofNat life.turn),
    ("statMultipliers", ofStringMap .ofFloat life.multipliers),
    ("statusEffects", ofList ActiveStatus.toJson life.statuses),
    ("inventory", ofStrings life.inventory),
    ("tags", ofStrings life.tags),
    ("talents", ofList TalentRef.toJson life.talents),
    ("triggeredEventIds", ofStringSet life.triggered),
    ("unlockedEventIds", ofStringSet life.unlocked),
    ("madeChoiceIds", ofStringSet life.chosen),
    ("tagProbabilityModifiers", ofStringMap .ofFloat life.tagOdds),
    ("eventModifiers", ofList EventModifier.toJson life.eventModifiers)]

/-- The fields of a log, which stand after those of the life. -/
def Log.toFields (log : Log) : List (String × Json) :=
  [("log", ofList LogEntry.toJson log.entries), ("logCapacity", ofNat log.capacity),
    ("nextLogSeq", ofNat log.nextSeq)]

/-- A life with all of its fields. -/
def Life.toJson (life : Life Float) : Json := .object (life.stateFields ++ life.log.toFields)

end LifeStory
