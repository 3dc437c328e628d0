import LifeStory.Document.Content
import LifeStory.Random.Streams
import LifeStory.Turn.Report

/-!
# Reports in documents

Reports on turns, with the traces of draws and the choices that are offered. What did not happen is
written as null, and need not be given in an object.
-/

namespace LifeStory

open Json

/-! ### Draws -/

/-- Reads a factor. -/
def Factor.fields : Fields (Factor Float) := do
  return {
    label := ← .required "label" string?
    value := ← .required "value" float? }

/-- A factor. -/
def Factor.toJson (f : Factor Float) : Json :=
  .object [("label", .string f.label), ("value", ofFloat f.value)]

/-- Reads a candidate of a draw. -/
def Weighted.fields : Fields (Weighted Float) := do
  return {
    id := ← .required "id" string?
    base := ← .required "base_weight" float?
    factors := ← .required "multipliers" (records? Factor.fields)
    weight := ← .required "final_weight" float? }

/-- A candidate of a draw. -/
def Weighted.toJson (w : Weighted Float) : Json :=
  .object [("id", .string w.id), ("base_weight", ofFloat w.base),
    ("multipliers", ofList Factor.toJson w.factors), ("final_weight", ofFloat w.weight)]

/-- Reads the record of a draw. -/
def Trace.fields : Fields (Trace Float) := do
  return {
    pool := ← .required "pool_id" string?
    roll := ← .required "roll" float?
    total := ← .required "total_weight" float?
    candidates := ← .required "candidates" (records? Weighted.fields)
    chosen := ← .optional "chosen_id" string? }

/-- The record of a draw. -/
def Trace.toJson (t : Trace Float) : Json :=
  .object [("pool_id", .string t.pool), ("roll", ofFloat t.roll), ("total_weight", ofFloat t.total),
    ("candidates", ofList Weighted.toJson t.candidates),
    ("chosen_id", ofOption .string t.chosen)]

/-! ### Time -/

/-- A change of debt by its name. -/
def DebtChange.ofJson? : Json → Option DebtChange := oneOf? DebtChange.name DebtChange.all

/-- A cause of death by its name. -/
def DeathCause.ofJson? : Json → Option DeathCause := oneOf? DeathCause.name DeathCause.all

/-- The name of a change of debt. -/
def DebtChange.toJson (d : DebtChange) : Json := .string d.name

/-- The name of a cause of death. -/
def DeathCause.toJson (c : DeathCause) : Json := .string c.name

/-- Reads what became of the status effects. -/
def StatusTick.fields : Fields StatusTick := do
  return {
    debt := ← .optional "debt" DebtChange.ofJson?
    ticked := ← .required "ticked" (list? string?)
    expired := ← .required "expired" (list? string?) }

/-- What became of the status effects. -/
def StatusTick.toJson (t : StatusTick) : Json :=
  .object [("debt", ofOption DebtChange.toJson t.debt), ("ticked", ofStrings t.ticked),
    ("expired", ofStrings t.expired)]

/-- Reads what the passing of time did. -/
def Advance.fields : Fields Advance := do
  return {
    status := ← .required "status" (record? StatusTick.fields)
    modifiersExpired := ← .required "modifiers_expired" nat64?
    death := ← .optional "death" DeathCause.ofJson? }

/-- What the passing of time did, in a document. -/
def Advance.ofJson? : Json → Option Advance := record? Advance.fields

/-- What the passing of time did. -/
def Advance.toJson (a : Advance) : Json :=
  .object [("status", a.status.toJson), ("modifiers_expired", ofNat a.modifiersExpired),
    ("death", ofOption DeathCause.toJson a.death)]

/-! ### Turns -/

/-- A phase by its name. -/
def Phase.ofJson? : Json → Option Phase := oneOf? Phase.name Phase.all

/-- Reads a report. -/
def TurnReport.fields : Fields (TurnReport Float) := do
  return {
    turn := ← .required "turn" nat32?
    phase := ← .required "lifecycle" Phase.ofJson?
    event := ← .optional "event_id" string?
    choice := ← .optional "choice_id" string?
    bucket := ← .optional "bucket" nat64?
    debt := ← .optional "debt" DebtChange.ofJson?
    death := ← .optional "death" DeathCause.ofJson?
    traces := ← .required "traces" (records? Trace.fields)
    entries := ← .required "entries" (records? LogEntry.fields) }

/-- The report in a document. -/
def TurnReport.ofJson? : Json → Option (TurnReport Float) := record? TurnReport.fields

/-- A report. -/
def TurnReport.toJson (r : TurnReport Float) : Json :=
  .object [("turn", ofNat r.turn), ("lifecycle", .string r.phase.name),
    ("event_id", ofOption .string r.event), ("choice_id", ofOption .string r.choice),
    ("bucket", ofOption ofNat r.bucket), ("debt", ofOption DebtChange.toJson r.debt),
    ("death", ofOption DeathCause.toJson r.death), ("traces", ofList Trace.toJson r.traces),
    ("entries", ofList LogEntry.toJson r.entries)]

/-! ### Offers -/

/-- Reads the event that an offered choice belongs to. -/
def Origin.fields : Fields Origin := do
  return {
    id := ← .required "id" string?
    title := ← .required "title" string?
    text := ← .required "text" string? }

/-- The event that an offered choice belongs to. -/
def Origin.toJson (o : Origin) : Json :=
  .object [("id", .string o.id), ("title", .string o.title), ("text", .string o.text)]

/-- The id of an offered choice in one of its written forms. -/
def CandidateId.ofJson? (j : Json) : Option CandidateId := (string? j).bind CandidateId.ofText?

/-- Reads an offered choice. -/
def Candidate.fields : Fields (Candidate Float) := do
  return {
    id := ← .required "id" CandidateId.ofJson?
    choice := ← .required "choice" Choice.ofJson?
    origin := ← .required "parent" (record? Origin.fields) }

/-- The offered choice in a document. -/
def Candidate.ofJson? : Json → Option (Candidate Float) := record? Candidate.fields

/-- An offered choice. -/
def Candidate.toJson (c : Candidate Float) : Json :=
  .object [("id", .string c.id.text), ("choice", c.choice.toJson), ("parent", c.origin.toJson)]

namespace Offer

/-- The kinds of offers. -/
inductive Kind where
  | candidates
  | timePasses
  | runOver
deriving DecidableEq, Repr

/-- All kinds. -/
def Kind.all : List Kind := [.candidates, .timePasses, .runOver]

/-- The name of a kind. -/
def Kind.name : Kind → String
  | .candidates => "candidates"
  | .timePasses => "time_passes"
  | .runOver => "run_over"

/-- An offer of a kind with its content. Only the first kind has any; the others may be given null
for it. -/
def ofKind? (kind : Kind) (content : Option Json) : Option (Offer Float) :=
  match kind, content with
  | .candidates, some j => (list? Candidate.ofJson? j).map .candidates
  | .candidates, none => none
  | _, some j =>
    match j with
    | .null => some (if kind = .timePasses then .timePasses else .runOver)
    | _ => none
  | .timePasses, none => some .timePasses
  | .runOver, none => some .runOver

/-- A field of an object that must not be given twice: nothing, or what it was given. -/
def single? (fields : List (String × Json)) (key : String) : Option (Option Json) :=
  match fields.filter fun f ↦ f.1 = key with
  | [] => some none
  | [f] => some (some f.2)
  | _ => none

/-- The offer in a document: an object of its kind and its content, or the array of the two. -/
def ofJson? : Json → Option (Offer Float)
  | .object fields => do
    let kind ← (← single? fields "kind").bind (oneOf? Kind.name Kind.all)
    let content ← single? fields "candidates"
    ofKind? kind content
  | .array [kind, content] => do
    let kind ← oneOf? Kind.name Kind.all kind
    ofKind? kind (some content)
  | _ => none

/-- The kind of an offer. -/
def kind {R : Type} : Offer R → Kind
  | candidates _ => .candidates
  | timePasses => .timePasses
  | runOver => .runOver

/-- An offer; only candidates have content. -/
def toJson (offer : Offer Float) : Json :=
  let content :=
    match offer with
    | .candidates offered => [("candidates", ofList Candidate.toJson offered)]
    | _ => []
  .object (("kind", .string offer.kind.name) :: content)

end Offer

/-- Reads a turn of a player. -/
def ManualTurn.fields : Fields (ManualTurn Float) := do
  return {
    report := ← .required "report" TurnReport.ofJson?
    offer := ← .required "offer" Offer.ofJson? }

/-- The turn of a player in a document. -/
def ManualTurn.ofJson? : Json → Option (ManualTurn Float) := record? ManualTurn.fields

/-- A turn of a player. -/
def ManualTurn.toJson (t : ManualTurn Float) : Json :=
  .object [("report", t.report.toJson), ("offer", t.offer.toJson)]

/-- How often each stream was drawn from. -/
def DrawCounts.toJson (counts : DrawCounts) : Json :=
  .object [("events", ofNat counts.events), ("choices", ofNat counts.choices),
    ("results", ofNat counts.results), ("text", ofNat counts.text)]

end LifeStory
