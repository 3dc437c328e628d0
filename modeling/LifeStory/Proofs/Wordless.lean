import LifeStory.Proofs.Calls
import LifeStory.Proofs.Turns

/-!
# Content and lives without words

Events, choices and endings are told in words, and a life keeps the words that it was told. What is
`wordless` of all this is the same with empty texts; of the feedback that is told about a choice it
keeps whether there is any.

What may happen, what may be done about it, and what the draws give, is the same without words: the
functions that decide it commute with `wordless`.
-/

namespace LifeStory

/-! ### Content -/

section Content

variable {R : Type}

/-- The bucket with an empty text of its feedback. -/
def Bucket.wordless (bucket : Bucket R) : Bucket R :=
  { bucket with feedback := bucket.feedback.map fun _ ↦ "" }

/-- The choice with empty texts. -/
def Choice.wordless (choice : Choice R) : Choice R :=
  { choice with
    text := "", results := choice.results.map Bucket.wordless
    feedback := choice.feedback.map fun _ ↦ "" }

/-- The event with empty texts. -/
def Event.wordless (event : Event R) : Event R :=
  { event with title := "", text := "", choices := event.choices.map Choice.wordless }

/-- Choices that differ in words have the same name. -/
theorem Choice.id_of_alike {choice choice' : Choice R}
    (h : choice.wordless = choice'.wordless) : choice.id = choice'.id := by
  show choice.wordless.id = choice'.wordless.id
  rw [h]

/-- Events that differ in words have the same name. -/
theorem Event.id_of_alike {event event' : Event R} (h : event.wordless = event'.wordless) :
    event.id = event'.id := by
  show event.wordless.id = event'.wordless.id
  rw [h]

/-- The ending with empty texts. -/
def Ending.wordless (ending : Ending) : Ending := { ending with title := "", text := "" }

/-- The catalog with empty texts of its events, choices and endings. -/
def Catalog.wordless (catalog : Catalog R) : Catalog R :=
  { catalog with
    events := catalog.events.map Event.wordless, endings := catalog.endings.map Ending.wordless }

/-- What does not look at words is the same in catalogs that differ in words alone. -/
theorem Catalog.eq_of_alike {α : Type} (f : Catalog R → α)
    (hf : ∀ catalog : Catalog R, f catalog.wordless = f catalog) {c d : Catalog R}
    (h : c.wordless = d.wordless) : f c = f d := by
  rw [← hf c, h, hf d]

end Content

/-! ### Lives -/

/-- The line with empty texts. -/
def LogEntry.wordless (entry : LogEntry) : LogEntry := { entry with title := none, text := "" }

/-- The log with empty lines. -/
def Log.wordless (log : Log) : Log := { log with entries := log.entries.map LogEntry.wordless }

/-- A line that is written and then emptied is an empty line that is written: its place, its turn
and its kind stay. -/
theorem Log.push_wordless (log : Log) (turn : Nat) (kind : LogKind) (title : Option String)
    (text : String) :
    (log.push turn kind title text).wordless = log.wordless.push turn kind none "" := by
  rw [push, push, wordless, wordless]
  simp only [List.map_append, List.map_drop, List.length_map]
  rfl

/-- The same lines are retained since a place in the log, with words or without. -/
theorem Log.since_wordless (log : Log) (seq : Nat) :
    log.wordless.since seq = (log.since seq).map LogEntry.wordless := by
  rw [since, wordless, List.filter_map]
  rfl

/-- The life with an empty log of the same lines. -/
def Life.wordless {R : Type} (life : Life R) : Life R := { life with log := life.log.wordless }

/-- A note of any words leaves the life that an empty note leaves. -/
theorem Life.note_wordless {R : Type} (life : Life R) (kind : LogKind) (title : Option String)
    (text : String) : (life.note kind title text).wordless = life.wordless.note kind none "" := by
  rw [note, wordless, Log.push_wordless]
  rfl

/-- What does not look at words is the same in lives that differ in words alone. -/
theorem Life.eq_of_alike {R α : Type} (f : Life R → α)
    (hf : ∀ life : Life R, f life.wordless = f life) {a b : Life R}
    (h : a.wordless = b.wordless) : f a = f b := by
  rw [← hf a, h, hf b]

/-! ### What is drawn and told -/

section Told

variable {R : Type}

/-- The opportunity with empty texts. -/
def Opportunity.wordless (o : Opportunity R) : Opportunity R :=
  ⟨o.event.wordless, o.choice.wordless⟩

/-- The origin with empty texts. -/
def Origin.wordless (origin : Origin) : Origin := { origin with title := "", text := "" }

/-- The offered choice with empty texts. -/
def Candidate.wordless (candidate : Candidate R) : Candidate R :=
  ⟨candidate.id, candidate.choice.wordless, candidate.origin.wordless⟩

/-- What came of a choice, with an empty text of its feedback. -/
def Resolution.wordless (resolution : Resolution R) : Resolution R :=
  { resolution with feedback := resolution.feedback.map fun _ ↦ "" }

/-- The report with empty lines. -/
def TurnReport.wordless (report : TurnReport R) : TurnReport R :=
  { report with entries := report.entries.map LogEntry.wordless }

/-- The offer with empty texts. -/
def Offer.wordless : Offer R → Offer R
  | .candidates offered => .candidates (offered.map Candidate.wordless)
  | .timePasses => .timePasses
  | .runOver => .runOver

/-- The turn with empty texts in its report and in its offer. -/
def ManualTurn.wordless (turn : ManualTurn R) : ManualTurn R :=
  ⟨turn.report.wordless, turn.offer.wordless⟩

/-- The answer with empty texts. -/
def Answer.wordless : Answer R → Answer R
  | .report r => .report r.wordless
  | .reports rs => .reports (rs.map TurnReport.wordless)
  | .turn t => .turn t.wordless
  | .refusal e => .refusal e
  | .closed news => .closed news
  | .done => .done

theorem Offer.pending_wordless (offer : Offer R) :
    offer.wordless.pending = offer.pending.map Candidate.wordless := by
  cases offer <;> rfl

/-- A report is closed with the same lines, results and phase, with words or without. -/
theorem TurnReport.close_wordless (report : TurnReport R) (life : Life R) (since : Nat) :
    (report.close life since).wordless = report.wordless.close life.wordless since := by
  rw [close, close, wordless]
  show _ = { report with
    turn := life.turn, phase := life.phase, entries := life.log.wordless.since since }
  rw [Log.since_wordless]

/-- Alike reports stay alike when they quote alike lines. -/
theorem TurnReport.quote_alike {p q : TurnReport R} (h : p.wordless = q.wordless)
    {k l : List LogEntry} (hlines : k.map LogEntry.wordless = l.map LogEntry.wordless) :
    ({ p with entries := k } : TurnReport R).wordless =
      ({ q with entries := l } : TurnReport R).wordless := by
  have hquoted := congrArg (fun r : TurnReport R ↦
    { r with entries := k.map LogEntry.wordless }) h
  rw [wordless, wordless]
  dsimp only
  rw [← hlines]
  exact hquoted

theorem TurnReport.resolved_wordless (report : TurnReport R) (choice : Option String)
    (resolution : Resolution R) (death : Option DeathCause) :
    (report.resolved choice resolution death).wordless =
      report.wordless.resolved choice resolution.wordless death :=
  rfl

end Told

/-! ### What may happen -/

section Decisions

variable {R G : Type} [Scalar R] [RandomSource G] (catalog : Catalog R) (life : Life R)

omit [Scalar R] in
/-- The outcomes of a choice have no words in them. -/
theorem Choice.allOutcomes_wordless (choice : Choice R) :
    choice.wordless.allOutcomes = choice.allOutcomes := by
  show (if (choice.results.map Bucket.wordless).isEmpty then choice.outcomes
    else (choice.results.map Bucket.wordless).flatMap Bucket.outcomes) = _
  rw [List.isEmpty_map, List.flatMap_map]
  rfl

/-- A choice without words is available to a life without words exactly when it is with them. -/
theorem Catalog.isAvailable_wordless (choice : Choice R) :
    catalog.wordless.isAvailable life.wordless choice.wordless =
      catalog.isAvailable life choice := by
  rw [isAvailable, isAvailable, introducesConflict, introducesConflict,
    Choice.allOutcomes_wordless]
  rfl

/-- The choices that are available are the same ones, without their words. -/
theorem Catalog.available_wordless (event : Event R) :
    catalog.wordless.available life.wordless event.wordless =
      (catalog.available life event).map Choice.wordless := by
  show (event.choices.map Choice.wordless).filter _ = _
  rw [List.filter_map, available]
  congr 2
  funext choice
  exact catalog.isAvailable_wordless life choice

/-- The events that may happen are the same ones, without their words. -/
theorem Catalog.eligible_wordless (showTests : Bool) :
    catalog.wordless.eligible showTests life.wordless =
      (catalog.eligible showTests life).map Event.wordless := by
  show (catalog.events.map Event.wordless).filter _ = _
  rw [List.filter_map]
  rfl

/-! ### Draws -/

/-- **The draw of an event does not read the words**: it finds the same event in the same place, and
leaves the same stream. -/
theorem Catalog.drawEvent_wordless (showTests : Bool) (source : Counted G) :
    catalog.wordless.drawEvent showTests life.wordless source =
      ((catalog.drawEvent showTests life source).1.map Event.wordless,
        (catalog.drawEvent showTests life source).2) := by
  have hweights : ∀ pool : List (Event R),
      (pool.map Event.wordless).map (fun e ↦ e.weighted life.wordless) =
        pool.map fun e ↦ e.weighted life := fun pool ↦ List.map_map
  rw [drawEvent, drawEvent, eligible_wordless]
  dsimp only
  rw [hweights]
  congr 1
  rw [Option.map_bind]
  congr 1
  funext position
  exact List.getElem?_map

/-- Catalogs and lives that differ in words draw events that differ in words, from the same stream.
-/
theorem Catalog.drawEvent_alike {c d : Catalog R} {a b : Life R} (hc : c.wordless = d.wordless)
    (h : a.wordless = b.wordless) (showTests : Bool) (source : Counted G) :
    (c.drawEvent showTests a source).1.map Event.wordless =
        (d.drawEvent showTests b source).1.map Event.wordless ∧
      (c.drawEvent showTests a source).2 = (d.drawEvent showTests b source).2 := by
  have hdraw := c.drawEvent_wordless a showTests source
  rw [hc, h, d.drawEvent_wordless b] at hdraw
  exact ⟨(congrArg Prod.fst hdraw).symm, (congrArg Prod.snd hdraw).symm⟩

/-- The scores of the choices go by their weights and the life, not by their words. -/
theorem Choice.scoredFrom_wordless (chaos : R) (position : Nat) (choices : List (Choice R))
    (source : Counted G) :
    scoredFrom life.wordless chaos position (choices.map wordless) source =
      scoredFrom life chaos position choices source := by
  induction choices generalizing position source with
  | nil => rfl
  | cons choice rest ih =>
    rw [List.map_cons, scoredFrom, scoredFrom]
    dsimp only
    rw [ih]
    rfl

/-- **The draw of a choice does not read the words.** -/
theorem Choice.draw_wordless (chaos : R) (choices : List (Choice R)) (source : Counted G) :
    Choice.draw life.wordless chaos (choices.map wordless) source =
      ((Choice.draw life chaos choices source).1.map wordless,
        (Choice.draw life chaos choices source).2) := by
  rw [draw, draw, scoredFrom_wordless]
  dsimp only
  congr 1
  rw [Option.map_bind]
  congr 1
  funext position
  exact List.getElem?_map

/-- Choices that differ in words are drawn alike by lives that differ in words. -/
theorem Choice.draw_alike {a b : Life R} (h : a.wordless = b.wordless) (chaos : R)
    {choices choices' : List (Choice R)}
    (hchoices : choices.map wordless = choices'.map wordless) (source : Counted G) :
    (Choice.draw a chaos choices source).1.map wordless =
        (Choice.draw b chaos choices' source).1.map wordless ∧
      (Choice.draw a chaos choices source).2 = (Choice.draw b chaos choices' source).2 := by
  have hdraw := Choice.draw_wordless a chaos choices source
  rw [h, hchoices, Choice.draw_wordless b] at hdraw
  exact ⟨(congrArg Prod.fst hdraw).symm, (congrArg Prod.snd hdraw).symm⟩

/-- The weights of the buckets are not words. -/
theorem Bucket.weightedAll_wordless (buckets : List (Bucket R)) :
    weightedAll (buckets.map wordless) = weightedAll buckets := by
  refine List.ext_getElem? fun position ↦ ?_
  rw [weightedAll, weightedAll, List.getElem?_mapIdx, List.getElem?_mapIdx, List.getElem?_map,
    Option.map_map]
  rfl

omit [Scalar R] in
theorem Resolution.ofBucket_wordless (buckets : List (Bucket R)) (position : Nat)
    (trace : Trace R) :
    ofBucket (buckets.map Bucket.wordless) position trace =
      (ofBucket buckets position trace).wordless := by
  rw [ofBucket, ofBucket, List.getElem?_map]
  cases buckets[position]? <;> rfl

/-- **A choice resolves to the same bucket** and the same outcomes without words, with an empty
feedback where there was one. -/
theorem Choice.resolve_wordless (choice : Choice R) (source : Counted G) :
    choice.wordless.resolve source =
      ((choice.resolve source).1.wordless, (choice.resolve source).2) := by
  have hresults : choice.wordless.results = choice.results.map Bucket.wordless := rfl
  rw [resolve, resolve, hresults]
  dsimp only
  rw [List.isEmpty_map, Bucket.weightedAll_wordless, List.length_map]
  by_cases hempty : choice.results.isEmpty
  · rw [if_pos hempty, if_pos hempty]
    rfl
  · rw [if_neg hempty, if_neg hempty]
    split <;> rw [Resolution.ofBucket_wordless]

/-- Choices that differ in words resolve alike. -/
theorem Choice.resolve_alike {choice choice' : Choice R}
    (h : choice.wordless = choice'.wordless) (source : Counted G) :
    (choice.resolve source).1.wordless = (choice'.resolve source).1.wordless ∧
      (choice.resolve source).2 = (choice'.resolve source).2 := by
  have hresolve := choice.resolve_wordless source
  rw [h, choice'.resolve_wordless] at hresolve
  exact ⟨(congrArg Prod.fst hresolve).symm, (congrArg Prod.snd hresolve).symm⟩

end Decisions

/-! ### Offers -/

namespace Opportunity

variable {R G : Type} [Scalar R] [RandomSource G] (catalog : Catalog R) (life : Life R)

/-- The opportunities of a life are the same ones, without their words. -/
theorem all_wordless (showTests : Bool) :
    all catalog.wordless showTests life.wordless =
      (all catalog showTests life).map wordless := by
  rw [all, all, Catalog.eligible_wordless, List.flatMap_map, List.map_flatMap]
  congr 1
  funext event
  rw [Catalog.available_wordless, List.map_map, List.map_map]
  rfl

/-- The special opportunity that is drawn is the same one. -/
theorem drawSpecial_wordless (special : List (Opportunity R)) (source : Counted G) :
    drawSpecial (special.map wordless) source =
      ((drawSpecial special source).1.map wordless, (drawSpecial special source).2) := by
  rw [drawSpecial, drawSpecial]
  dsimp only
  rw [List.length_map]
  congr 1
  cases Scalar.toIndex? ((source.unit R).1 * Scalar.ofNat special.length) special.length with
  | none => rfl
  | some index =>
    show ((special.map wordless)[index]?).toList = _
    rw [List.getElem?_map]
    exact Option.toList_map

/-- Whether a special opportunity is offered is decided by the same roll. -/
theorem offerSpecial_wordless (chance : R) (special : List (Opportunity R)) (source : Counted G) :
    offerSpecial chance (special.map wordless) source =
      ((offerSpecial chance special source).1.map wordless,
        (offerSpecial chance special source).2) := by
  rw [offerSpecial, offerSpecial, List.isEmpty_map]
  dsimp only
  split
  · rfl
  · split
    · exact drawSpecial_wordless special _
    · rfl

theorem drawOne_wordless (pool : List (Opportunity R)) (source : Counted G) :
    drawOne life.wordless (pool.map wordless) source = drawOne life pool source := by
  have hweights : (pool.map wordless).map (weighted life.wordless) = pool.map (weighted life) :=
    List.map_map
  rw [drawOne, drawOne, hweights]

/-- The ordinary opportunities are drawn one by one in the same order. -/
theorem drawOrdinary_wordless (n : Nat) (pool : List (Opportunity R)) (source : Counted G) :
    drawOrdinary life.wordless n (pool.map wordless) source =
      ((drawOrdinary life n pool source).1.map wordless, (drawOrdinary life n pool source).2) := by
  induction n generalizing pool source with
  | zero => rfl
  | succ n ih =>
    by_cases hpool : pool = []
    · rw [hpool]
      rfl
    have hmap : pool.map wordless ≠ [] := mt List.map_eq_nil_iff.1 hpool
    -- The same position is drawn, so that the same opportunity leaves the pool.
    have hone := drawOne_wordless life pool source
    cases hdrawn : (drawOne life pool source).1 with
    | none =>
      rw [drawOrdinary_of_none hpool hdrawn, drawOrdinary_of_none hmap (hone ▸ hdrawn), hone]
      rfl
    | some index =>
      have herase : (pool.map wordless).eraseIdx index = (pool.eraseIdx index).map wordless := by
        simp only [List.eraseIdx_eq_take_drop_succ, List.map_append, List.map_take, List.map_drop]
      rw [drawOrdinary_of_some hpool hdrawn, drawOrdinary_of_some hmap (hone ▸ hdrawn), hone]
      dsimp only
      rw [herase, ih, List.map_append, List.getElem?_map, Option.toList_map]

omit [Scalar R] in
/-- The candidates that opportunities become get the same names from the same stream. -/
theorem toCandidates_wordless (opportunities : List (Opportunity R)) (source : Counted G) :
    toCandidates (opportunities.map wordless) source =
      ((toCandidates opportunities source).1.map Candidate.wordless,
        (toCandidates opportunities source).2) := by
  induction opportunities generalizing source with
  | nil => rfl
  | cons o rest ih =>
    rw [List.map_cons, toCandidates, toCandidates]
    dsimp only
    rw [ih]
    rfl

/-- Which opportunities are offered is decided without a look at the words. -/
theorem drawn_wordless (config : Config R) (count : Nat) (source : Counted G) :
    drawn catalog.wordless config count life.wordless source =
      ((drawn catalog config count life source).1.map wordless,
        (drawn catalog config count life source).2) := by
  have hspecial : ∀ l : List (Opportunity R), (l.map wordless).filter (fun o ↦ o.choice.special) =
      (l.filter fun o ↦ o.choice.special).map wordless := fun _ ↦ List.filter_map
  have hordinary : ∀ l : List (Opportunity R),
      (l.map wordless).filter (fun o ↦ !o.choice.special) =
        (l.filter fun o ↦ !o.choice.special).map wordless := fun _ ↦ List.filter_map
  rw [drawn, drawn, all_wordless]
  dsimp only
  rw [hspecial, hordinary, offerSpecial_wordless]
  dsimp only
  rw [List.length_map, drawOrdinary_wordless, List.map_append]

end Opportunity

/-- The same choices are offered under the same ids without words. -/
theorem Catalog.drawCandidates_wordless {R G : Type} [Scalar R] [RandomSource G]
    (catalog : Catalog R) (config : Config R) (count : Nat) (life : Life R) (source : Counted G) :
    catalog.wordless.drawCandidates config count life.wordless source =
      ((catalog.drawCandidates config count life source).1.map Candidate.wordless,
        (catalog.drawCandidates config count life source).2) := by
  rw [drawCandidates_eq, drawCandidates_eq, Opportunity.drawn_wordless,
    Opportunity.toCandidates_wordless]

/-- **The offer does not read the words**: catalogs and lives that differ in words offer candidates
that differ in words, and leave the same stream. -/
theorem Catalog.drawCandidates_alike {R G : Type} [Scalar R] [RandomSource G] {c d : Catalog R}
    {a b : Life R} (hc : c.wordless = d.wordless) (h : a.wordless = b.wordless)
    (config : Config R) (count : Nat) (source : Counted G) :
    (c.drawCandidates config count a source).1.map Candidate.wordless =
        (d.drawCandidates config count b source).1.map Candidate.wordless ∧
      (c.drawCandidates config count a source).2 = (d.drawCandidates config count b source).2 := by
  have hdraw := c.drawCandidates_wordless config count a source
  rw [hc, h, d.drawCandidates_wordless] at hdraw
  exact ⟨(congrArg Prod.fst hdraw).symm, (congrArg Prod.snd hdraw).symm⟩

end LifeStory
