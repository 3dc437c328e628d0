import LifeStory.Proofs.Calls
import LifeStory.Proofs.Explained

/-!
# The records of the draws account for the streams

A turn without a player draws from three streams: the stream of events when it draws an event, the
stream of choices once for the impulse of each choice and once more for the draw among them, and the
stream of results when it draws a bucket. A draw without a positive sum of weights takes nothing
from its stream, also where the last bucket counts instead. So the records that the reports keep
tell how far each stream has come (`Streams.ToldBy`), whatever cuts a turn short.

All else in a turn draws from the stream of texts alone (`Streams.SameDecisions`). The three draws
are each looked at once; a turn puts them together in order (`World.toldBy_runTurn`), and turns
follow one another (`Session.toldBy_turns`).
-/

namespace LifeStory

/-! ### Streams that have come further -/

namespace Counted

variable {G : Type} [RandomSource G]

/-- The source some words of 64 bits later. -/
def later : Nat → Counted G → Counted G
  | 0, c => c
  | n + 1, c => later n c.next64.2

@[simp] theorem later_zero (c : Counted G) : c.later 0 = c := rfl

theorem later_succ (n : Nat) (c : Counted G) : c.later (n + 1) = c.next64.2.later n := rfl

/-- Words that are drawn in two parts are drawn one after the other. -/
theorem later_add (m n : Nat) (c : Counted G) : c.later (m + n) = (c.later m).later n := by
  induction m generalizing c with
  | zero => rw [Nat.zero_add, later_zero]
  | succ m ih => rw [Nat.succ_add, later_succ, ih, later_succ]

@[simp] theorem draws_later (n : Nat) (c : Counted G) : (c.later n).draws = c.draws + n := by
  induction n generalizing c with
  | zero => rfl
  | succ n ih =>
    rw [later_succ, ih]
    show c.draws + 1 + n = c.draws + (n + 1)
    omega

end Counted

/-! ### What records tell -/

instance {R : Type} [Scalar R] (total : R) : Decidable (Scalar.Positive total) :=
  inferInstanceAs (Decidable ¬ (Scalar.isNaN total ∨ total ≤ 0.0))

namespace Trace

variable {R : Type} [Scalar R]

omit [Scalar R] in
/-- The records of draws of events by which one was chosen. -/
def eventDraws (traces : List (Trace R)) : Nat :=
  traces.countP fun t ↦ t.pool = "events" ∧ t.chosen.isSome

omit [Scalar R] in
/-- The candidates in the records of draws of choices, and one more for each record by which a
choice was made. -/
def choiceDraws : List (Trace R) → Nat
  | [] => 0
  | t :: rest =>
    if t.pool = Choice.pool then
      t.candidates.length + (if t.chosen.isSome then 1 else 0) + choiceDraws rest
    else choiceDraws rest

omit [Scalar R] in
/-- The draws of choices that two lists of records tell of add up. -/
theorem choiceDraws_append (earlier later : List (Trace R)) :
    choiceDraws (earlier ++ later) = choiceDraws earlier + choiceDraws later := by
  induction earlier with
  | nil => exact (Nat.zero_add _).symm
  | cons t rest ih =>
    rw [List.cons_append, choiceDraws, choiceDraws, ih]
    by_cases hpool : t.pool = Choice.pool
    · rw [if_pos hpool, if_pos hpool]
      exact (Nat.add_assoc ..).symm
    · rw [if_neg hpool, if_neg hpool]

/-- The records of draws of buckets with a positive sum of weights. -/
def resultDraws (traces : List (Trace R)) : Nat :=
  traces.countP fun t ↦ t.pool = "results" ∧ Scalar.Positive t.total

end Trace

namespace Streams

variable {R G : Type} {before middle after : Streams G}

/-- The later streams differ from the earlier ones at most in the stream of texts. -/
structure SameDecisions (before after : Streams G) : Prop where
  events : after.events = before.events
  choices : after.choices = before.choices
  results : after.results = before.results

variable [Scalar R] [RandomSource G]

/-- The streams of events, choices and results have come as far as the records tell. -/
structure ToldBy (before : Streams G) (traces : List (Trace R)) (after : Streams G) : Prop where
  events : after.events = before.events.later (Trace.eventDraws traces)
  choices : after.choices = before.choices.later (Trace.choiceDraws traces)
  results : after.results = before.results.later (Trace.resultDraws traces)

variable {earlier later traces : List (Trace R)}

/-- Where nothing was decided no records are needed to tell it. -/
theorem SameDecisions.toldBy (h : before.SameDecisions after) :
    before.ToldBy ([] : List (Trace R)) after :=
  ⟨h.events, h.choices, h.results⟩

/-- Records that follow one another tell of draws that follow one another. -/
theorem ToldBy.append (h : before.ToldBy earlier middle) (hlater : middle.ToldBy later after) :
    before.ToldBy (earlier ++ later) after where
  events := by
    rw [hlater.events, h.events, ← Counted.later_add, Trace.eventDraws, Trace.eventDraws,
      ← List.countP_append]
    rfl
  choices := by
    rw [hlater.choices, h.choices, ← Counted.later_add, Trace.choiceDraws_append]
  results := by
    rw [hlater.results, h.results, ← Counted.later_add, Trace.resultDraws, Trace.resultDraws,
      ← List.countP_append]
    rfl

/-- Records still tell of the draws when texts are drawn after them. -/
theorem ToldBy.trans (h : before.ToldBy traces middle) (hsame : middle.SameDecisions after) :
    before.ToldBy traces after :=
  List.append_nil traces ▸ h.append hsame.toldBy

end Streams

/-! ### One draw -/

namespace Trace

variable {R G : Type} [Scalar R] [RandomSource G]

/-- A draw takes one word if the sum of the weights is positive, and none otherwise. -/
theorem source_draw (trace : Trace R) (source : Counted G) :
    (trace.draw source).2.2 = source.later
      (if Scalar.Positive (Scalar.sum (trace.candidates.map Weighted.weight)) then 1 else 0) := by
  by_cases h : Scalar.Positive (Scalar.sum (trace.candidates.map Weighted.weight))
  · rw [if_pos h, draw, Draw.byWeight]
    dsimp only
    rw [if_neg h]
    split <;> next hdraw => exact (congrArg Prod.snd hdraw).symm
  · rw [if_neg h, draw_of_none (Draw.byWeight_of_not_positive h source), Counted.later_zero]

/-- A draw takes a word exactly if it chooses a candidate. -/
theorem source_draw_of_chosen (hnothing : ¬ Scalar.Positive (Scalar.nothing : R)) (name : String)
    (among : List (Weighted R)) (source : Counted G) :
    let drawn := (ofCandidates name among).draw source
    drawn.2.2 = source.later (if drawn.2.1.chosen.isSome then 1 else 0) := by
  intro drawn
  obtain ⟨hrecords, hundrawn⟩ := records_draw name among source
  have hchosen : drawn.2.1.chosen.isSome = true ↔
      Scalar.Positive (Scalar.sum (among.map Weighted.weight)) := by
    rw [← hrecords.total]
    constructor
    · intro hsome
      refine Decidable.byContradiction fun hpositive ↦ ?_
      rw [hrecords.chosen, hundrawn hpositive] at hsome
      cases hsome
    · intro hpositive
      have hdraws := hrecords.draws hnothing (rfl : among.length = among.length)
      obtain ⟨_, _, _, -, -, -, hchosen, -⟩ := hdraws.found hpositive
      exact Option.isSome_of_eq_some hchosen
  simp only [hchosen]
  exact source_draw _ source

end Trace

/-- The impulses of choices take one word for each of them. -/
theorem Choice.source_scoredFrom {R G : Type} [Scalar R] [RandomSource G] (life : Life R)
    (chaos : R) (position : Nat) (choices : List (Choice R)) (source : Counted G) :
    let scored := scoredFrom life chaos position choices source
    scored.2 = source.later scored.1.length := by
  induction choices generalizing position source with
  | nil => rfl
  | cons choice rest ih => exact ih (position + 1) _

namespace Streams

variable {R G : Type} [Scalar R] [RandomSource G] {trace : Trace R}

/-! Each draw is told by its record, which tells of no draw from the other streams. -/

/-- The record of a draw of an event tells of one word, if an event was drawn. -/
theorem toldBy_events (streams : Streams G) (hpool : trace.pool = "events") :
    streams.ToldBy [trace]
      { streams with events := streams.events.later (if trace.chosen.isSome then 1 else 0) } := by
  refine ⟨?_, ?_, ?_⟩ <;>
    simp [Trace.eventDraws, Trace.choiceDraws, Trace.resultDraws, Choice.pool,
      List.countP_singleton, hpool]

/-- The record of a draw of a choice tells of a word for each impulse, and one more for the draw. -/
theorem toldBy_choices (streams : Streams G) (hpool : trace.pool = Choice.pool) :
    streams.ToldBy [trace]
      { streams with
        choices := streams.choices.later
          (trace.candidates.length + if trace.chosen.isSome then 1 else 0) } := by
  rw [Choice.pool] at hpool
  refine ⟨?_, ?_, ?_⟩ <;>
    simp [Trace.eventDraws, Trace.choiceDraws, Trace.resultDraws, Choice.pool, hpool]

/-- The record of a draw of a bucket tells of one word, if there was a positive sum to draw from. -/
theorem toldBy_results (streams : Streams G) (hpool : trace.pool = "results") :
    streams.ToldBy [trace]
      { streams with
        results := streams.results.later (if Scalar.Positive trace.total then 1 else 0) } := by
  refine ⟨?_, ?_, ?_⟩ <;>
    simp [Trace.eventDraws, Trace.choiceDraws, Trace.resultDraws, Choice.pool,
      List.countP_singleton, hpool]

end Streams

namespace Choice

variable {R G : Type} [Scalar R] [RandomSource G] {choice : Choice R}

/-- A choice with buckets takes from the stream what the draw among them takes. -/
theorem source_resolve_of_buckets (h : choice.results ≠ []) (source : Counted G) :
    (choice.resolve source).2 = (choice.drawBucket source).2.2 := by
  have hbuckets : ¬ choice.results.isEmpty = true := fun hempty ↦ h (List.isEmpty_iff.1 hempty)
  rw [resolve, drawBucket, if_neg hbuckets]
  split <;> next hdraw => rw [hdraw]

/-- How a choice turns out is drawn from the stream as its record tells, if it has buckets. -/
theorem source_resolve (choice : Choice R) (source : Counted G) :
    let resolved := choice.resolve source
    resolved.1.trace = none ∧ resolved.2 = source ∨
      ∃ trace, resolved.1.trace = some trace ∧ trace.pool = "results" ∧
        resolved.2 = source.later (if Scalar.Positive trace.total then 1 else 0) := by
  by_cases hplain : choice.results = []
  · rw [resolve_of_plain hplain]
    exact .inl ⟨rfl, rfl⟩
  · obtain ⟨position, bucket, trace, -, hresolve, hrecords, -⟩ := resolve_of_buckets hplain source
    refine .inr ⟨trace, by rw [hresolve], hrecords.pool, ?_⟩
    rw [hrecords.total, source_resolve_of_buckets hplain]
    exact Trace.source_draw _ source

end Choice

/-! ### What draws nothing but texts -/

namespace World

variable {R A G : Type} [Scalar R] [RandomSource G] {setting : Setting R} {world : World R A G}

omit [Scalar R] [RandomSource G] in
theorem sameDecisions_note (kind : LogKind) (title : Option String) (text : String) :
    world.streams.SameDecisions (world.note kind title text).streams :=
  ⟨rfl, rfl, rfl⟩

/-- The text of an event is drawn from the stream of texts. -/
theorem sameDecisions_stage (origin : Origin) :
    world.streams.SameDecisions (world.stage origin).streams :=
  ⟨rfl, rfl, rfl⟩

/-- The text of a choice is drawn from the stream of texts. -/
theorem sameDecisions_tellChoice (choice : Choice R) :
    world.streams.SameDecisions (world.tellChoice choice).streams :=
  ⟨rfl, rfl, rfl⟩

/-- Feedback is drawn from the stream of texts, if at all. -/
theorem sameDecisions_tellFeedback (feedback : Option String) :
    world.streams.SameDecisions (world.tellFeedback feedback).streams := by
  cases feedback <;> exact ⟨rfl, rfl, rfl⟩

/-- Directives draw nothing but the texts of endings. -/
theorem sameDecisions_applyResult [AchievementSink A] (outcomes : List (Directive R)) :
    world.streams.SameDecisions (world.applyResult setting outcomes).2.streams :=
  ⟨rfl, rfl, rfl⟩

/-- Time that passes draws nothing but texts. -/
theorem sameDecisions_advance [AchievementSink A] :
    world.streams.SameDecisions (world.advance setting).2.streams := by
  rw [advance]
  split <;> exact ⟨rfl, rfl, rfl⟩

end World

/-- The beginning of a run does not draw from the streams of decisions. -/
theorem Session.sameDecisions_reset {R A G : Type} [Scalar R] [AchievementSink A] [RandomSource G]
    (session : Session R A G) (talents : List String) :
    session.world.streams.SameDecisions (session.reset talents).world.streams :=
  ⟨rfl, rfl, rfl⟩

/-! ### Turns -/

namespace World

variable {R A G : Type} [Scalar R] [RandomSource G]

/-- The draw of an event is told by its record. -/
theorem toldBy_drawEvent (hnothing : ¬ Scalar.Positive (Scalar.nothing : R)) (setting : Setting R)
    (world : World R A G) :
    world.streams.ToldBy [(world.drawEvent setting).2.1] (world.drawEvent setting).2.2.streams := by
  let among :=
    (setting.catalog.eligible setting.config.showTestEvents world.life).map (·.weighted world.life)
  obtain ⟨hrecords, -⟩ := Trace.records_draw "events" among world.streams.events
  have htold := world.streams.toldBy_events hrecords.pool
  rw [← Trace.source_draw_of_chosen hnothing] at htold
  exact htold

/-- The draw of a choice is told by its record, and the text of the event draws nothing else. -/
theorem toldBy_choosing (hnothing : ¬ Scalar.Positive (Scalar.nothing : R)) (setting : Setting R)
    (event : Event R) (world : World R A G) :
    world.streams.ToldBy [(world.choosing setting event).2.1]
      (world.choosing setting event).2.2.streams := by
  let staged := world.stage ⟨event.id, event.title, event.text⟩
  let scored := Choice.scoredFrom staged.life setting.config.choiceChaos 0
    (setting.catalog.available staged.life event) staged.streams.choices
  have hstaged : world.streams.SameDecisions staged.streams := sameDecisions_stage _
  obtain ⟨hrecords, -⟩ := Trace.records_draw Choice.pool scored.1 scored.2
  have htold := staged.streams.toldBy_choices hrecords.pool
  rw [hrecords.candidates, Counted.later_add, ← Choice.source_scoredFrom,
    ← Trace.source_draw_of_chosen hnothing] at htold
  exact hstaged.toldBy.append htold

variable [AchievementSink A]

omit [AchievementSink A] in
/-- How a choice turns out is told by the record that it leaves, if it leaves one. -/
theorem toldBy_making (choice : Choice R) (world : World R A G) :
    world.streams.ToldBy (world.making choice).1.trace.toList
      (world.making choice).2.streams := by
  let told := world.tellChoice choice
  have hmaking : world.making choice = ((choice.resolve told.streams.results).1, { told with
      streams := { told.streams with results := (choice.resolve told.streams.results).2 } }) := rfl
  have htold : world.streams.SameDecisions told.streams := sameDecisions_tellChoice choice
  rw [hmaking]
  rcases choice.source_resolve told.streams.results with
    ⟨hnone, hsource⟩ | ⟨trace, hsome, hpool, hsource⟩
  · rw [hnone, hsource]
    exact htold.toldBy
  · rw [hsome, hsource]
    exact htold.toldBy.append (told.streams.toldBy_results hpool)

theorem toldBy_made (setting : Setting R) (choice : Choice R) (world : World R A G) :
    world.streams.ToldBy (world.making choice).1.trace.toList
      (world.made setting choice).2.streams :=
  ((world.toldBy_making choice).trans (sameDecisions_tellFeedback _)).trans
    (sameDecisions_applyResult _)

variable (hnothing : ¬ Scalar.Positive (Scalar.nothing : R))

include hnothing

/-- The draws of an event that is lived through are told by the records that it adds to the report.
-/
theorem toldBy_liveThrough (setting : Setting R) (event : Event R) (report : TurnReport R)
    (world : World R A G) :
    let lived := world.liveThrough setting event report
    ∃ later, lived.1.traces = report.traces ++ later ∧
      world.streams.ToldBy later lived.2.streams := by
  have hchoosing := world.toldBy_choosing hnothing setting event
  cases hchoice : (world.choosing setting event).1 with
  | none =>
    rw [liveThrough_of_none hchoice]
    exact ⟨_, rfl, hchoosing.trans (sameDecisions_note _ _ _)⟩
  | some choice =>
    rw [liveThrough_of_some hchoice, make_eq]
    exact ⟨_, List.append_assoc _ _ _, hchoosing.append (toldBy_made setting choice _)⟩

/-- The draws of whatever happens are told by the records that it adds to the report. -/
theorem toldBy_happen (setting : Setting R) (report : TurnReport R) (world : World R A G) :
    let happened := world.happen setting report
    ∃ later, happened.1.traces = report.traces ++ later ∧
      world.streams.ToldBy later happened.2.streams := by
  have hdrawn := world.toldBy_drawEvent hnothing setting
  cases hevent : (world.drawEvent setting).1 with
  | none =>
    rw [happen_of_none hevent]
    exact ⟨_, rfl, hdrawn.trans (sameDecisions_note _ _ _)⟩
  | some event =>
    obtain ⟨later, htraces, hlived⟩ := (world.drawEvent setting).2.2.toldBy_liveThrough hnothing
      setting event { report with traces := report.traces ++ [(world.drawEvent setting).2.1] }
    rw [happen_of_some hevent]
    exact ⟨_, htraces.trans (List.append_assoc _ _ _), hdrawn.append hlived⟩

/-- The records in the report on a turn tell what the turn drew. -/
theorem toldBy_runTurn (setting : Setting R) (world : World R A G) :
    world.streams.ToldBy (world.runTurn setting).1.traces (world.runTurn setting).2.streams := by
  have hadvance : world.streams.SameDecisions (world.advance setting).2.streams :=
    sameDecisions_advance
  cases hactive : (world.advance setting).2.life.isActive with
  | false =>
    rw [runTurn_of_over hactive]
    exact hadvance.toldBy
  | true =>
    obtain ⟨later, htraces, hhappened⟩ := (world.advance setting).2.toldBy_happen hnothing setting
      (TurnReport.blank.absorb (world.advance setting).1)
    rw [runTurn_of_active hactive]
    show world.streams.ToldBy (World.happen _ _ _).1.traces _
    rw [htraces]
    exact hadvance.toldBy.append hhappened

end World

/-! ### Runs -/

/-- The records of the draws that an answer reports, in order. -/
def Answer.traces {R : Type} (answer : Answer R) : List (Trace R) :=
  answer.turnReports.flatMap TurnReport.traces

/-- The records tell how often the streams were drawn from. -/
structure Trace.Tell {R : Type} [Scalar R] (traces : List (Trace R)) (counts : DrawCounts) :
    Prop where
  events : counts.events = eventDraws traces
  choices : counts.choices = choiceDraws traces
  results : counts.results = resultDraws traces

/-- From the streams of a seed on, the records tell how often each stream was drawn from. -/
theorem Streams.ToldBy.tell {R G : Type} [Scalar R] [SeededSource G] {seed : UInt64}
    {traces : List (Trace R)} {after : Streams G} (h : (ofSeed seed).ToldBy traces after) :
    Trace.Tell traces after.drawCounts where
  events := by
    show after.events.draws = _
    rw [h.events, Counted.draws_later]
    exact Nat.zero_add _
  choices := by
    show after.choices.draws = _
    rw [h.choices, Counted.draws_later]
    exact Nat.zero_add _
  results := by
    show after.results.draws = _
    rw [h.results, Counted.draws_later]
    exact Nat.zero_add _

namespace Session

variable {R A G : Type}

section Turns

variable [Scalar R] [AchievementSink A] [SeededSource G]

/-- The records of the given number of turns tell how often the streams of the session have been
drawn from by then. -/
def TellsDraws (session : Session R A G) (turns : Nat) : Prop :=
  let played := session.goOn (List.replicate turns .runTurn)
  Trace.Tell (played.1.flatMap Answer.traces) played.2.world.streams.drawCounts

variable (hnothing : ¬ Scalar.Positive (Scalar.nothing : R))

include hnothing

/-- **Any number of turns** draw from the streams what the records of their reports tell. -/
theorem toldBy_turns (session : Session R A G) (turns : Nat) :
    let played := session.goOn (List.replicate turns .runTurn)
    session.world.streams.ToldBy (played.1.flatMap Answer.traces) played.2.world.streams := by
  induction turns generalizing session with
  | zero => exact Streams.SameDecisions.toldBy ⟨rfl, rfl, rfl⟩
  | succ turns ih =>
    have hturn := session.world.toldBy_runTurn hnothing session.setting
    have htraces : (session.move .runTurn).1.traces =
        (session.world.runTurn session.setting).1.traces := List.append_nil _
    rw [← htraces] at hturn
    exact hturn.append (ih (session.move .runTurn).2)

/-- The records account for all the draws of a run that starts from a given life. -/
theorem tellsDraws_ofLife (setting : Setting R) (seed : UInt64) (sink : A) (life : Life R)
    (turns : Nat) : (ofLife setting seed sink life : Session R A G).TellsDraws turns :=
  (toldBy_turns hnothing (ofLife setting seed sink life) turns).tell

/-- The records account for all the draws of a run that begins. -/
theorem tellsDraws_begin (setting : Setting R) (seed : UInt64) (sink : A) (talents : List String)
    (turns : Nat) : (begin setting seed sink talents : Session R A G).TellsDraws turns := by
  let empty : Session R A G := ofLife setting seed sink (Life.fresh Life.defaultLogCapacity)
  have hbegun := empty.sameDecisions_reset talents
  exact (hbegun.toldBy.append (toldBy_turns hnothing (empty.reset talents) turns)).tell

end Turns

/-- **The records of the draws account for the draws.** In a session with the streams of a seed,
of a life that begins or goes on, the reports on any number of turns tell how often each of the
three streams of decisions was drawn from: once for each event that was drawn, once for each choice
that was scored and once more for each that was made, and once for each bucket that was drawn by
weight. All else that a turn does, and the beginning of a run, draws from none of them.

The draws are counted without a bound. -/
theorem records_account_for_draws [AchievementSink A] [SeededSource G] (setting : Setting Float)
    (seed : UInt64) (sink : A) :
    (∀ life turns, (ofLife setting seed sink life : Session Float A G).TellsDraws turns) ∧
    (∀ talents turns, (begin setting seed sink talents : Session Float A G).TellsDraws turns) ∧
    ∀ world : World Float A G,
      world.streams.SameDecisions (world.advance setting).2.streams ∧
      (∀ origin, world.streams.SameDecisions (world.stage origin).streams) ∧
      (∀ choice, world.streams.SameDecisions (world.tellChoice choice).streams) ∧
      (∀ feedback, world.streams.SameDecisions (world.tellFeedback feedback).streams) ∧
      (∀ outcomes, world.streams.SameDecisions (world.applyResult setting outcomes).2.streams) ∧
      (∀ kind title text, world.streams.SameDecisions (world.note kind title text).streams) ∧
      ∀ talents, world.streams.SameDecisions ((idle setting world).reset talents).world.streams :=
  ⟨tellsDraws_ofLife not_positive_nothing setting seed sink,
    tellsDraws_begin not_positive_nothing setting seed sink,
    fun world ↦ ⟨World.sameDecisions_advance, World.sameDecisions_stage,
      World.sameDecisions_tellChoice, World.sameDecisions_tellFeedback,
      World.sameDecisions_applyResult, World.sameDecisions_note,
      (idle setting world).sameDecisions_reset⟩⟩

end Session

end LifeStory
