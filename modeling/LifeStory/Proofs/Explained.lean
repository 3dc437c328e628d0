import LifeStory.Proofs.PlayModes

/-!
# Reports explain their turns

The report on a turn has the records of its draws, and these tell what happened and why: which event
took place and among which it was drawn, which of its choices was made, and which of the buckets of
that choice counted. To replay a record leads to a position (`Trace.Draws`), and what was there in
the list that was drawn from is what was applied. `World.EventExplained`, `World.ChoiceExplained`
and `World.ResultExplained` follow the branches of a turn, one record for each draw and nothing
else.

The scene that is left does not depend on the streams that were drawn from, so that each branch
gives it in the world in which the event takes place, as it is without the draws.
-/

namespace LifeStory

/-! ### Draws of items -/

section Items

variable {R α : Type} [Scalar R]

/-- The record of a draw of one of the given items, each of which is a candidate. -/
structure Trace.Draws (trace : Trace R) (name : String) (among : List (Weighted R))
    (items : List α) (position : Option Nat) : Prop extends trace.Records name among position where
  length : among.length = items.length
  /-- With a positive sum of weights, the recorded weights and the recorded roll lead to an item,
  and the name that was taken down is that of its candidate. -/
  found : Scalar.Positive trace.total → ∃ index candidate item,
    Draw.pickByRoll (trace.candidates.map Weighted.weight) trace.roll = some index ∧
      position = some index ∧ trace.candidates[index]? = some candidate ∧
      trace.chosen = some candidate.id ∧ items[index]? = some item

/-- Of double precision, the sum of nothing is not positive. -/
theorem not_positive_nothing : ¬ Scalar.Positive (Scalar.nothing : Float) :=
  Decidable.not_not.2 (.inr (by decide))

/-- With a positive sum of weights, the recorded weights and the recorded roll lead to a candidate,
and its name was taken down. -/
def Trace.Replays (trace : Trace R) : Prop :=
  Scalar.Positive trace.total → ∃ index candidate,
    Draw.pickByRoll (trace.candidates.map Weighted.weight) trace.roll = some index ∧
      trace.candidates[index]? = some candidate ∧ trace.chosen = some candidate.id

variable {trace : Trace R} {name : String} {among : List (Weighted R)} {items : List α}

/-- A record that leads to an item can be replayed. -/
theorem Trace.Draws.replays {position : Option Nat} (h : trace.Draws name among items position) :
    trace.Replays := by
  intro hpositive
  obtain ⟨index, candidate, -, hindex, -, hcandidate, hchosen, -⟩ := h.found hpositive
  exact ⟨index, candidate, hindex, hcandidate, hchosen⟩

theorem Trace.Records.draws {position : Option Nat}
    (hnothing : ¬ Scalar.Positive (Scalar.nothing : R)) (h : trace.Records name among position)
    (hlength : among.length = items.length) : trace.Draws name among items position where
  toRecords := h
  length := hlength
  found hpositive := by
    have hne : among ≠ [] := by
      rintro rfl
      rw [h.total] at hpositive
      exact hnothing hpositive
    obtain ⟨index, candidate, hindex, hposition, hcandidate, hchosen⟩ :=
      h.exists_candidate hpositive hne
    have hlt : index < items.length := by
      rw [h.candidates] at hcandidate
      obtain ⟨hlt, -⟩ := List.getElem?_eq_some_iff.1 hcandidate
      rwa [hlength] at hlt
    exact ⟨index, candidate, items[index], hindex, hposition, hcandidate, hchosen,
      List.getElem?_eq_getElem hlt⟩

/-- A draw of one of the items gives none of them, or one. -/
theorem Trace.draw_cases {G : Type} [RandomSource G]
    (hnothing : ¬ Scalar.Positive (Scalar.nothing : R)) (name : String)
    (hlength : among.length = items.length) (source : Counted G) :
    let drawn := (Trace.ofCandidates name among).draw source
    drawn.1.bind (items[·]?) = none ∧ drawn.2.1.Draws name among items none ∨
      ∃ index item, drawn.1.bind (items[·]?) = some item ∧ items[index]? = some item ∧
        drawn.2.1.Draws name among items (some index) := by
  intro drawn
  obtain ⟨hrecords, hundrawn⟩ := Trace.records_draw name among source
  have hdraws : drawn.2.1.Draws name among items drawn.1 := hrecords.draws hnothing hlength
  by_cases hpositive : Scalar.Positive drawn.2.1.total
  · obtain ⟨index, candidate, item, -, hindex, -, -, hitem⟩ := hdraws.found hpositive
    rw [hindex] at hdraws ⊢
    exact .inr ⟨index, item, hitem, hitem, hdraws⟩
  · have hnone : drawn.1 = none := hundrawn hpositive
    rw [hnone] at hdraws ⊢
    exact .inl ⟨rfl, hdraws⟩

end Items

/-! ### The scores of choices -/

namespace Choice

variable {R G : Type} [Scalar R] [RandomSource G]

/-- One candidate for each choice, in order, with its name, with how strongly it draws a life, and
with an impulse on top. -/
structure Scored (life : Life R) (choices : List (Choice R)) (candidates : List (Weighted R)) :
    Prop where
  ids : candidates.map Weighted.id = choices.mapIdx fun position c ↦ c.label position
  bases : candidates.map Weighted.base = choices.map fun c ↦ c.tendency life * c.strength
  weights : ∀ w ∈ candidates, ∃ impulse, w.factors = [⟨"impulse", impulse⟩] ∧
    w.weight = Scalar.max (w.base + impulse) minScore

/-- The first choice is scored under its own place, and the others from the next place on. -/
theorem scoredFrom_cons (life : Life R) (chaos : R) (position : Nat) (choice : Choice R)
    (rest : List (Choice R)) (source : Counted G) :
    (scoredFrom life chaos position (choice :: rest) source).1 =
      (choice.scored life chaos (choice.label position) source).1 ::
        (scoredFrom life chaos (position + 1) rest
          (choice.scored life chaos (choice.label position) source).2).1 :=
  rfl

/-- Choices are scored under their names, or under their places if they have none. -/
theorem ids_scoredFrom (life : Life R) (chaos : R) (position : Nat) (choices : List (Choice R))
    (source : Counted G) :
    (scoredFrom life chaos position choices source).1.map Weighted.id =
      choices.mapIdx fun index c ↦ c.label (position + index) := by
  induction choices generalizing position source with
  | nil => rfl
  | cons choice rest ih =>
    rw [scoredFrom_cons, List.map_cons, ih, List.mapIdx_cons]
    simp only [Nat.add_assoc, Nat.add_comm 1]
    rfl

/-- The base of a score is the tendency of the life to the choice, times its strength. -/
theorem bases_scoredFrom (life : Life R) (chaos : R) (position : Nat) (choices : List (Choice R))
    (source : Counted G) :
    (scoredFrom life chaos position choices source).1.map Weighted.base =
      choices.map fun c ↦ c.tendency life * c.strength := by
  induction choices generalizing position source with
  | nil => rfl
  | cons choice rest ih =>
    rw [scoredFrom_cons, List.map_cons, List.map_cons, ih]
    rfl

/-- The weight of a score is its base with the recorded impulse, but no less than the least score.
-/
theorem weights_scoredFrom (life : Life R) (chaos : R) (position : Nat) (choices : List (Choice R))
    (source : Counted G) :
    ∀ w ∈ (scoredFrom life chaos position choices source).1,
      ∃ impulse, w.factors = [⟨"impulse", impulse⟩] ∧
        w.weight = Scalar.max (w.base + impulse) minScore := by
  induction choices generalizing position source with
  | nil => exact fun _ hw ↦ absurd hw List.not_mem_nil
  | cons choice rest ih =>
    rw [scoredFrom_cons]
    intro w hw
    rcases List.mem_cons.1 hw with rfl | hrest
    · exact ⟨_, rfl, rfl⟩
    · exact ih _ _ w hrest

/-- The candidates of a draw of choices are the choices with their scores. -/
theorem scored_scoredFrom (life : Life R) (chaos : R) (choices : List (Choice R))
    (source : Counted G) : Scored life choices (scoredFrom life chaos 0 choices source).1 where
  ids := by
    rw [ids_scoredFrom]
    simp only [Nat.zero_add]
  bases := bases_scoredFrom life chaos 0 choices source
  weights := weights_scoredFrom life chaos 0 choices source

theorem Scored.length {life : Life R} {choices : List (Choice R)} {candidates : List (Weighted R)}
    (h : Scored life choices candidates) : candidates.length = choices.length := by
  have hlength := congrArg List.length h.bases
  rwa [List.length_map, List.length_map] at hlength

/-- A draw of choices makes none of them or one, and records their scores. -/
theorem draw_cases (hnothing : ¬ Scalar.Positive (Scalar.nothing : R)) (life : Life R) (chaos : R)
    (choices : List (Choice R)) (source : Counted G) :
    let drawn := draw life chaos choices source
    Scored life choices drawn.2.1.candidates ∧
      (drawn.1 = none ∧ drawn.2.1.Draws pool drawn.2.1.candidates choices none ∨
        ∃ index choice, drawn.1 = some choice ∧ choices[index]? = some choice ∧
          drawn.2.1.Draws pool drawn.2.1.candidates choices (some index)) := by
  intro drawn
  have hscored := scored_scoredFrom life chaos choices source
  have hcases := Trace.draw_cases hnothing pool hscored.length
    (scoredFrom life chaos 0 choices source).2
  have hcandidates : drawn.2.1.candidates = (scoredFrom life chaos 0 choices source).1 :=
    hcases.elim (·.2.candidates) fun ⟨_, _, _, _, hdraws⟩ ↦ hdraws.candidates
  rw [hcandidates]
  exact ⟨hscored, hcases⟩

end Choice

/-- A draw of events gives none of those that may take place, or one. -/
theorem Catalog.drawEvent_cases {R G : Type} [Scalar R] [RandomSource G]
    (hnothing : ¬ Scalar.Positive (Scalar.nothing : R)) (catalog : Catalog R) (showTests : Bool)
    (life : Life R) (source : Counted G) :
    let drawn := catalog.drawEvent showTests life source
    let events := catalog.eligible showTests life
    drawn.1 = none ∧ drawn.2.1.Draws "events" (events.map (·.weighted life)) events none ∨
      ∃ index event, drawn.1 = some event ∧ events[index]? = some event ∧
        drawn.2.1.Draws "events" (events.map (·.weighted life)) events (some index) :=
  Trace.draw_cases hnothing "events" (List.length_map _) source

namespace World

variable {R A G : Type} [Scalar R] [AchievementSink A] [RandomSource G]

/-! ### What is left -/

/-- The scene that is left when what comes of a choice is told and applied. -/
def comeTo (setting : Setting R) (feedback : Option String) (outcomes : List (Directive R))
    (world : World R A G) : Scene R A G :=
  ((world.tellFeedback feedback).applyResult setting outcomes).2.scene

/-- The stream of results has no part in what is left. -/
theorem comeTo_drawResult (setting : Setting R) (feedback : Option String)
    (outcomes : List (Directive R)) (choice : Choice R) (world : World R A G) :
    (world.drawResult choice).2.comeTo setting feedback outcomes =
      world.comeTo setting feedback outcomes := by
  cases feedback <;> rfl

/-- What a choice comes to is its line, its feedback and its outcomes, in this order. -/
theorem scene_made (setting : Setting R) (choice : Choice R) (world : World R A G) :
    (world.made setting choice).2.scene =
      (world.tellChoice choice).comeTo setting (world.making choice).1.feedback
        (world.making choice).1.outcomes :=
  comeTo_drawResult _ _ _ choice _

/-! ### Explanations -/

/-- What a report tells about how a choice turned out, which was told in the given world: the
bucket, the records, and the scene that is left. -/
inductive ResultExplained (setting : Setting R) (choice : Choice R) (told : World R A G) :
    Option Nat → List (Trace R) → Scene R A G → Prop where
  /-- A choice without buckets comes to its own outcomes. -/
  | plain (h : choice.results = []) :
      ResultExplained setting choice told none []
        (told.comeTo setting choice.feedback choice.outcomes)
  /-- A choice with buckets comes to the one that the record names, and to the last one if there is
  no positive sum of weights. -/
  | drawn {trace : Trace R} {index : Nat} {bucket : Bucket R}
      (draws : trace.Draws "results" (Bucket.weightedAll choice.results) choice.results
        (some index))
      (found : choice.results[index]? = some bucket)
      (named : trace.chosen = some (bucketLabel index))
      (last : ¬ Scalar.Positive trace.total → index + 1 = choice.results.length) :
      ResultExplained setting choice told (some index) [trace]
        (told.comeTo setting bucket.feedback bucket.outcomes)

/-- What a report tells about the choice of an event that took place in the given world: the id of
the choice, the bucket, the records, and the scene that is left. -/
inductive ChoiceExplained (setting : Setting R) (event : Event R) (staged : World R A G) :
    Option String → Option Nat → List (Trace R) → Scene R A G → Prop where
  /-- No choice is made. -/
  | directionless {trace : Trace R}
      (scored : Choice.Scored staged.life (setting.catalog.available staged.life event)
        trace.candidates)
      (draws : trace.Draws Choice.pool trace.candidates
        (setting.catalog.available staged.life event) none) :
      ChoiceExplained setting event staged none none [trace]
        (staged.note .system none directionlessLine).scene
  /-- The choice is made that the record names. -/
  | chosen {trace : Trace R} {index : Nat} {choice : Choice R} {bucket : Option Nat}
      {later : List (Trace R)} {after : Scene R A G}
      (scored : Choice.Scored staged.life (setting.catalog.available staged.life event)
        trace.candidates)
      (draws : trace.Draws Choice.pool trace.candidates
        (setting.catalog.available staged.life event) (some index))
      (found : (setting.catalog.available staged.life event)[index]? = some choice)
      (result : ResultExplained setting choice (staged.tellChoice choice) bucket later after) :
      ChoiceExplained setting event staged choice.id bucket (trace :: later) after

/-- What a report tells about a turn that goes on in the given world after time has passed: the ids
of the event and of the choice, the bucket, the records, and the scene that is left. -/
inductive EventExplained (setting : Setting R) (advanced : World R A G) :
    Option String → Option String → Option Nat → List (Trace R) → Scene R A G → Prop where
  /-- No event takes place. -/
  | nothing {trace : Trace R}
      (draws : trace.Draws "events"
        ((setting.catalog.eligible setting.config.showTestEvents advanced.life).map
          (·.weighted advanced.life))
        (setting.catalog.eligible setting.config.showTestEvents advanced.life) none) :
      EventExplained setting advanced none none none [trace]
        (advanced.note .system none nothingLine).scene
  /-- The event takes place that the record names. -/
  | drawn {trace : Trace R} {index : Nat} {event : Event R} {choice : Option String}
      {bucket : Option Nat} {later : List (Trace R)} {after : Scene R A G}
      (draws : trace.Draws "events"
        ((setting.catalog.eligible setting.config.showTestEvents advanced.life).map
          (·.weighted advanced.life))
        (setting.catalog.eligible setting.config.showTestEvents advanced.life) (some index))
      (found : (setting.catalog.eligible setting.config.showTestEvents advanced.life)[index]? =
        some event)
      (choices : ChoiceExplained setting event
        (advanced.stage ⟨event.id, event.title, event.text⟩) choice bucket later after) :
      EventExplained setting advanced (some event.id) choice bucket (trace :: later) after

section Replays

variable {setting : Setting R} {world after : World R A G} {chosen : Option String}
  {bucket : Option Nat} {traces : List (Trace R)} {scene : Scene R A G}

theorem ResultExplained.replays {choice : Choice R}
    (h : ResultExplained setting choice world bucket traces scene) :
    ∀ trace ∈ traces, trace.Replays := by
  cases h with
  | plain => exact fun _ htrace ↦ absurd htrace List.not_mem_nil
  | drawn draws => exact fun _ htrace ↦ List.mem_singleton.1 htrace ▸ draws.replays

/-- The records of a choice can be replayed. -/
theorem ChoiceExplained.replays {event : Event R}
    (h : ChoiceExplained setting event world chosen bucket traces scene) :
    ∀ trace ∈ traces, trace.Replays := by
  cases h with
  | directionless _ draws => exact fun _ htrace ↦ List.mem_singleton.1 htrace ▸ draws.replays
  | chosen _ draws _ result => exact List.forall_mem_cons.2 ⟨draws.replays, result.replays⟩

/-- **The records of a turn can be replayed.** -/
theorem EventExplained.replays {event : Option String}
    (h : EventExplained setting world event chosen bucket traces scene) :
    ∀ trace ∈ traces, trace.Replays := by
  cases h with
  | nothing draws => exact fun _ htrace ↦ List.mem_singleton.1 htrace ▸ draws.replays
  | drawn draws _ choices => exact List.forall_mem_cons.2 ⟨draws.replays, choices.replays⟩

/-- The event is the one whose name the first record took down. -/
theorem EventExplained.event_eq {event : Option String}
    (h : EventExplained setting world event chosen bucket traces scene) :
    ∃ trace later, traces = trace :: later ∧ event = trace.chosen := by
  cases h with
  | nothing draws => exact ⟨_, [], rfl, draws.chosen.symm⟩
  | drawn draws found choices =>
    refine ⟨_, _, rfl, ?_⟩
    rw [draws.chosen, Option.bind_some, List.getElem?_map, found]
    rfl

end Replays

/-! ### Turns -/

section Turns

variable (hnothing : ¬ Scalar.Positive (Scalar.nothing : R))

include hnothing

/-- What a choice comes to is explained by the record of its draw, or by its plain outcomes. -/
theorem resultExplained_made (setting : Setting R) (choice : Choice R) (world : World R A G) :
    ResultExplained setting choice (world.tellChoice choice) (world.making choice).1.bucket
      (world.making choice).1.trace.toList (world.made setting choice).2.scene := by
  have hmaking : (world.making choice).1 =
      (choice.resolve (world.tellChoice choice).streams.results).1 := rfl
  rw [scene_made, hmaking]
  by_cases h : choice.results = []
  · rw [Choice.resolve_of_plain h]
    exact .plain h
  · obtain ⟨index, bucket, trace, hget, hresolve, hrecords, hlast⟩ :=
      Choice.resolve_of_buckets h (world.tellChoice choice).streams.results
    rw [hresolve]
    have hnamed : trace.chosen = some (bucketLabel index) := by
      rw [hrecords.chosen, Option.bind_some, Bucket.weightedAll, List.getElem?_mapIdx, hget]
      rfl
    exact .drawn (hrecords.draws hnothing (Bucket.length_weightedAll _)) hget hnamed hlast

/-- An event that is lived through is explained, whatever was drawn before it. -/
theorem choiceExplained_liveThrough (setting : Setting R) (event : Event R) (report : TurnReport R)
    (hchoice : report.choice = none) (hbucket : report.bucket = none) (events choices : Counted G)
    (world : World R A G) :
    let lived := (world.withDraws events choices).liveThrough setting event report
    lived.1.event = some event.id ∧ ∃ later, lived.1.traces = report.traces ++ later ∧
      ChoiceExplained setting event (world.stage ⟨event.id, event.title, event.text⟩)
        lived.1.choice lived.1.bucket later lived.2.scene := by
  let staged := world.stage ⟨event.id, event.title, event.text⟩
  let chosen := (world.withDraws events choices).choosing setting event
  obtain ⟨others, hothers⟩ := (world.withDraws events choices).choosing_eq_withDraws setting event
  rw [stage_withDraws, withDraws_withDraws] at hothers
  have hcases := Choice.draw_cases hnothing staged.life setting.config.choiceChaos
    (setting.catalog.available staged.life event) choices
  obtain ⟨hscored, ⟨hnone, hdraws⟩ | ⟨index, choice, hsome, hget, hdraws⟩⟩ := hcases
  · have hnone : chosen.1 = none := hnone
    rw [liveThrough_of_none hnone, hothers]
    refine ⟨rfl, [chosen.2.1], rfl, ?_⟩
    show ChoiceExplained _ _ _ report.choice report.bucket _ _
    rw [hchoice, hbucket]
    exact .directionless hscored hdraws
  · have hsome : chosen.1 = some choice := hsome
    rw [liveThrough_of_some hsome, hothers, make_withDraws, make_eq]
    refine ⟨rfl, chosen.2.1 :: (staged.making choice).1.trace.toList, ?_, ?_⟩
    · exact List.append_assoc report.traces [chosen.2.1] _
    · exact .chosen hscored hdraws hget (resultExplained_made hnothing setting choice staged)

/-- What happens in a turn is explained. -/
theorem eventExplained_happen (setting : Setting R) {report : TurnReport R}
    (hevent : report.event = none) (hchoice : report.choice = none)
    (hbucket : report.bucket = none) (htraces : report.traces = []) (world : World R A G) :
    let happened := world.happen setting report
    EventExplained setting world happened.1.event happened.1.choice happened.1.bucket
      happened.1.traces happened.2.scene := by
  let drawn := world.drawEvent setting
  obtain ⟨events, hevents⟩ := world.drawEvent_eq_withDraws setting
  have hcases := setting.catalog.drawEvent_cases hnothing setting.config.showTestEvents world.life
    world.streams.events
  obtain ⟨hnone, hdraws⟩ | ⟨index, event, hsome, hget, hdraws⟩ := hcases
  · have hnone : drawn.1 = none := hnone
    rw [happen_of_none hnone, htraces]
    show EventExplained _ _ report.event report.choice report.bucket _ _
    rw [hevent, hchoice, hbucket]
    exact .nothing hdraws
  · have hsome : drawn.1 = some event := hsome
    obtain ⟨hid, later, hlater, hexplained⟩ := choiceExplained_liveThrough hnothing setting event
      { report with traces := report.traces ++ [drawn.2.1] } hchoice hbucket events
      world.streams.choices world
    rw [happen_of_some hsome, hevents]
    intro happened
    have htraces : happened.1.traces = drawn.2.1 :: later := by
      rw [hlater, htraces]
      rfl
    rw [hid, htraces]
    exact .drawn hdraws hget hexplained

end Turns

omit [Scalar R] in
/-- **The report on a turn explains the turn.** If the run is over after time has passed, nothing
was drawn and no event took place. Otherwise the records and what the report tells follow the
branches of the turn (`EventExplained`), and the event is the one that the first record names. Every
record with a positive sum of weights can be replayed. -/
theorem turns_are_explained (setting : Setting Float) (world : World Float A G) :
    let advanced := (world.advance setting).2
    let turn := world.runTurn setting
    (advanced.life.isActive = false → turn.1.traces = [] ∧ turn.1.event = none) ∧
      (advanced.life.isActive = true →
        EventExplained setting advanced turn.1.event turn.1.choice turn.1.bucket turn.1.traces
          turn.2.scene ∧
        ∃ trace later, turn.1.traces = trace :: later ∧ turn.1.event = trace.chosen) ∧
      ∀ trace ∈ turn.1.traces, trace.Replays := by
  intro advanced turn
  cases hactive : advanced.life.isActive with
  | false =>
    have hturn : turn = _ := runTurn_of_over hactive
    rw [hturn]
    exact ⟨fun _ ↦ ⟨rfl, rfl⟩, fun h ↦ absurd h Bool.false_ne_true,
      fun _ htrace ↦ absurd htrace List.not_mem_nil⟩
  | true =>
    have hexplained : EventExplained setting advanced turn.1.event turn.1.choice turn.1.bucket
        turn.1.traces turn.2.scene := by
      have hturn : turn = _ := runTurn_of_active hactive
      rw [hturn]
      exact eventExplained_happen not_positive_nothing setting rfl rfl rfl rfl advanced
    exact ⟨fun h ↦ absurd h.symm Bool.false_ne_true, fun _ ↦ ⟨hexplained, hexplained.event_eq⟩,
      hexplained.replays⟩

end World

end LifeStory
