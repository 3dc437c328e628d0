import LifeStory.Proofs.Offers
import LifeStory.Scalar.Float

/-!
# Unique events

A unique event that nothing resets takes place once at most, in any mix of turns with and without a
player. What carries this is that an event which has taken place is never forgotten
(`Life.Change.spent`), and that it is neither drawn nor offered again: a turn without a player draws
among the events that may take place, and an offer that is answered calls later still fits the state
that it is answered in (`Session.Fit`).

Over a run it is counted: the number of reports on the event, and whether it had taken place before,
add up to no more than whether it has taken place since.
-/

namespace LifeStory

namespace Life

variable {R : Type} {life next : Life R} {x : String}

/-- An event has taken place. -/
def Spent (x : String) (life : Life R) : Prop := life.triggered.contains x = true

/-- One for an event that has taken place. -/
def mark (x : String) (life : Life R) : Nat := if life.triggered.contains x then 1 else 0

theorem mark_of_spent (h : life.Spent x) : life.mark x = 1 := if_pos h

theorem mark_of_not_spent (h : ¬ life.Spent x) : life.mark x = 0 := if_neg h

theorem mark_le_one (x : String) (life : Life R) : life.mark x ≤ 1 := by
  rw [mark]
  split <;> omega

/-- What has taken place is not forgotten unless it is reset. -/
theorem Change.spent [Scalar R] {catalog : Catalog R}
    (h : Change catalog (· ≠ .resetEvent x) life next) (hspent : life.Spent x) : next.Spent x := by
  cases h with
  | settle =>
    rcases life.settleDebt_cases with hsettle | ⟨_, _, hsettle⟩ <;> rw [hsettle] <;> exact hspent
  | obey directive hallowed obeyed =>
    by_cases hreset : ∃ event, directive = .resetEvent event
    · obtain ⟨event, rfl⟩ := hreset
      have hne : event ≠ x := fun heq ↦ hallowed (congrArg _ heq)
      obtain rfl := Option.some.inj obeyed
      show (life.triggered.erase event).contains x = true
      rwa [StringMap.contains, StringMap.get?_erase_of_ne _ hne]
    · have htriggered := (kept_of_obey? obeyed).triggered fun event heq ↦ hreset ⟨event, heq⟩
      rwa [Spent, htriggered]
  | stage event => exact StringMap.contains_insert hspent event ()
  | grow | wearStatuses | wearModifiers | note | choose | die | close => exact hspent

/-- Along a course without a reset of it, an event that has taken place is not forgotten. -/
theorem Course.spent [Scalar R] {catalog : Catalog R}
    (h : Course catalog (· ≠ .resetEvent x) life next) (hspent : life.Spent x) : next.Spent x :=
  h.keeps (fun _ _ hchange ↦ hchange.spent) hspent

/-- A report on what happened between two lives, of which the later one forgets nothing: if the
event took place, it had not before. -/
structure Spends (x : String) (report : TurnReport R) (life next : Life R) : Prop where
  keeps : life.Spent x → next.Spent x
  once : report.event = some x → ¬ life.Spent x ∧ next.Spent x

/-- A report on something else. -/
theorem Spends.of_none {report : TurnReport R} (h : report.event = none)
    (keeps : life.Spent x → next.Spent x) : Spends x report life next :=
  ⟨keeps, fun hevent ↦ by rw [h] at hevent; cases hevent⟩

/-- A mark is kept as long as nothing is forgotten. -/
theorem mark_le_of_keeps (h : life.Spent x → next.Spent x) : life.mark x ≤ next.mark x := by
  by_cases hspent : life.Spent x
  · have hlife := mark_of_spent hspent
    have hnext := mark_of_spent (h hspent)
    omega
  · have hlife := mark_of_not_spent hspent
    omega

/-- The marks count the report. -/
theorem Spends.count {report : TurnReport R} (h : Spends x report life next) :
    (if report.event = some x then 1 else 0) + life.mark x ≤ next.mark x := by
  by_cases hevent : report.event = some x
  · obtain ⟨hbefore, hsince⟩ := h.once hevent
    have hlife := mark_of_not_spent hbefore
    have hnext := mark_of_spent hsince
    rw [if_pos hevent]
    omega
  · have hkept := mark_le_of_keeps h.keeps
    rw [if_neg hevent]
    omega

end Life

open Life (Spends)

/-! ### Worlds -/

/-- All events with an id are unique, and no directive of a choice or a status effect resets it. -/
structure Catalog.Once {R : Type} (catalog : Catalog R) (x : String) : Prop where
  unique : ∀ event ∈ catalog.events, event.id = x → event.unique = true
  only : catalog.Only (· ≠ .resetEvent x)

/-- A unique event that may take place has not yet. -/
theorem Catalog.not_spent_of_eligible {R : Type} [Scalar R] {catalog : Catalog R}
    {showTests : Bool} {life : Life R} {event : Event R}
    (h : event ∈ catalog.eligible showTests life) (hunique : event.unique = true) :
    ¬ life.Spent event.id := by
  have heligible : catalog.isEligible showTests life event = true := (List.mem_filter.1 h).2
  intro hspent
  rw [Life.Spent] at hspent
  simp [isEligible, isOpen, hunique, hspent] at heligible

namespace World

variable {R A G : Type} [Scalar R] [AchievementSink A] [RandomSource G] {setting : Setting R}
  {x : String}

omit [AchievementSink A] in
/-- An event that is staged has taken place. -/
theorem spent_stage (origin : Origin) (world : World R A G) :
    (world.stage origin).life.Spent origin.id :=
  StringMap.contains_insert_self _ origin.id ()

/-- The report tells of the event that is lived through. -/
theorem event_liveThrough (event : Event R) (report : TurnReport R) (world : World R A G) :
    (world.liveThrough setting event report).1.event = some event.id := by
  cases hchoice : (world.choosing setting event).1 with
  | some choice =>
    rw [liveThrough_of_some hchoice]
    rfl
  | none =>
    rw [liveThrough_of_none hchoice]
    rfl

/-- **A turn spends the event that it reports**, which had not taken place before. -/
theorem spends_runTurn (h : setting.catalog.Once x) (world : World R A G) :
    Spends x (world.runTurn setting).1 world.life (world.runTurn setting).2.life := by
  have hkeeps := (runTurn_course h.only world).spent
  have hadvance := (advance_course h.only world).spent
  cases hactive : (world.advance setting).2.life.isActive with
  | false =>
    rw [runTurn_of_over hactive] at hkeeps ⊢
    exact .of_none rfl hkeeps
  | true =>
    rw [runTurn_of_active hactive] at hkeeps ⊢
    cases hevent : ((world.advance setting).2.drawEvent setting).1 with
    | none =>
      rw [happen_of_none hevent] at hkeeps ⊢
      exact .of_none rfl hkeeps
    | some event =>
      have heligible := mem_of_drawEvent hevent
      have hcatalog : event ∈ setting.catalog.events := (List.mem_filter.1 heligible).1
      rw [happen_of_some hevent] at hkeeps ⊢
      refine ⟨hkeeps, fun htold ↦ ?_⟩
      -- The report names the event that was drawn, which may take place after time has passed.
      have hid : event.id = x := Option.some.inj ((event_liveThrough event _ _).symm.trans htold)
      subst hid
      have hbefore := Catalog.not_spent_of_eligible heligible (h.unique event hcatalog rfl)
      refine ⟨fun hspent ↦ hbefore (hadvance hspent), ?_⟩
      exact (liveThrough_course (h.only.choices event hcatalog) _ _).spent (spent_stage _ _)

/-- No event takes place when a manual turn begins. -/
theorem event_beginManual (world : World R A G) :
    (world.beginManual setting).1.report.event = none := by
  cases hactive : (world.advance setting).2.life.isActive with
  | true =>
    rw [beginManual_of_active hactive]
    rfl
  | false =>
    rw [beginManual_of_over hactive]
    rfl

theorem event_passTime (world : World R A G) :
    (world.passTime setting).1.report.event = none := by
  show ((world.note .system none timePassesLine).beginManual setting).1.report.event = none
  exact event_beginManual _

/-- A candidate that fits spends its event, which had not taken place before. -/
theorem spends_resolve (h : setting.catalog.Once x) {candidate : Candidate R}
    {world : World R A G} (hfits : candidate.Fits setting world.life) :
    Spends x (world.resolve setting candidate).1 world.life
      (world.resolve setting candidate).2.life := by
  obtain ⟨event, heligible, horigin, hchoice⟩ := hfits
  have hcatalog : event ∈ setting.catalog.events := (List.mem_filter.1 heligible).1
  have hallowed := h.only.choices event hcatalog candidate.choice (List.mem_filter.1 hchoice).1
  have hstage : Life.Course setting.catalog (· ≠ .resetEvent x) world.life
      (world.stage candidate.origin).life := stage_course candidate.origin world
  have hresolve : (world.stage candidate.origin).life.Spent x →
      (world.resolve setting candidate).2.life.Spent x :=
    Life.Course.spent (resolve_course hallowed world)
  refine ⟨hresolve ∘ hstage.spent, fun htold ↦ ?_⟩
  -- The offer still fits, so the event that it belongs to had not taken place either.
  have hid : candidate.origin.id = x := Option.some.inj htold
  have hevent : event.id = x := by rw [← hid, horigin]
  have hbefore := Catalog.not_spent_of_eligible heligible (h.unique event hcatalog hevent)
  rw [hevent] at hbefore
  exact ⟨hbefore, hresolve (hid ▸ spent_stage candidate.origin world)⟩

end World

/-! ### Sessions -/

namespace Session

variable {R A G : Type} [Scalar R] [AchievementSink A] {x : String} {session : Session R A G}

/-- How many of the reports tell of an event. -/
def tellings (x : String) (reports : List (TurnReport R)) : Nat :=
  reports.countP fun r ↦ r.event = some x

omit [Scalar R] in
theorem tellings_cons (x : String) (report : TurnReport R) (rest : List (TurnReport R)) :
    tellings x (report :: rest) = (if report.event = some x then 1 else 0) + tellings x rest := by
  rw [tellings, List.countP_cons, Nat.add_comm]
  simp [tellings]

omit [Scalar R] in
/-- One report tells of the event as often as the marks say. -/
theorem tellings_of_spends {report : TurnReport R} {life next : Life R}
    (h : Spends x report life next) : tellings x [report] + life.mark x ≤ next.mark x := by
  have hcount := h.count
  rw [tellings_cons]
  exact hcount

theorem spends_runTurn [RandomSource G] (h : session.setting.catalog.Once x) :
    Spends x session.runTurn.1 session.life session.runTurn.2.life :=
  World.spends_runTurn h session.world

theorem tellings_runUntilOver [RandomSource G] (h : session.setting.catalog.Once x)
    (turns : Nat) :
    tellings x (session.runUntilOver turns).1 + session.life.mark x ≤
      (session.runUntilOver turns).2.life.mark x := by
  induction turns generalizing session with
  | zero => exact Nat.le_of_eq (Nat.zero_add _)
  | succ turns ih =>
    cases hactive : session.life.isActive with
    | true =>
      rw [runUntilOver_of_active hactive, tellings_cons]
      have hfirst := (spends_runTurn h).count
      have hrest := @ih session.runTurn.2 h
      show _ + tellings x (session.runTurn.2.runUntilOver turns).1 + session.life.mark x ≤
        (session.runTurn.2.runUntilOver turns).2.life.mark x
      omega
    | false =>
      rw [runUntilOver_of_over hactive]
      exact Nat.le_of_eq (Nat.zero_add _)

variable [SeededSource G]

/-- **A move tells of a unique event only if it had not taken place, and then it has.** -/
theorem tellings_move (h : session.setting.catalog.Once x) (hfit : session.Fit) (m : Move) :
    tellings x (session.move m).1.turnReports + session.life.mark x ≤
      (session.move m).2.life.mark x := by
  have hkeeps : session.life.Spent x → (session.move m).2.life.Spent x :=
    Life.Course.spent (move_course (hfit.only h.only) m)
  cases m with
  | runTurn => exact tellings_of_spends (spends_runTurn h)
  | runUntilOver turns => exact tellings_runUntilOver h turns
  | beginManual =>
    exact tellings_of_spends (.of_none session.world.event_beginManual hkeeps)
  | choose offered =>
    have hmove : session.move (.choose offered) =
      (session.choose offered).map (Answer.ofExcept Answer.report) id := rfl
    rcases session.choose_cases offered with ⟨candidate, -, hfind, hchoose⟩ | ⟨_, hrefused⟩
    · rw [hmove, hchoose]
      exact tellings_of_spends
        (World.spends_resolve h (hfit candidate (List.mem_of_find?_eq_some hfind)))
    · rw [hmove, hrefused]
      exact Nat.le_of_eq (Nat.zero_add _)
  | timePasses =>
    have hmove : session.move .timePasses =
      session.timePasses.map (Answer.ofExcept Answer.turn) id := rfl
    rw [hmove] at hkeeps ⊢
    rcases session.timePasses_cases with ⟨-, hpassed⟩ | hrefused
    · rw [hpassed] at hkeeps ⊢
      exact tellings_of_spends (.of_none session.world.event_passTime hkeeps)
    · rw [hrefused]
      exact Nat.le_of_eq (Nat.zero_add _)
  | triggerEnding ending =>
    have hmark := Life.mark_le_of_keeps hkeeps
    show 0 + session.life.mark x ≤ (session.move (.triggerEnding ending)).2.life.mark x
    omega
  | reseed seed => exact Nat.le_of_eq (Nat.zero_add _)

/-- The marks count the reports of a run. -/
theorem tellings_goOn (h : session.setting.catalog.Once x) (hfit : session.Fit)
    (moves : List Move) :
    tellings x ((session.goOn moves).1.flatMap Answer.turnReports) + session.life.mark x ≤
      (session.goOn moves).2.life.mark x := by
  induction moves generalizing session with
  | nil => exact Nat.le_of_eq (Nat.zero_add _)
  | cons m rest ih =>
    have hsetting : (session.move m).2.setting = session.setting := session.setting_call (.move m)
    have hfirst := tellings_move h hfit m
    have hrest := @ih (session.move m).2 (hsetting ▸ h) (hfit.call (.move m))
    rw [goOn_cons, List.flatMap_cons]
    show tellings x (_ ++ _) + _ ≤ ((session.move m).2.goOn rest).2.life.mark x
    rw [tellings, List.countP_append]
    rw [tellings] at hfirst hrest
    omega

omit [Scalar R] in
/-- Reports that never tell of an event are counted as none, and the other way round. -/
theorem tellings_eq_zero {reports : List (TurnReport R)} :
    tellings x reports = 0 ↔ ∀ r ∈ reports, r.event ≠ some x := by
  simp [tellings, List.countP_eq_zero]

/-- **A unique event takes place once at most.** If all events with an id are unique, and no
directive of a choice or of a status effect resets it, then of the turns of a run, with and without
a player in any order, at most one is reported to be about it, and none if it had taken place
before. -/
theorem unique_event_takes_place_once {setting : Setting R} (h : setting.catalog.Once x)
    (world : World R A G) (moves : List Move) :
    let reports := ((idle setting world).goOn moves).1.flatMap Answer.turnReports
    reports.countP (fun r ↦ r.event = some x) ≤ 1 ∧
      (world.life.triggered.contains x = true → ∀ r ∈ reports, r.event ≠ some x) := by
  intro reports
  have hcount : tellings x reports + (idle setting world).life.mark x ≤
      ((idle setting world).goOn moves).2.life.mark x :=
    tellings_goOn h (fit_idle setting world) moves
  have hlast := Life.mark_le_one x ((idle setting world).goOn moves).2.life
  refine ⟨?_, fun hspent ↦ tellings_eq_zero.1 ?_⟩
  · show tellings x reports ≤ 1
    omega
  · have hmark : (idle setting world).life.mark x = 1 := Life.mark_of_spent hspent
    omega

/-- A catalog of one event, a wedding, that takes place once. -/
def weddingCatalog : Catalog Float :=
  { Catalog.ofBase .empty with
    events := [⟨"wedding", "", "", [], [.plain (some "yes") "Yes"], [], none, true, false⟩] }

/-- A life without divorce has one wedding, also when the player hesitates. -/
theorem one_wedding_takes_place :
    weddingCatalog.Once "wedding" ∧
      (((idle ⟨weddingCatalog, .default⟩ ⟨Life.fresh 50, ⟨.empty, []⟩, .ofSeed 7⟩ :
        Session Float Ledger Xoshiro).goOn [.beginManual, .timePasses, .runTurn, .runUntilOver 9]
          ).1.flatMap Answer.turnReports).countP (fun r ↦ r.event = some "wedding") ≤ 1 := by
  have honce : weddingCatalog.Once "wedding" := by
    refine ⟨?_, ?_, fun id effect heffect ↦ ?_⟩
    · simp [weddingCatalog]
    · simp [weddingCatalog, Choice.plain, Choice.allOutcomes]
    · cases heffect
  exact ⟨honce, (unique_event_takes_place_once honce _ _).1⟩

end Session

end LifeStory
