import LifeStory.Proofs.Acts
import LifeStory.Proofs.Offers
import Mathlib.Data.List.Basic

/-!
# The story of a run

Reports tell which events took place, which choices were made and what the debt rule did. Together
with the number of turns that passed over an active run, this is what happened (`Happenings`). A run
goes on by beats (`Life.Beat`), each with what happens in it: a turn passes, an event is taken down,
a choice is taken down, or there is an act of which nothing is reported. A `Life.Story` is a
sequence of beats with all that happens in them.

Every run is a story of what it reports (`Session.goOn_story`). So what holds between the reports of
a run and the life that it comes to is shown beat by beat (`Life.Story.keeps`).
-/

namespace LifeStory

open Life (Act Acts)

/-! ### What happens -/

/-- What happens in a part of a run. -/
structure Happenings where
  /-- How many turns pass over the active run. -/
  turns : Nat
  /-- The events that take place, in order. -/
  events : List String
  /-- The choices with an id that are made, in order. -/
  choices : List String
  /-- What the debt rule does, in order. -/
  debts : List DebtChange
deriving DecidableEq, Repr

namespace Happenings

/-- Nothing happens. -/
def nothing : Happenings := ⟨0, [], [], []⟩

instance : Append Happenings where
  append told more :=
    ⟨told.turns + more.turns, told.events ++ more.events, told.choices ++ more.choices,
      told.debts ++ more.debts⟩

variable (told more last : Happenings)

@[simp] theorem turns_append : (told ++ more).turns = told.turns + more.turns := rfl

@[simp] theorem events_append : (told ++ more).events = told.events ++ more.events := rfl

@[simp] theorem choices_append : (told ++ more).choices = told.choices ++ more.choices := rfl

@[simp] theorem debts_append : (told ++ more).debts = told.debts ++ more.debts := rfl

@[simp] theorem append_nothing : told ++ nothing = told := by
  obtain ⟨turns, events, choices, debts⟩ := told
  show Happenings.mk (turns + 0) (events ++ []) (choices ++ []) (debts ++ []) = _
  simp

@[simp] theorem nothing_append : nothing ++ told = told := by
  obtain ⟨turns, events, choices, debts⟩ := told
  show Happenings.mk (0 + turns) events choices debts = _
  rw [Nat.zero_add]

/-- What happens first and then and last happens in that order, however it is grouped. -/
theorem append_assoc : told ++ more ++ last = told ++ (more ++ last) := by
  show Happenings.mk _ _ _ _ = Happenings.mk _ _ _ _
  simp [Nat.add_assoc]

/-- A turn that passes, and what happens then. -/
theorem pass_append (turns : Nat) (debts : List DebtChange) (events choices : List String) :
    Happenings.mk turns [] [] debts ++ ⟨0, events, choices, []⟩ =
      ⟨turns, events, choices, debts⟩ := by
  show Happenings.mk (turns + 0) ([] ++ events) ([] ++ choices) (debts ++ []) = _
  simp

/-- What reports tell that happened while so many turns passed. -/
def ofReports {R : Type} (turns : Nat) (reports : List (TurnReport R)) : Happenings where
  turns := turns
  events := reports.filterMap TurnReport.event
  choices := reports.filterMap TurnReport.choice
  debts := reports.filterMap TurnReport.debt

/-- What the reports of two parts of a run tell is told by their lists together. -/
theorem ofReports_append {R : Type} (m n : Nat) (first later : List (TurnReport R)) :
    ofReports (m + n) (first ++ later) = ofReports m first ++ ofReports n later := by
  show Happenings.mk _ _ _ _ = Happenings.mk _ _ _ _
  simp [ofReports]

/-- One report tells of an event, a choice and a change of the debt, where there are any. -/
theorem ofReports_singleton {R : Type} (turns : Nat) (report : TurnReport R) :
    ofReports turns [report] =
      ⟨turns, report.event.toList, report.choice.toList, report.debt.toList⟩ := by
  simp [ofReports, List.filterMap_eq_flatMap_toList]

end Happenings

open Happenings (nothing ofReports)

/-! ### Stories -/

namespace Life

variable {R : Type} (A G : Type) [Scalar R] [AchievementSink A] [RandomSource G]

/-- A step of a story, with what happens in it. -/
inductive Beat (setting : Setting R) (allowed : Directive R → Prop) :
    Happenings → Life R → Life R → Prop where
  | act {life next : Life R} (h : Act setting.catalog allowed life next) :
      Beat setting allowed nothing life next
  | pass (scene : Scene R A G) (h : scene.life.isActive = true) :
      Beat setting allowed ⟨1, [], [], (scene.passTurn setting).1.status.debt.toList⟩ scene.life
        (scene.passTurn setting).2.life
  | stage (life : Life R) (event : String) :
      Beat setting allowed ⟨0, [event], [], []⟩ life
        { life with triggered := life.triggered.add event }
  | choose (life : Life R) (choice : String) :
      Beat setting allowed ⟨0, [], [choice], []⟩ life
        { life with chosen := life.chosen.add choice }

/-- A sequence of beats, with all that happens. -/
inductive Story (setting : Setting R) (allowed : Directive R → Prop) :
    Happenings → Life R → Life R → Prop where
  | refl (life : Life R) : Story setting allowed nothing life life
  | tail {told more : Happenings} {life mid next : Life R}
      (story : Story setting allowed told life mid)
      (beat : Beat A G setting allowed more mid next) :
      Story setting allowed (told ++ more) life next

variable {A G} {setting : Setting R} {allowed : Directive R → Prop} {told more : Happenings}
  {life mid next : Life R}

namespace Story

/-- A beat is a story of itself. -/
theorem single (h : Beat A G setting allowed told life next) :
    Story A G setting allowed told life next := by
  have hstory := (Story.refl life).tail h
  rwa [Happenings.nothing_append] at hstory

/-- **A story goes on with another one**, and so does what happens in them. -/
theorem trans (first : Story A G setting allowed told life mid)
    (later : Story A G setting allowed more mid next) :
    Story A G setting allowed (told ++ more) life next := by
  induction later with
  | refl => rwa [Happenings.append_nothing]
  | tail _ beat ih =>
    rw [← Happenings.append_assoc]
    exact (ih first).tail beat

/-- Acts of which nothing is reported are a story in which nothing happens. -/
theorem of_acts (h : Acts setting.catalog allowed life next) :
    Story A G setting allowed nothing life next := by
  induction h with
  | refl => exact .refl life
  | tail _ last ih => exact ih.tail (.act last)

/-- What every beat keeps, in view of what has happened so far, a story keeps. -/
theorem keeps {P : Happenings → Life R → Prop}
    (beat : ∀ told more life next, Beat A G setting allowed more life next → P told life →
      P (told ++ more) next)
    (h : Story A G setting allowed more life next) (hlife : P told life) :
    P (told ++ more) next := by
  induction h with
  | refl => rwa [Happenings.append_nothing]
  | tail _ last ih =>
    rw [← Happenings.append_assoc]
    exact beat _ _ _ _ last (ih hlife)

end Story

end Life

open Life (Story)

/-! ### Worlds -/

/-- How many turns pass over a life when time is let pass. -/
def Life.turnsAhead {R : Type} (life : Life R) : Nat := if life.isActive then 1 else 0

namespace World

variable {R A G : Type} [Scalar R] [AchievementSink A] [RandomSource G] {setting : Setting R}
  {allowed : Directive R → Prop}

/-- Time that passes is a story of one turn, if the run goes on, and of what the debt rule did. -/
theorem advance_story (setting : Setting R) (allowed : Directive R → Prop)
    (world : World R A G) :
    Story A G setting allowed
      ⟨world.life.turnsAhead, [], [], (world.advance setting).1.status.debt.toList⟩
      world.life (world.advance setting).2.life := by
  rw [Life.turnsAhead]
  cases hactive : world.life.isActive with
  | true =>
    rw [advance_of_active hactive]
    exact .single (.pass world.scene hactive)
  | false =>
    rw [advance_of_over hactive]
    exact .refl world.life

/-- The event that is staged is taken down. -/
theorem stage_story (setting : Setting R) (allowed : Directive R → Prop) (origin : Origin)
    (world : World R A G) :
    Story A G setting allowed ⟨0, [origin.id], [], []⟩ world.life (world.stage origin).life := by
  let told := world.life.note .event (Life.titleIfAny (world.render origin.title).1)
    ((world.render origin.title).2.render origin.text).1
  have htold : Story A G setting allowed nothing world.life told :=
    .of_acts (.single (.note world.life .event _ _ (by decide)))
  exact htold.trans (.single (.stage told origin.id))

/-- What a choice comes to is a story of the choice alone, if it has an id. -/
theorem make_story {choice : Choice R} (h : ∀ d ∈ choice.allOutcomes, allowed d)
    (report : TurnReport R) (world : World R A G) :
    Story A G setting allowed ⟨0, [], choice.id.toList, []⟩ world.life
      (world.make setting choice report).2.life := by
  have hmade : Story A G setting allowed nothing _ (world.make setting choice report).2.life :=
    .of_acts (world.make_acts h report)
  cases hid : choice.id with
  | none => rwa [hid] at hmade
  | some id =>
    rw [hid] at hmade
    exact (Story.single (.choose world.life id)).trans hmade

/-- The story of an event that is lived through is what its report tells. -/
theorem liveThrough_story {event : Event R}
    (h : ∀ choice ∈ event.choices, ∀ d ∈ choice.allOutcomes, allowed d) {report : TurnReport R}
    (hchoice : report.choice = none) (world : World R A G) :
    Story A G setting allowed
      ⟨0, (world.liveThrough setting event report).1.event.toList,
        (world.liveThrough setting event report).1.choice.toList, []⟩
      world.life (world.liveThrough setting event report).2.life := by
  have hstaged : Story A G setting allowed ⟨0, [event.id], [], []⟩ world.life
      (world.choosing setting event).2.2.life :=
    world.stage_story setting allowed ⟨event.id, event.title, event.text⟩
  cases hdrawn : (world.choosing setting event).1 with
  | some choice =>
    rw [liveThrough_of_some hdrawn]
    exact hstaged.trans
      (make_story (h choice (List.mem_filter.1 (mem_of_choosing hdrawn)).1) _ _)
  | none =>
    rw [liveThrough_of_none hdrawn]
    show Story A G setting allowed ⟨0, [event.id], report.choice.toList, []⟩ _ _
    rw [hchoice]
    exact hstaged.trans (.of_acts (.single (.note _ .system none _ (by decide))))

/-- Whatever happens in a turn is the story of what its report tells. -/
theorem happen_story (h : setting.catalog.Only allowed) {report : TurnReport R}
    (hevent : report.event = none) (hchoice : report.choice = none) (world : World R A G) :
    Story A G setting allowed
      ⟨0, (world.happen setting report).1.event.toList,
        (world.happen setting report).1.choice.toList, []⟩
      world.life (world.happen setting report).2.life := by
  cases hdrawn : (world.drawEvent setting).1 with
  | some event =>
    have hmem : event ∈ setting.catalog.events := (List.mem_filter.1 (mem_of_drawEvent hdrawn)).1
    rw [happen_of_some hdrawn]
    let named := { report with traces := report.traces ++ [(world.drawEvent setting).2.1] }
    have hnamed : named.choice = none := hchoice
    exact liveThrough_story (h.choices event hmem) hnamed (world.drawEvent setting).2.2
  | none =>
    rw [happen_of_none hdrawn]
    show Story A G setting allowed ⟨0, report.event.toList, report.choice.toList, []⟩ _ _
    rw [hevent, hchoice]
    exact .of_acts (.single (.note world.life .system none _ (by decide)))

/-- What the debt rule did stays in the report. -/
theorem debt_happen (report : TurnReport R) (world : World R A G) :
    (world.happen setting report).1.debt = report.debt := by
  cases hevent : (world.drawEvent setting).1 with
  | none => rw [happen_of_none hevent]
  | some event =>
    rw [happen_of_some hevent]
    cases hchoice : ((world.drawEvent setting).2.2.choosing setting event).1 with
    | none =>
      rw [liveThrough_of_none hchoice]
      rfl
    | some choice =>
      rw [liveThrough_of_some hchoice]
      rfl

/-- **A turn is the story of its report.** -/
theorem runTurn_story (h : setting.catalog.Only allowed) (world : World R A G) :
    Story A G setting allowed (ofReports world.life.turnsAhead [(world.runTurn setting).1])
      world.life (world.runTurn setting).2.life := by
  have hadvance := world.advance_story setting allowed
  rw [Happenings.ofReports_singleton]
  cases hactive : (world.advance setting).2.life.isActive with
  | true =>
    let report : TurnReport R := TurnReport.blank.absorb (world.advance setting).1
    have hevent : report.event = none := rfl
    have hchoice : report.choice = none := rfl
    have hstory := hadvance.trans (happen_story h hevent hchoice (world.advance setting).2)
    rw [Happenings.pass_append] at hstory
    rw [runTurn_of_active hactive]
    show Story A G setting allowed ⟨_, _, _, (happen setting report _).1.debt.toList⟩ _ _
    rw [debt_happen]
    exact hstory
  | false =>
    rw [runTurn_of_over hactive]
    exact hadvance

/-- A manual turn that begins is the story of its report, with no event and no choice in it. -/
theorem beginManual_story (setting : Setting R) (allowed : Directive R → Prop)
    (world : World R A G) :
    Story A G setting allowed
      (ofReports world.life.turnsAhead [(world.beginManual setting).1.report])
      world.life (world.beginManual setting).2.life := by
  have hadvance := world.advance_story setting allowed
  rw [Happenings.ofReports_singleton]
  cases hactive : (world.advance setting).2.life.isActive with
  | true =>
    have hstory := hadvance.trans (.of_acts (world.advance setting).2.gatherOffer_acts)
    rw [Happenings.append_nothing] at hstory
    rw [beginManual_of_active hactive]
    exact hstory
  | false =>
    rw [beginManual_of_over hactive]
    exact hadvance

/-- A candidate that is resolved is the story of its report, in which no turn passes. -/
theorem resolve_story {candidate : Candidate R}
    (h : ∀ d ∈ candidate.choice.allOutcomes, allowed d) (world : World R A G) :
    Story A G setting allowed (ofReports 0 [(world.resolve setting candidate).1])
      world.life (world.resolve setting candidate).2.life := by
  have hstory := (world.stage_story setting allowed candidate.origin).trans
    (make_story h { TurnReport.blank with event := some candidate.origin.id } _)
  rw [Happenings.ofReports_singleton]
  exact hstory

/-- Time that is let pass is the story of the report of the turn that begins after it. -/
theorem passTime_story (setting : Setting R) (allowed : Directive R → Prop)
    (world : World R A G) :
    Story A G setting allowed
      (ofReports world.life.turnsAhead [(world.passTime setting).1.report])
      world.life (world.passTime setting).2.life := by
  let drifting := world.note .system none timePassesLine
  have htold : Story A G setting allowed nothing world.life drifting.life :=
    .of_acts (.single (.note world.life .system none timePassesLine (by decide)))
  have hstory := htold.trans (drifting.beginManual_story setting allowed)
  rw [Happenings.nothing_append, Happenings.ofReports_singleton] at hstory
  rw [Happenings.ofReports_singleton]
  exact hstory

end World

/-! ### Sessions -/

namespace Session

variable {R A G : Type} [Scalar R] [AchievementSink A] [SeededSource G]
  {allowed : Directive R → Prop}

/-- How many turns a move lets pass over an active run. -/
def turnsOf (session : Session R A G) : Move → Nat
  | .runTurn | .beginManual | .timePasses => session.life.turnsAhead
  | .runUntilOver turns => (session.runUntilOver turns).1.length
  | .choose _ | .triggerEnding _ | .reseed _ => 0

/-- How many turns moves let pass over an active run. -/
def turnsIn : Session R A G → List Move → Nat
  | _, [] => 0
  | session, m :: rest => session.turnsOf m + (session.move m).2.turnsIn rest

/-- The turns that are played until a run is over are the story of their reports. -/
theorem runUntilOver_story (turns : Nat) {session : Session R A G}
    (h : session.setting.catalog.Only allowed) :
    Story A G session.setting allowed
      (ofReports (session.runUntilOver turns).1.length (session.runUntilOver turns).1)
      session.life (session.runUntilOver turns).2.life := by
  induction turns generalizing session with
  | zero => exact .refl session.life
  | succ turns ih =>
    cases hactive : session.life.isActive with
    | true =>
      have hahead : session.world.life.turnsAhead = 1 := if_pos hactive
      have hfirst := session.world.runTurn_story h
      have hrest := @ih session.runTurn.2 h
      rw [runUntilOver_of_active hactive, List.length_cons, Nat.add_comm,
        ← List.singleton_append, Happenings.ofReports_append]
      rw [hahead] at hfirst
      exact hfirst.trans hrest
    | false =>
      rw [runUntilOver_of_over hactive]
      exact .refl session.life

/-- **Every move is a story of what it reports.** -/
theorem move_story {session : Session R A G} (h : session.Only allowed) (m : Move) :
    Story A G session.setting allowed
      (ofReports (session.turnsOf m) (session.move m).1.turnReports)
      session.life (session.move m).2.life := by
  cases m with
  | runTurn => exact session.world.runTurn_story h.catalog
  | runUntilOver turns => exact runUntilOver_story turns h.catalog
  | beginManual => exact session.world.beginManual_story session.setting allowed
  | choose offered =>
    have hmove : session.move (.choose offered) =
      (session.choose offered).map (Answer.ofExcept Answer.report) id := rfl
    rw [hmove]
    rcases session.choose_cases offered with ⟨candidate, -, hfind, hchoose⟩ | ⟨_, hrefused⟩
    · have hallowed := h.pending candidate (List.mem_of_find?_eq_some hfind)
      rw [hchoose]
      exact session.world.resolve_story hallowed
    · rw [hrefused]
      exact .refl session.life
  | timePasses =>
    have hmove : session.move .timePasses =
      session.timePasses.map (Answer.ofExcept Answer.turn) id := rfl
    rw [hmove]
    cases hactive : session.life.isActive with
    | true =>
      rw [timePasses_of_active hactive]
      exact session.world.passTime_story session.setting allowed
    | false =>
      have hahead : session.turnsOf .timePasses = 0 := if_neg (ne_true_of_eq_false hactive)
      rw [timePasses_of_over hactive, hahead]
      exact .refl session.life
  | triggerEnding ending => exact .of_acts (session.world.scene.triggerEnding_acts ending)
  | reseed seed => exact .refl session.life

/-- **Every run is a story of what it reports.** -/
theorem goOn_story {session : Session R A G} (h : session.setting.catalog.Only allowed)
    (hfit : session.Fit) (moves : List Move) :
    Story A G session.setting allowed
      (ofReports (session.turnsIn moves) ((session.goOn moves).1.flatMap Answer.turnReports))
      session.life (session.goOn moves).2.life := by
  induction moves generalizing session with
  | nil => exact .refl session.life
  | cons m rest ih =>
    have hsetting : (session.move m).2.setting = session.setting := session.setting_call (.move m)
    have hfirst := move_story (hfit.only h) m
    have hrest := @ih (session.move m).2 (hsetting ▸ h) (hfit.call (.move m))
    rw [goOn_cons, List.flatMap_cons, turnsIn, Happenings.ofReports_append]
    rw [hsetting] at hrest
    exact hfirst.trans hrest

end Session

end LifeStory
