import LifeStory.Proofs.Answers
import LifeStory.Proofs.Unique

/-!
# Hidden events

An event is hidden from a life when its tags keep it from every life, or when it is locked, the life
has not unlocked it, and nothing that the catalog authors ever does (`Setting.Hides`). Hidden events
stay hidden: the set of unlocked events grows by directives that unlock alone
(`Life.Change.shut`), and wherever an event comes up it was among those that may take place, in a
turn without a player as in an offer (`Setting.Hides.id_ne`).
-/

namespace LifeStory

/-! ### What hides an event -/

/-- The tags that keep an event from taking place in any life. -/
def Event.Banned {R : Type} (event : Event R) (config : Config R) : Prop :=
  metaTag ∈ event.tags ∨ testTag ∈ event.tags ∧ config.showTestEvents = false

/-- No directive that the catalog authors unlocks an event. -/
structure Catalog.NeverUnlocks {R : Type} (catalog : Catalog R) (x : String) : Prop where
  only : catalog.Only (· ≠ .unlockEvent x)
  talents : ∀ talent ∈ catalog.talents, ∀ directive ∈ talent.effects, directive ≠ .unlockEvent x

/-- All events with an id are hidden from a life. -/
def Setting.Hides {R : Type} (setting : Setting R) (life : Life R) (x : String) : Prop :=
  ∀ event ∈ setting.catalog.events, event.id = x →
    event.Banned setting.config ∨
      event.locked = true ∧ life.unlocked.contains x = false ∧ setting.catalog.NeverUnlocks x

/-- A directive does not unlock an event, unless its tags keep it from taking place anyhow. -/
def Setting.Harmless {R : Type} (setting : Setting R) (x : String) (directive : Directive R) :
    Prop :=
  directive = .unlockEvent x →
    ∀ event ∈ setting.catalog.events, event.id = x → event.Banned setting.config

section Lives

variable {R : Type} {setting : Setting R} {life next : Life R} {x : String}

/-- Where an event is hidden, the catalog authors nothing that would bring it up. -/
theorem Setting.Hides.only (h : setting.Hides life x) :
    setting.catalog.Only (setting.Harmless x) := by
  refine ⟨fun event hevent choice hchoice directive hdirective hunlocks hidden hhidden hid ↦ ?_,
    fun id effect heffect directive hdirective hunlocks hidden hhidden hid ↦ ?_⟩
  all_goals rcases h hidden hhidden hid with hbanned | ⟨-, -, hnever⟩
  · exact hbanned
  · exact absurd hunlocks (hnever.only.choices event hevent choice hchoice directive hdirective)
  · exact hbanned
  · exact absurd hunlocks (hnever.only.effects id effect heffect directive hdirective)

theorem Setting.Hides.talents (h : setting.Hides life x) :
    ∀ talent ∈ setting.catalog.talents, ∀ directive ∈ talent.effects,
      setting.Harmless x directive := by
  intro talent htalent directive hdirective hunlocks hidden hhidden hid
  rcases h hidden hhidden hid with hbanned | ⟨-, -, hnever⟩
  · exact hbanned
  · exact absurd hunlocks (hnever.talents talent htalent directive hdirective)

variable [Scalar R]

/-- **Hidden events may not take place.** -/
theorem Setting.Hides.id_ne (h : setting.Hides life x) {event : Event R}
    (hevent : event ∈ setting.catalog.eligible setting.config.showTestEvents life) :
    event.id ≠ x := by
  intro hid
  obtain ⟨hcatalog, heligible⟩ := List.mem_filter.1 hevent
  rcases h event hcatalog hid with (hmeta | ⟨htest, hshow⟩) | ⟨hlocked, hshut, -⟩
  · simp [Catalog.isEligible, Catalog.isOpen, hmeta] at heligible
  · simp [Catalog.isEligible, Catalog.isOpen, htest, hshow] at heligible
  · simp [Catalog.isEligible, Catalog.isOpen, hid, hlocked, hshut] at heligible

/-- A choice of a hidden event does not fit. -/
theorem Candidate.Fits.origin_ne {candidate : Candidate R} (h : candidate.Fits setting life)
    (hhides : setting.Hides life x) : candidate.origin.id ≠ x := by
  obtain ⟨event, hevent, horigin, -⟩ := h
  rw [horigin]
  exact hhides.id_ne hevent

/-! ### What keeps it hidden -/

/-- What is not unlocked stays so unless a directive unlocks it. -/
theorem Life.Change.shut {catalog : Catalog R} {allowed : Directive R → Prop}
    (h : Change catalog allowed life next) (hallowed : ¬ allowed (.unlockEvent x))
    (hshut : life.unlocked.contains x = false) : next.unlocked.contains x = false := by
  cases h with
  | settle =>
    rcases life.settleDebt_cases with hsettle | ⟨_, _, hsettle⟩ <;> rw [hsettle] <;> exact hshut
  | obey directive hdirective obeyed =>
    by_cases hunlock : ∃ event, directive = .unlockEvent event
    · obtain ⟨event, rfl⟩ := hunlock
      have hne : x ≠ event := fun heq ↦ hallowed (heq ▸ hdirective)
      obtain rfl := Option.some.inj obeyed
      rw [← Bool.not_eq_true] at hshut ⊢
      rw [StringSet.contains_add, not_or]
      exact ⟨hne, hshut⟩
    · rwa [(kept_of_obey? obeyed).unlocked fun event heq ↦ hunlock ⟨event, heq⟩]
  | grow | wearStatuses | wearModifiers | note | stage | choose | die | close => exact hshut

/-- **Hidden events stay hidden in every change.** -/
theorem Life.Change.hides (h : Change setting.catalog (setting.Harmless x) life next)
    (hhides : setting.Hides life x) : setting.Hides next x := by
  by_cases hbanned : ∀ event ∈ setting.catalog.events, event.id = x → event.Banned setting.config
  · exact fun event hevent hid ↦ .inl (hbanned event hevent hid)
  · -- An event is hidden by its lock alone, so nothing that is harmless unlocks it.
    have hharm : ¬ setting.Harmless x (.unlockEvent x) := fun hharmless ↦ hbanned (hharmless rfl)
    intro event hevent hid
    exact (hhides event hevent hid).imp_right fun ⟨hlocked, hshut, hnever⟩ ↦
      ⟨hlocked, h.shut hharm hshut, hnever⟩

/-- Along a course that is harmless the event stays hidden. -/
theorem Life.Course.hides (h : Course setting.catalog (setting.Harmless x) life next)
    (hhides : setting.Hides life x) : setting.Hides next x :=
  h.keeps (fun _ _ hchange ↦ hchange.hides) hhides

/-- Nothing is unlocked in a life that begins, so that what was hidden from another life is hidden
from it. -/
theorem Setting.Hides.begin {A G : Type} [AchievementSink A] [RandomSource G]
    (h : setting.Hides life x) (logCapacity : Nat) (talents : List String) (scene : Scene R A G) :
    setting.Hides (scene.begin setting.catalog logCapacity talents).life x := by
  refine Scene.begin_induction (P := fun born ↦ setting.Hides born x) h.talents (fun chosen ↦ ?_)
    (fun _ _ hborn ↦ hborn) (fun _ _ hchange ↦ hchange.hides) talents scene
  intro event hevent hid
  exact (h event hevent hid).imp_right fun ⟨hlocked, _, hnever⟩ ↦ ⟨hlocked, rfl, hnever⟩

end Lives

/-! ### Turns without a player -/

/-- **A hidden event does not take place in a turn.** -/
theorem World.event_runTurn_ne {R A G : Type} [Scalar R] [AchievementSink A] [RandomSource G]
    {setting : Setting R} {world : World R A G} {x : String} (h : setting.Hides world.life x) :
    (world.runTurn setting).1.event ≠ some x := by
  have hadvanced := (advance_course h.only world).hides h
  cases hactive : (world.advance setting).2.life.isActive with
  | false =>
    rw [runTurn_of_over hactive]
    intro htold
    cases htold
  | true =>
    rw [runTurn_of_active hactive]
    cases hevent : ((world.advance setting).2.drawEvent setting).1 with
    | none =>
      rw [happen_of_none hevent]
      intro htold
      cases htold
    | some event =>
      rw [happen_of_some hevent]
      intro htold
      -- The report names the event that was drawn from those that may take place.
      have hid := Option.some.inj ((event_liveThrough event _ _).symm.trans htold)
      exact hadvanced.id_ne (mem_of_drawEvent hevent) hid

/-! ### Sessions -/

/-- An answer that tells nothing of an event, and offers none of its choices. -/
structure Answer.Conceals {R : Type} (answer : Answer R) (x : String) : Prop where
  reports : ∀ report ∈ answer.turnReports, report.event ≠ some x
  offer : ∀ offered, answer.offer? = some offered → ∀ candidate ∈ offered,
    candidate.origin.id ≠ x

namespace Session

variable {R A G : Type} [Scalar R] [AchievementSink A] {session : Session R A G} {x : String}

theorem event_runUntilOver_ne [RandomSource G] (h : session.setting.Hides session.life x)
    (turns : Nat) : ∀ report ∈ (session.runUntilOver turns).1, report.event ≠ some x := by
  induction turns generalizing session with
  | zero => exact fun _ hreport ↦ absurd hreport List.not_mem_nil
  | succ turns ih =>
    cases hactive : session.life.isActive with
    | true =>
      rw [runUntilOver_of_active hactive]
      have hnext : session.setting.Hides session.runTurn.2.life x :=
        (World.runTurn_course h.only session.world).hides h
      exact List.forall_mem_cons.2 ⟨World.event_runTurn_ne h, @ih session.runTurn.2 hnext⟩
    | false =>
      rw [runUntilOver_of_over hactive]
      exact fun _ hreport ↦ absurd hreport List.not_mem_nil

variable [SeededSource G]

/-- No call brings a hidden event to light. -/
theorem hides_call (h : session.setting.Hides session.life x) (hfit : session.Fit) (c : Call) :
    session.setting.Hides (session.call c).2.life x := by
  cases c with
  | move m => exact (move_course (hfit.only h.only) m).hides h
  | reset talents => exact h.begin _ talents session.world.scene

theorem event_call_ne (h : session.setting.Hides session.life x) (hfit : session.Fit) (c : Call) :
    ∀ report ∈ (session.call c).1.turnReports, report.event ≠ some x := by
  have hnone : ∀ report : TurnReport R, report.event = none →
      ∀ r ∈ [report], r.event ≠ some x := by
    intro report hnone r hr hevent
    rw [List.mem_singleton.1 hr, hnone] at hevent
    cases hevent
  match c with
  | .move .runTurn =>
    exact fun r hr ↦ List.mem_singleton.1 hr ▸ World.event_runTurn_ne h
  | .move (.runUntilOver turns) => exact event_runUntilOver_ne h turns
  | .move .beginManual => exact hnone _ session.world.event_beginManual
  | .move (.choose id) =>
    show ∀ r ∈ (Answer.ofExcept Answer.report (session.choose id).1).turnReports, r.event ≠ some x
    rcases session.choose_cases id with ⟨candidate, -, hfind, hchoose⟩ | ⟨_, hrefused⟩
    · have horigin := (hfit candidate (List.mem_of_find?_eq_some hfind)).origin_ne h
      rw [hchoose]
      intro r hr hevent
      rw [List.mem_singleton.1 hr] at hevent
      exact horigin (Option.some.inj hevent)
    · rw [hrefused]
      exact fun _ hr ↦ absurd hr List.not_mem_nil
  | .move .timePasses =>
    show ∀ r ∈ (Answer.ofExcept Answer.turn session.timePasses.1).turnReports, r.event ≠ some x
    rcases session.timePasses_cases with ⟨-, hpassed⟩ | hrefused
    · rw [hpassed]
      exact hnone _ session.world.event_passTime
    · rw [hrefused]
      exact fun _ hr ↦ absurd hr List.not_mem_nil
  | .move (.triggerEnding _) | .move (.reseed _) | .reset _ =>
    exact fun _ hr ↦ absurd hr List.not_mem_nil

/-- What a call offers is open after it. -/
theorem pending_call_of_offer {c : Call} {offered : List (Candidate R)}
    (h : (session.call c).1.offer? = some offered) : (session.call c).2.pending = offered := by
  cases hopens : c.opens with
  | false =>
    rw [(session.call_of_not_opens hopens).1] at h
    cases h
  | true =>
    match c with
    | .move .beginManual => exact Option.some.inj h
    | .move .timePasses =>
      change (Answer.ofExcept Answer.turn session.timePasses.1).offer? = some offered at h
      show session.timePasses.2.pending = offered
      rcases session.timePasses_cases with ⟨-, hpassed⟩ | hrefused
      · rw [hpassed] at h ⊢
        exact Option.some.inj h
      · rw [hrefused] at h
        cases h

theorem conceals_call (h : session.setting.Hides session.life x) (hfit : session.Fit) (c : Call) :
    (session.call c).1.Conceals x := by
  refine ⟨event_call_ne h hfit c, fun offered hoffer candidate hcandidate ↦ ?_⟩
  -- What is offered fits the life that the call leaves, from which the event is still hidden.
  have hnext := hides_call h hfit c
  rw [← session.setting_call c] at hnext
  rw [← pending_call_of_offer hoffer] at hcandidate
  exact (hfit.call c candidate hcandidate).origin_ne hnext

/-- Whatever is called for, every answer conceals a hidden event. -/
theorem conceals_play (h : session.setting.Hides session.life x) (hfit : session.Fit)
    (calls : List Call) : (∀ answer ∈ (session.play calls).1, answer.Conceals x) ∧
      session.setting.Hides (session.play calls).2.life x := by
  induction calls generalizing session with
  | nil => exact ⟨fun _ hanswer ↦ absurd hanswer List.not_mem_nil, h⟩
  | cons c rest ih =>
    have hsetting : (session.call c).2.setting = session.setting := session.setting_call c
    have hnext := hides_call h hfit c
    obtain ⟨hrest, hlast⟩ := @ih (session.call c).2 (hsetting ▸ hnext) (hfit.call c)
    rw [hsetting] at hlast
    exact ⟨List.forall_mem_cons.2 ⟨conceals_call h hfit c, hrest⟩, hlast⟩

/-- **Hidden events stay hidden.** Let all events with an id be hidden from a life: by a tag of
those that never take place, by the tag of those for testing where these are not shown, or by a lock
that nothing authored opens and that is not open yet. Whatever is asked then of a session that goes
on with this life, also that other runs begin, no report tells of such an event, and no choice of it
is offered or open. -/
theorem hidden_events_stay_hidden {setting : Setting R} {world : World R A G}
    (h : setting.Hides world.life x) (calls : List Call) :
    let played := (idle setting world).play calls
    (∀ report ∈ played.1.flatMap Answer.turnReports, report.event ≠ some x) ∧
      (∀ offered ∈ played.1.filterMap Answer.offer?, ∀ candidate ∈ offered,
        candidate.origin.id ≠ x) ∧
      ∀ candidate ∈ played.2.pending, candidate.origin.id ≠ x := by
  intro played
  have hfit : (idle setting world).Fit := fit_idle setting world
  obtain ⟨hanswers, hlast⟩ : (∀ answer ∈ played.1, answer.Conceals x) ∧
      setting.Hides played.2.life x := conceals_play h hfit calls
  refine ⟨fun report hreport ↦ ?_, fun offered hoffered ↦ ?_, fun candidate hcandidate ↦ ?_⟩
  · obtain ⟨answer, hanswer, hmem⟩ := List.mem_flatMap.1 hreport
    exact (hanswers answer hanswer).reports report hmem
  · obtain ⟨answer, hanswer, hoffer⟩ := List.mem_filterMap.1 hoffered
    exact (hanswers answer hanswer).offer offered hoffer
  · have hsetting : played.2.setting = setting := setting_play (idle setting world) calls
    have hlastFit := hfit.play calls candidate hcandidate
    exact hlastFit.origin_ne (hsetting.symm ▸ hlast)

/-- A catalog of a house: its hall is open, its cellar locked, and its plan is not part of play. -/
def houseCatalog : Catalog Float :=
  { Catalog.ofBase .empty with
    events := [⟨"hall", "Hall", "", [], [.plain (some "on") "Go on"], [], none, false, false⟩,
      ⟨"cellar", "Cellar", "", [], [.plain (some "down") "Go down"], [], none, false, true⟩,
      ⟨"cellar", "Plan", "", [], [], [metaTag], none, false, false⟩] }

/-- In the house nobody comes to the cellar, with or without a player, in this life or the next. -/
theorem cellar_stays_shut :
    let setting : Setting Float := ⟨houseCatalog, .default⟩
    let world : World Float Ledger Xoshiro := ⟨Life.fresh 50, ⟨.empty, []⟩, .ofSeed 7⟩
    let calls : List Call := [.move .runTurn, .move .beginManual, .reset [], .move .timePasses]
    setting.Hides world.life "cellar" ∧
      ∀ report ∈ ((idle setting world).play calls).1.flatMap Answer.turnReports,
        report.event ≠ some "cellar" := by
  intro setting world calls
  have hnever : houseCatalog.NeverUnlocks "cellar" := by
    refine ⟨⟨?_, fun id effect heffect ↦ ?_⟩, fun talent htalent ↦ ?_⟩
    · simp [houseCatalog, Choice.plain, Choice.allOutcomes]
    · cases heffect
    · cases htalent
  have hhides : setting.Hides world.life "cellar" := by
    intro event hevent hid
    rcases List.mem_cons.1 hevent with rfl | hevent
    · exact absurd hid (by decide)
    rcases List.mem_cons.1 hevent with rfl | hevent
    · exact .inr ⟨rfl, rfl, hnever⟩
    · exact .inl (.inl (List.mem_singleton.1 hevent ▸ List.mem_singleton_self metaTag))
  exact ⟨hhides, (hidden_events_stay_hidden hhides calls).1⟩

end Session

end LifeStory
