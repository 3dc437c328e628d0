import LifeStory.Proofs.Acts

/-!
# The course of a life

Whatever happens to a life in a run is a sequence of single changes of few kinds (`Life.Change`):
it grows older, the debt rule speaks, a directive changes it, status effects and modifiers wear out,
a line is written, an event or a choice is taken down, it dies, or an ending closes it. A
`Life.Course` is a sequence of such changes, and every call but a reset is one
(`Session.move_course`). To show that all calls keep a property of lives it is enough to look at
single changes.

A course is taken under a condition on directives that whatever the catalog authors has to meet
(`Catalog.Only`). Acts are changes too (`Life.Acts.course`): what is done without time passing, and
without an event or a choice being taken down, is looked at where acts are.
-/

namespace LifeStory

open Relation

namespace Life

variable {R : Type} [Scalar R]

/-! ### Single changes -/

/-- A single change of a life, under a catalog and a condition on directives. -/
inductive Change (catalog : Catalog R) (allowed : Directive R → Prop) :
    Life R → Life R → Prop where
  | grow (life : Life R) (aging : Aging R) : Change catalog allowed life (life.grownOlder aging)
  | settle (life : Life R) : Change catalog allowed life life.settleDebt.2
  | obey {life next : Life R} (directive : Directive R) (h : allowed directive)
      (obeyed : life.obey? catalog directive = some next) : Change catalog allowed life next
  | wearStatuses (life : Life R) (active removed : List String) :
      Change catalog allowed life (life.wearStatuses active removed).2
  | wearModifiers (life : Life R) : Change catalog allowed life life.wearModifiers.2
  /-- Writes a line that tells of no ending. -/
  | note (life : Life R) (kind : LogKind) (title : Option String) (text : String)
      (h : kind ≠ .ending) : Change catalog allowed life (life.note kind title text)
  | stage (life : Life R) (event : String) :
      Change catalog allowed life { life with triggered := life.triggered.add event }
  | choose (life : Life R) (choice : String) :
      Change catalog allowed life { life with chosen := life.chosen.add choice }
  | die (life : Life R) (cause : DeathCause) (h : life.isActive) :
      Change catalog allowed life
        ({ life with alive := false, endReason := some cause.name }.note .ending none
          (overMark ++ " " ++ cause.message))
  | close (life : Life R) (ending : String) (title : Option String) (text : String)
      (h : life.phase ≠ .ended) :
      Change catalog allowed life ((Scene.closed ending life).note .ending title text)

/-- A sequence of single changes. -/
abbrev Course (catalog : Catalog R) (allowed : Directive R → Prop) : Life R → Life R → Prop :=
  ReflTransGen (Change catalog allowed)

/-- What holds between lives across every change, holds across every course. -/
theorem Course.induction {catalog : Catalog R} {allowed : Directive R → Prop}
    {P : Life R → Life R → Prop} (refl : ∀ life, P life life)
    (trans : ∀ a b c, P a b → P b c → P a c)
    (change : ∀ a b, Change catalog allowed a b → P a b) {life next : Life R}
    (h : Course catalog allowed life next) : P life next := by
  induction h with
  | refl => exact refl life
  | tail _ last ih => exact trans _ _ _ ih (change _ _ last)

/-- What every change keeps is kept by a course. -/
theorem Course.keeps {catalog : Catalog R} {allowed : Directive R → Prop} {P : Life R → Prop}
    (change : ∀ life next, Change catalog allowed life next → P life → P next)
    {life next : Life R} (h : Course catalog allowed life next) (hlife : P life) : P next := by
  induction h with
  | refl => exact hlife
  | tail _ last ih => exact change _ _ last ih

/-- An act is a change. -/
theorem Act.change {catalog : Catalog R} {allowed : Directive R → Prop} {life next : Life R}
    (h : Act catalog allowed life next) : Change catalog allowed life next := by
  cases h with
  | obey directive h obeyed => exact .obey directive h obeyed
  | note kind title text h => exact .note life kind title text h
  | die cause h => exact .die life cause h
  | close ending title text h => exact .close life ending title text h

/-- **Acts are a course.** -/
theorem Acts.course {catalog : Catalog R} {allowed : Directive R → Prop} {life next : Life R}
    (h : Acts catalog allowed life next) : Course catalog allowed life next :=
  ReflTransGen.mono (fun _ _ ↦ Act.change) _ _ h

end Life

open Life (Course Change)

/-! ### Scenes -/

namespace Scene

variable {R A G : Type} [Scalar R] [AchievementSink A] [RandomSource G] {catalog : Catalog R}
  {allowed : Directive R → Prop}

/-- An ending takes a life along a course, whether it closes the run or not. -/
theorem triggerEnding_course (id : String) (scene : Scene R A G) :
    Course catalog allowed scene.life (scene.triggerEnding catalog id).2.life :=
  (scene.triggerEnding_acts id).course

/-- Outcomes take a life along a course that obeys the condition on their directives. -/
theorem applyAll_course {outcomes : List (Directive R)} (h : ∀ d ∈ outcomes, allowed d)
    (scene : Scene R A G) :
    Course catalog allowed scene.life (scene.applyAll catalog outcomes).2.life :=
  (scene.applyAll_acts h).course

/-- The outcomes of status effects take a life along a course. -/
theorem actStatuses_course (h : catalog.Only allowed) (active removed : List String)
    (scene : Scene R A G) :
    Course catalog allowed scene.life (scene.actStatuses catalog active removed).2.2.life :=
  (scene.actStatuses_acts h active removed).course

/-- A turn that passes takes a life along a course. -/
theorem passTurn_course {setting : Setting R} (h : setting.catalog.Only allowed)
    (scene : Scene R A G) :
    Course setting.catalog allowed scene.life (scene.passTurn setting).2.life :=
  passTurn_keeps (P := Course setting.catalog allowed scene.life) h
    (fun life hlife ↦ hlife.tail (.settle life)) (fun _ _ hact hlife ↦ hlife.tail hact.change)
    (fun life active removed hlife ↦ hlife.tail (.wearStatuses life active removed))
    (fun life hlife ↦ hlife.tail (.wearModifiers life)) (.single (.grow scene.life _))

end Scene

/-! ### Worlds -/

namespace World

variable {R A G : Type} [Scalar R] [AchievementSink A] [RandomSource G] {setting : Setting R}
  {allowed : Directive R → Prop}

theorem advance_course (h : setting.catalog.Only allowed) (world : World R A G) :
    Course setting.catalog allowed world.life (world.advance setting).2.life := by
  rw [advance]
  split
  · exact world.scene.passTurn_course h
  · exact .refl

omit [AchievementSink A] in
theorem stage_course (origin : Origin) (world : World R A G) :
    Course setting.catalog allowed world.life (world.stage origin).life :=
  .head (.note world.life .event _ _ (by decide)) (.single (.stage _ origin.id))

/-- A choice takes a life along a course that obeys the condition on its outcomes. -/
theorem make_course {choice : Choice R} (h : ∀ d ∈ choice.allOutcomes, allowed d)
    (report : TurnReport R) (world : World R A G) :
    Course setting.catalog allowed world.life (world.make setting choice report).2.life := by
  have hmade : Course setting.catalog allowed _ (world.make setting choice report).2.life :=
    (world.make_acts h report).course
  cases hid : choice.id with
  | none => rwa [hid] at hmade
  | some id =>
    rw [hid] at hmade
    exact .head (.choose world.life id) hmade

/-- After it is taken down, an event takes a life along a course. -/
theorem liveThrough_course {event : Event R}
    (h : ∀ choice ∈ event.choices, ∀ d ∈ choice.allOutcomes, allowed d) (report : TurnReport R)
    (world : World R A G) :
    Course setting.catalog allowed (world.stage ⟨event.id, event.title, event.text⟩).life
      (world.liveThrough setting event report).2.life := by
  cases hchoice : (world.choosing setting event).1 with
  | some choice =>
    rw [liveThrough_of_some hchoice]
    exact make_course (h choice (List.mem_filter.1 (mem_of_choosing hchoice)).1) _
      (world.choosing setting event).2.2
  | none =>
    rw [liveThrough_of_none hchoice]
    exact .single (.note _ .system none _ (by decide))

theorem happen_course (h : setting.catalog.Only allowed) (report : TurnReport R)
    (world : World R A G) :
    Course setting.catalog allowed world.life (world.happen setting report).2.life := by
  cases hevent : (world.drawEvent setting).1 with
  | some event =>
    have hmem : event ∈ setting.catalog.events := (List.mem_filter.1 (mem_of_drawEvent hevent)).1
    rw [happen_of_some hevent]
    exact (stage_course ⟨event.id, event.title, event.text⟩ (world.drawEvent setting).2.2).trans
      (liveThrough_course (h.choices event hmem) _ _)
  | none =>
    rw [happen_of_none hevent]
    exact .single (.note world.life .system none _ (by decide))

/-- **A turn takes a life along a course.** -/
theorem runTurn_course (h : setting.catalog.Only allowed) (world : World R A G) :
    Course setting.catalog allowed world.life (world.runTurn setting).2.life := by
  refine (advance_course h world).trans ?_
  cases hactive : (world.advance setting).2.life.isActive with
  | true =>
    rw [runTurn_of_active hactive]
    exact happen_course h _ (world.advance setting).2
  | false =>
    rw [runTurn_of_over hactive]

/-- A manual turn takes a life along a course, for an offer does nothing to it but write. -/
theorem beginManual_course (h : setting.catalog.Only allowed) (world : World R A G) :
    Course setting.catalog allowed world.life (world.beginManual setting).2.life := by
  refine (advance_course h world).trans ?_
  cases hactive : (world.advance setting).2.life.isActive with
  | true =>
    rw [beginManual_of_active hactive]
    exact (world.advance setting).2.gatherOffer_acts.course
  | false =>
    rw [beginManual_of_over hactive]

theorem resolve_course {candidate : Candidate R}
    (h : ∀ d ∈ candidate.choice.allOutcomes, allowed d) (world : World R A G) :
    Course setting.catalog allowed (world.stage candidate.origin).life
      (world.resolve setting candidate).2.life :=
  make_course h { TurnReport.blank with event := some candidate.origin.id }
    (world.stage candidate.origin)

theorem passTime_course (h : setting.catalog.Only allowed) (world : World R A G) :
    Course setting.catalog allowed world.life (world.passTime setting).2.life :=
  .head (.note world.life .system none timePassesLine (by decide))
    (beginManual_course h (world.note .system none timePassesLine))

end World

/-! ### Sessions -/

/-- All directives that a session may apply meet a condition. -/
structure Session.Only {R A G : Type} (session : Session R A G) (allowed : Directive R → Prop) :
    Prop where
  catalog : session.setting.catalog.Only allowed
  pending : ∀ candidate ∈ session.pending, ∀ directive ∈ candidate.choice.allOutcomes,
    allowed directive

/-- Every session meets the condition that nothing is asked of directives. -/
theorem Session.only_true {R A G : Type} (session : Session R A G) : session.Only fun _ ↦ True :=
  ⟨session.setting.catalog.only_true, fun _ _ _ _ ↦ trivial⟩

namespace Session

variable {R A G : Type} [Scalar R] [AchievementSink A] [SeededSource G]
  {allowed : Directive R → Prop}

/-- A run that is played until it is over takes a life along a course. -/
theorem runUntilOver_course (turns : Nat) {session : Session R A G}
    (h : session.setting.catalog.Only allowed) :
    Course session.setting.catalog allowed session.life (session.runUntilOver turns).2.life := by
  induction turns generalizing session with
  | zero => exact .refl
  | succ turns ih =>
    cases hactive : session.life.isActive with
    | true =>
      rw [runUntilOver_of_active hactive]
      exact (World.runTurn_course h session.world).trans (@ih session.runTurn.2 h)
    | false =>
      rw [runUntilOver_of_over hactive]

/-- **Every move is a course.** -/
theorem move_course {session : Session R A G} (h : session.Only allowed) (m : Move) :
    Course session.setting.catalog allowed session.life (session.move m).2.life := by
  cases m with
  | runTurn => exact World.runTurn_course h.catalog session.world
  | runUntilOver turns => exact runUntilOver_course turns h.catalog
  | beginManual => exact World.beginManual_course h.catalog session.world
  | choose id =>
    show Course _ _ _ (session.choose id).2.life
    rcases session.choose_cases id with ⟨candidate, -, hfind, hchoose⟩ | ⟨_, hrefused⟩
    · have hallowed := h.pending candidate (List.mem_of_find?_eq_some hfind)
      rw [hchoose]
      exact (World.stage_course candidate.origin session.world).trans
        (World.resolve_course hallowed session.world)
    · rw [hrefused]
  | timePasses =>
    show Course _ _ _ session.timePasses.2.life
    rcases session.timePasses_cases with ⟨-, hpassed⟩ | hrefused
    · rw [hpassed]
      exact World.passTime_course h.catalog session.world
    · rw [hrefused]
      exact .refl
  | triggerEnding ending => exact session.world.scene.triggerEnding_course ending
  | reseed seed => exact .refl

end Session

/-! ### Lives that runs have reached -/

/-- What a life has at birth, and keeps whenever it receives a talent and in every change that its
talents may make, it has when it begins. -/
theorem Scene.begin_induction {R A G : Type} [Scalar R] [AchievementSink A] [RandomSource G]
    {catalog : Catalog R} {allowed : Directive R → Prop} {logCapacity : Nat} {P : Life R → Prop}
    (authored : ∀ talent ∈ catalog.talents, ∀ directive ∈ talent.effects, allowed directive)
    (birth : ∀ talents, P (.atBirth catalog logCapacity talents))
    (receive : ∀ life talents, P life → P { life with talents := talents })
    (change : ∀ life next, Change catalog allowed life next → P life → P next)
    (talents : List String) (scene : Scene R A G) :
    P (scene.begin catalog logCapacity talents).life :=
  begin_keeps authored birth receive (fun life next hact ↦ change life next hact.change) talents
    scene

/-- What every life has when it begins and keeps in every change, every reached life has. -/
theorem Life.Reached.induction {R A G : Type} [Scalar R] [AchievementSink A] [SeededSource G]
    {P : Life R → Prop}
    (birth : ∀ catalog logCapacity talents, P (.atBirth catalog logCapacity talents))
    (receive : ∀ life talents, P life → P { life with talents := talents })
    (change : ∀ catalog life next, Change catalog (fun _ ↦ True) life next → P life → P next)
    {life : Life R} (h : Reached A G life) : P life := by
  induction h with
  | begun catalog logCapacity talents scene =>
    exact Scene.begin_induction (fun _ _ _ _ ↦ trivial) (birth catalog logCapacity) receive
      (change catalog) talents scene
  | called session c _ ih =>
    cases c with
    | move m =>
      exact (Session.move_course session.only_true m).keeps (change session.setting.catalog) ih
    | reset talents =>
      exact Scene.begin_induction (fun _ _ _ _ ↦ trivial) (birth _ _) receive
        (change session.setting.catalog) talents session.world.scene

end LifeStory
