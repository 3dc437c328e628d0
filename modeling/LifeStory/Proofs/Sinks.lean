import LifeStory.Proofs.Calls
import LifeStory.Proofs.Turns

/-!
# Nothing reads the sink

Achievements are reported to a sink, and no rule of the simulation ever looks into it. So when one
kind of sink is translated into another and unlocking goes with it (`AchievementSink.Hom`), every
function of a turn does the same with the sink translated before as with the sink translated after:
it answers the same, and leaves the same life and the same streams. Each function has one equation,
for scenes (`Scene.mapSink`) and for worlds (`World.mapSink`); most hold by definition, since the
function does not touch the sink at all.

`Requests` is the sink that does nothing but take down what is reported. Every sink is a translation
of it, so that what happens to any sink is a list of names that are unlocked in order
(`Requests.hom_unlockAll`).
-/

namespace LifeStory

/-! ### Translations of sinks -/

/-- A translation of sinks that unlocking goes with. -/
structure AchievementSink.Hom {A B : Type} [AchievementSink A] [AchievementSink B] (f : A → B) :
    Prop where
  unlock : ∀ sink id, f (AchievementSink.unlock sink id) = AchievementSink.unlock (f sink) id

/-- The sink that takes down what is reported to it. -/
structure Requests where
  ids : List String

namespace Requests

instance : AchievementSink Requests where
  unlock requests id := ⟨requests.ids ++ [id]⟩

/-- No requests. -/
def none : Requests := ⟨[]⟩

variable {A : Type} [AchievementSink A]

/-- The sink after all requests. -/
def unlockAll (sink : A) (requests : Requests) : A :=
  requests.ids.foldl AchievementSink.unlock sink

/-- Any sink is what becomes of it when the requests are made of it. -/
theorem hom_unlockAll (sink : A) : AchievementSink.Hom (unlockAll sink) where
  unlock _ _ := List.foldl_append

end Requests

/-! ### Scenes -/

namespace Scene

variable {R A B G : Type} {f : A → B}

/-- The scene with its sink translated. -/
def mapSink (f : A → B) (scene : Scene R A G) : Scene R B G :=
  ⟨scene.life, f scene.sink, scene.text⟩

@[simp] theorem life_mapSink (scene : Scene R A G) : (scene.mapSink f).life = scene.life := rfl

/-- Whether a changed life is accepted does not depend on the sink. -/
theorem accept_mapSink (scene : Scene R A G) (changed : Option (Life R)) :
    (scene.mapSink f).accept changed =
      ((scene.accept changed).1, (scene.accept changed).2.mapSink f) := by
  cases changed <;> rfl

variable [Scalar R] [AchievementSink A] [AchievementSink B] (hf : AchievementSink.Hom f)
  (catalog : Catalog R)

include hf

/-- The achievements that a scene reports are judged by its life alone. -/
theorem reportAchievements_mapSink (scene : Scene R A G) :
    (scene.mapSink f).reportAchievements catalog =
      (scene.reportAchievements catalog).mapSink f := by
  have hreported : catalog.reportAchievements scene.life (f scene.sink) =
      f (catalog.reportAchievements scene.life scene.sink) :=
    List.foldl_hom f fun sink a ↦ (hf.unlock sink a.id).symm
  rw [reportAchievements, mapSink, hreported]
  rfl

/-! ### Endings -/

/-- Nobody dies differently for what the sink holds. -/
theorem passAway_mapSink (cause : DeathCause) (scene : Scene R A G) :
    (scene.mapSink f).passAway catalog cause = (scene.passAway catalog cause).mapSink f := by
  rw [passAway, passAway, ← reportAchievements_mapSink hf]
  rfl

/-- A threshold is enforced by the life, and the death that follows reports to either sink. -/
theorem enforceThresholds_mapSink (thresholds : Thresholds R) (scene : Scene R A G) :
    (scene.mapSink f).enforceThresholds catalog thresholds =
      ((scene.enforceThresholds catalog thresholds).1,
        (scene.enforceThresholds catalog thresholds).2.mapSink f) := by
  rw [enforceThresholds, enforceThresholds, life_mapSink]
  split
  · cases scene.life.breach? thresholds with
    | none => rfl
    | some cause => exact congrArg (some cause, ·) (passAway_mapSink hf catalog cause scene)
  · rfl

variable [RandomSource G]

omit hf [AchievementSink A] [AchievementSink B] in
/-- Which ending is told is read off the catalog, and its words do not depend on the sink. -/
theorem tellEnding_mapSink (id : String) (scene : Scene R A G) :
    (scene.mapSink f).tellEnding catalog id = (scene.tellEnding catalog id).mapSink f := by
  rw [tellEnding, tellEnding]
  cases catalog.ending? id <;> rfl

/-- An ending that is triggered is refused or told alike over both sinks. -/
theorem triggerEnding_mapSink (id : String) (scene : Scene R A G) :
    (scene.mapSink f).triggerEnding catalog id =
      ((scene.triggerEnding catalog id).1, (scene.triggerEnding catalog id).2.mapSink f) := by
  have htold : ((scene.mapSink f).mapLife (closed id)).tellEnding catalog id =
      ((scene.mapLife (closed id)).tellEnding catalog id).mapSink f :=
    tellEnding_mapSink catalog id (scene.mapLife (closed id))
  rw [triggerEnding, triggerEnding, life_mapSink]
  split
  · rfl
  · rw [htold, reportAchievements_mapSink hf]

/-! ### Directives -/

/-- **No directive reads the sink.** Whatever a directive does, it does the same when the sink is
translated. -/
theorem applyDirective_mapSink (directive : Directive R) (scene : Scene R A G) :
    (scene.mapSink f).applyDirective catalog directive =
      ((scene.applyDirective catalog directive).1,
        (scene.applyDirective catalog directive).2.mapSink f) := by
  cases directive with
  | triggerEnding ending => exact triggerEnding_mapSink hf catalog ending scene
  | unlockAchievement id =>
    exact congrArg (fun sink ↦ (true, Scene.mk scene.life sink scene.text))
      (hf.unlock scene.sink id).symm
  | _ => simp only [applyDirective, life_mapSink, accept_mapSink]

/-- A list of directives threads its tally and its scene past the translation, one by one. -/
theorem applyFrom_mapSink (directives : List (Directive R)) (tally : Tally) (scene : Scene R A G) :
    (scene.mapSink f).applyFrom catalog directives tally =
      ((scene.applyFrom catalog directives tally).1,
        (scene.applyFrom catalog directives tally).2.mapSink f) := by
  induction directives generalizing tally scene with
  | nil => rfl
  | cons directive rest ih =>
    rw [applyFrom, applyDirective_mapSink hf]
    exact ih _ _

/-- All the directives of an outcome together read nothing of the sink. -/
theorem applyAll_mapSink (directives : List (Directive R)) (scene : Scene R A G) :
    (scene.mapSink f).applyAll catalog directives =
      ((scene.applyAll catalog directives).1, (scene.applyAll catalog directives).2.mapSink f) :=
  applyFrom_mapSink hf catalog directives .zero scene

/-! ### Time -/

/-- The status effects that act in a tick read nothing of the sink. -/
theorem actStatuses_mapSink (ids removed : List String) (scene : Scene R A G) :
    (scene.mapSink f).actStatuses catalog ids removed =
      let acted := scene.actStatuses catalog ids removed
      (acted.1, acted.2.1, acted.2.2.mapSink f) := by
  induction ids generalizing removed scene with
  | nil => rfl
  | cons id rest ih =>
    rw [actStatuses, actStatuses, life_mapSink]
    split
    · exact ih removed scene
    · cases catalog.statusEffect? id with
      | none => exact ih removed scene
      | some effect =>
        dsimp only
        rw [applyAll_mapSink hf, ih]

/-- A tick of the status effects is the same over both sinks. -/
theorem tickStatuses_mapSink (scene : Scene R A G) :
    (scene.mapSink f).tickStatuses catalog =
      ((scene.tickStatuses catalog).1, (scene.tickStatuses catalog).2.mapSink f) := by
  have hacted := actStatuses_mapSink hf catalog
    (scene.life.settleDebt.2.statuses.map ActiveStatus.id) []
    { scene with life := scene.life.settleDebt.2 }
  rw [tickStatuses]
  dsimp only [mapSink] at hacted ⊢
  rw [hacted]
  rfl

/-- A turn passes, with its ageing, its ticks and its thresholds, the same over both sinks. -/
theorem passTurn_mapSink (setting : Setting R) (scene : Scene R A G) :
    (scene.mapSink f).passTurn setting =
      ((scene.passTurn setting).1, (scene.passTurn setting).2.mapSink f) := by
  let older := scene.mapLife (·.grownOlder setting.config.aging)
  have hticked : ((scene.mapSink f).mapLife (·.grownOlder setting.config.aging)).tickStatuses
      setting.catalog = ((older.tickStatuses setting.catalog).1,
        (older.tickStatuses setting.catalog).2.mapSink f) :=
    tickStatuses_mapSink hf setting.catalog older
  have haged : (scene.mapSink f).aged setting = (scene.aged setting).mapSink f := by
    rw [aged, hticked]
    rfl
  rw [passTurn_eq, haged, hticked, enforceThresholds_mapSink hf]
  rfl

/-! ### Beginnings -/

theorem receiveTalent_mapSink (talent : Talent R) (scene : Scene R A G) :
    (scene.mapSink f).receiveTalent catalog talent =
      (scene.receiveTalent catalog talent).mapSink f :=
  congrArg Prod.snd (applyAll_mapSink hf catalog talent.effects (scene.mapLife fun life ↦
    { life with talents := life.talents ++ [⟨talent.id, talent.name⟩] }))

/-- A life begins the same over both sinks, whatever talents it is given. -/
theorem begin_mapSink (logCapacity : Nat) (talents : List String) (scene : Scene R A G) :
    (scene.mapSink f).begin catalog logCapacity talents =
      (scene.begin catalog logCapacity talents).mapSink f := by
  rw [begin, begin, ← List.foldl_hom (mapSink f) (fun scene talent ↦
    receiveTalent_mapSink hf catalog talent scene)]
  rfl

end Scene

/-! ### Worlds -/

namespace World

variable {R A B G : Type} {f : A → B}

/-- The world with its sink translated. -/
def mapSink (f : A → B) (world : World R A G) : World R B G :=
  ⟨world.life, f world.sink, world.streams⟩

@[simp] theorem life_mapSink (world : World R A G) : (world.mapSink f).life = world.life := rfl

/-- What acts alike on scenes acts alike on worlds. -/
theorem onScene_mapSink {α : Type} {act : Scene R A G → α × Scene R A G}
    {act' : Scene R B G → α × Scene R B G} (world : World R A G)
    (h : act' (world.scene.mapSink f) = ((act world.scene).1, (act world.scene).2.mapSink f)) :
    (world.mapSink f).onScene act' =
      ((world.onScene act).1, (world.onScene act).2.mapSink f) := by
  rw [onScene, show (world.mapSink f).scene = world.scene.mapSink f from rfl, h]
  rfl

variable [Scalar R] [AchievementSink A] [AchievementSink B] (hf : AchievementSink.Hom f)
  [RandomSource G] (setting : Setting R) (report : TurnReport R) (world : World R A G)

omit [AchievementSink A] [AchievementSink B] in
theorem tellFeedback_mapSink (feedback : Option String) :
    (world.mapSink f).tellFeedback feedback = (world.tellFeedback feedback).mapSink f := by
  cases feedback <;> rfl

include hf

/-- The world goes one turn on without a look at the sink. -/
theorem advance_mapSink :
    (world.mapSink f).advance setting =
      ((world.advance setting).1, (world.advance setting).2.mapSink f) := by
  rw [advance, advance, life_mapSink]
  split
  · exact world.onScene_mapSink (Scene.passTurn_mapSink hf setting world.scene)
  · rfl

/-- The outcomes of a result are counted the same, and leave the same world, over both sinks. -/
theorem applyResult_mapSink (outcomes : List (Directive R)) :
    (world.mapSink f).applyResult setting outcomes =
      ((world.applyResult setting outcomes).1,
        (world.applyResult setting outcomes).2.mapSink f) := by
  refine world.onScene_mapSink ?_
  rw [Scene.applyAll_mapSink hf]
  exact Scene.enforceThresholds_mapSink hf _ _ _

/-- A choice is drawn, resolved and told the same over both sinks. -/
theorem make_mapSink (choice : Choice R) :
    (world.mapSink f).make setting choice report =
      ((world.make setting choice report).1, (world.make setting choice report).2.mapSink f) := by
  have hmaking : (world.mapSink f).making choice =
      ((world.making choice).1, (world.making choice).2.mapSink f) := rfl
  have hmade : (world.mapSink f).made setting choice =
      ((world.made setting choice).1, (world.made setting choice).2.mapSink f) := by
    rw [made, hmaking, tellFeedback_mapSink, applyResult_mapSink hf]
    rfl
  rw [make_eq, hmaking, hmade]
  rfl

/-! ### Turns -/

/-- An event is lived through with the same report. -/
theorem liveThrough_mapSink (event : Event R) :
    (world.mapSink f).liveThrough setting event report =
      ((world.liveThrough setting event report).1,
        (world.liveThrough setting event report).2.mapSink f) := by
  have hchoosing : (world.mapSink f).choosing setting event =
      ((world.choosing setting event).1, (world.choosing setting event).2.1,
        (world.choosing setting event).2.2.mapSink f) := rfl
  rw [liveThrough_eq, liveThrough_eq, hchoosing]
  cases (world.choosing setting event).1 with
  | none => rfl
  | some choice => exact make_mapSink hf setting _ _ choice

/-- What happens in a turn is drawn by the life and the streams alone. -/
theorem happen_mapSink :
    (world.mapSink f).happen setting report =
      ((world.happen setting report).1, (world.happen setting report).2.mapSink f) := by
  have hdrawn : (world.mapSink f).drawEvent setting =
      ((world.drawEvent setting).1, (world.drawEvent setting).2.1,
        (world.drawEvent setting).2.2.mapSink f) := rfl
  rw [happen_eq, happen_eq, hdrawn]
  dsimp only
  cases (world.drawEvent setting).1 with
  | none => rfl
  | some event => exact liveThrough_mapSink hf setting _ _ event

/-- **A turn does not read the sink**: it gives the same report, and the world that it leaves
differs in the translated sink only. -/
theorem runTurn_mapSink :
    (world.mapSink f).runTurn setting =
      ((world.runTurn setting).1, (world.runTurn setting).2.mapSink f) := by
  rw [runTurn, runTurn, advance_mapSink hf]
  dsimp only
  rw [life_mapSink]
  split
  · rw [happen_mapSink hf]
    rfl
  · rfl

omit hf [AchievementSink A] [AchievementSink B] in
/-- What is offered to a player does not depend on the sink. -/
theorem gatherOffer_mapSink :
    (world.mapSink f).gatherOffer setting =
      ((world.gatherOffer setting).1, (world.gatherOffer setting).2.mapSink f) := by
  have hdrawn : (world.mapSink f).drawCandidates setting =
      ((world.drawCandidates setting).1, (world.drawCandidates setting).2.mapSink f) := rfl
  rw [gatherOffer, gatherOffer, life_mapSink, hdrawn]
  split
  · rfl
  · dsimp only
    split <;> rfl

/-- A manual turn begins the same over both sinks. -/
theorem beginManual_mapSink :
    (world.mapSink f).beginManual setting =
      ((world.beginManual setting).1, (world.beginManual setting).2.mapSink f) := by
  rw [beginManual, beginManual, advance_mapSink hf]
  dsimp only
  rw [life_mapSink]
  split
  · rw [gatherOffer_mapSink]
    rfl
  · rfl

/-- A candidate is resolved the same over both sinks. -/
theorem resolve_mapSink (candidate : Candidate R) :
    (world.mapSink f).resolve setting candidate =
      ((world.resolve setting candidate).1, (world.resolve setting candidate).2.mapSink f) := by
  have hstaged : (world.mapSink f).stage candidate.origin =
      (world.stage candidate.origin).mapSink f := rfl
  rw [resolve, resolve, hstaged]
  dsimp only
  rw [make_mapSink hf]
  rfl

theorem passTime_mapSink :
    (world.mapSink f).passTime setting =
      ((world.passTime setting).1, (world.passTime setting).2.mapSink f) := by
  have hnoted : (world.mapSink f).note .system none timePassesLine =
      (world.note .system none timePassesLine).mapSink f := rfl
  rw [passTime, passTime, hnoted]
  dsimp only
  rw [beginManual_mapSink hf]
  rfl

end World

/-! ### Sessions -/

namespace Session

variable {R A B G : Type} {f : A → B}

/-- The session with its sink translated. -/
def mapSink (f : A → B) (session : Session R A G) : Session R B G :=
  ⟨session.setting, session.world.mapSink f, session.pending⟩

@[simp] theorem life_mapSink (session : Session R A G) :
    (session.mapSink f).life = session.life :=
  rfl

variable [Scalar R] [AchievementSink A] [AchievementSink B] (hf : AchievementSink.Hom f)

include hf

section Actions

variable [RandomSource G] (session : Session R A G)

/-- A reset keeps the sink, so that it goes with a translation like any other call. -/
theorem reset_mapSink (talents : List String) :
    (session.mapSink f).reset talents = (session.reset talents).mapSink f := by
  have hbegun := Scene.begin_mapSink hf session.setting.catalog
    session.setting.config.logCapacity talents session.world.scene
  exact congrArg (fun scene ↦ (session.mapSink f).moveOn ((session.world.mapSink f).setScene scene))
    hbegun

/-- **A turn of a session does not read the sink.** -/
theorem runTurn_mapSink :
    (session.mapSink f).runTurn = (session.runTurn.1, session.runTurn.2.mapSink f) := by
  have hturn := World.runTurn_mapSink hf session.setting session.world
  exact congrArg (fun p : TurnReport R × World R B G ↦ (p.1, (session.mapSink f).moveOn p.2)) hturn

/-- Nor does a session that is run until it is over. -/
theorem runUntilOver_mapSink (turns : Nat) :
    (session.mapSink f).runUntilOver turns =
      ((session.runUntilOver turns).1, (session.runUntilOver turns).2.mapSink f) := by
  induction turns generalizing session with
  | zero => rfl
  | succ turns ih =>
    rw [runUntilOver, runUntilOver, life_mapSink]
    split
    · rw [runTurn_mapSink hf]
      dsimp only
      rw [ih]
    · rfl

theorem beginManual_mapSink :
    (session.mapSink f).beginManual = (session.beginManual.1, session.beginManual.2.mapSink f) := by
  have hturn := World.beginManual_mapSink hf session.setting session.world
  exact congrArg (fun p : ManualTurn R × World R B G ↦ (session.mapSink f).openOffer p.1 p.2) hturn

/-- A choice is refused or made alike over both sinks. -/
theorem choose_mapSink (id : CandidateId) :
    (session.mapSink f).choose id = ((session.choose id).1, (session.choose id).2.mapSink f) := by
  rw [choose, choose, life_mapSink, show (session.mapSink f).pending = session.pending from rfl]
  split
  · cases session.pending.find? fun c ↦ c.id = id with
    | none => rfl
    | some candidate =>
      have hmade := World.resolve_mapSink hf session.setting session.world candidate
      exact congrArg (fun p : TurnReport R × World R B G ↦
        (Except.ok p.1, (session.mapSink f).moveOn p.2)) hmade
  · rfl

theorem timePasses_mapSink :
    (session.mapSink f).timePasses = (session.timePasses.1, session.timePasses.2.mapSink f) := by
  rw [timePasses, timePasses, life_mapSink]
  split
  · have hpassed := World.passTime_mapSink hf session.setting session.world
    exact congrArg (fun p : ManualTurn R × World R B G ↦
      (Except.ok p.1, ((session.mapSink f).openOffer p.1 p.2).2)) hpassed
  · rfl

theorem triggerEnding_mapSink (ending : String) :
    (session.mapSink f).triggerEnding ending =
      ((session.triggerEnding ending).1, (session.triggerEnding ending).2.mapSink f) := by
  have hclosed := session.world.onScene_mapSink
    (Scene.triggerEnding_mapSink hf session.setting.catalog ending session.world.scene)
  exact congrArg (fun p : Bool × World R B G ↦ (p.1, (session.mapSink f).moveOn p.2)) hclosed

end Actions

variable [SeededSource G] (session : Session R A G)

/-- A call answers the same whatever the sink is, and leaves the same but for the sink. -/
theorem call_mapSink (c : Call) :
    (session.mapSink f).call c = ((session.call c).1, (session.call c).2.mapSink f) :=
  match c with
  | .move .runTurn => congrArg (Prod.map Answer.report id) (runTurn_mapSink hf session)
  | .move (.runUntilOver turns) =>
    congrArg (Prod.map Answer.reports id) (runUntilOver_mapSink hf session turns)
  | .move .beginManual => congrArg (Prod.map Answer.turn id) (beginManual_mapSink hf session)
  | .move (.choose candidate) =>
    congrArg (Prod.map (Answer.ofExcept Answer.report) id) (choose_mapSink hf session candidate)
  | .move .timePasses =>
    congrArg (Prod.map (Answer.ofExcept Answer.turn) id) (timePasses_mapSink hf session)
  | .move (.triggerEnding ending) =>
    congrArg (Prod.map Answer.closed id) (triggerEnding_mapSink hf session ending)
  | .move (.reseed _) => rfl
  | .reset talents => congrArg (Answer.done, ·) (reset_mapSink hf session talents)

/-- **The sink has no part in play.** Any calls are answered the same whatever the sink is, and
leave the same but for the sink. -/
theorem play_mapSink (calls : List Call) :
    (session.mapSink f).play calls =
      ((session.play calls).1, (session.play calls).2.mapSink f) := by
  induction calls generalizing session with
  | nil => rfl
  | cons c rest ih => rw [play_cons, call_mapSink hf, ih, play_cons]

end Session

end LifeStory
