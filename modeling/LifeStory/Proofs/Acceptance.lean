import LifeStory.Proofs.Turns
import LifeStory.Proofs.TurnLimits

/-!
# Players are never refused

No round that play comes to is refused (`Stage.Reaches.accepted`): time passes where it is let pass,
and the choice that is made is open. So play has no setback other than that it is endless, whatever
the content, and whatever is changed in the life before it is played.

It is endless only where no turn can be past the limit, and then it may be: where time does not make
anyone older and nothing happens, each turn is followed by another like it
(`Plan.timeless_player_never_stops`).
-/

namespace LifeStory.Trial

/-! ### Turns without a player -/

theorem answered_chronicleTurn (run : Run) (report : TurnReport Float) :
    (chronicleTurn run report).Answered := by
  refine .append ?_ (Chronicle.answered_ofReport run report)
  rw [moveOfReport?]
  split
  · exact ⟨rfl, nofun⟩
  · exact Chronicle.answered_empty

/-- However many turns are played without a player, no offer is left unanswered. -/
theorem answered_playAlone (turns : Nat) (run : Run) : (playAlone turns run).1.Answered := by
  induction turns generalizing run with
  | zero => exact Chronicle.answered_empty
  | succ turns ih =>
    rw [playAlone]
    split
    · exact (answered_chronicleTurn _ _).append (ih run.runTurn.2)
    · exact Chronicle.answered_empty

/-! ### Stages that play comes to -/

namespace Stage

/-- The choice that the player picks from an offer. -/
def picked? (stage : Stage) (offered : List (Candidate Float)) : Option (Candidate Float) :=
  (stage.player.pick stage.run.life offered).1.of? offered

/-- What a round asks of the run is granted: time may pass where it is let pass, and a choice that
is made is open, in a run that goes on. -/
structure Accepted (stage : Stage) : Prop where
  wait : stage.current.offer = .timePasses → stage.run.life.phase = .active
  choose : ∀ offered, stage.current.offer = .candidates offered →
    stage.run.life.phase = .active ∧
      ∃ picked ∈ stage.run.pending, stage.picked? offered = some picked
  played : ∃ page next, stage.round = .ok (page, next)

variable {limit : Nat} {stage : Stage}

/-- A turn that has begun offers only what will be granted. -/
theorem accepted_of_opened (h : Opened stage.current stage.run) : stage.Accepted where
  wait hoffer := of_decide_eq_true (h.isActive (by rw [hoffer]; nofun))
  choose offered hoffer := by
    obtain ⟨picked, hpicked, hof⟩ := Decision.exists_of?
      (stage.player.pick stage.run.life offered).1 (h.ne_nil hoffer)
    refine ⟨of_decide_eq_true (h.isActive (by rw [hoffer]; nofun)), picked, ?_, hof⟩
    rw [h.pending, hoffer]
    exact hpicked
  played := by
    obtain ⟨page, stopped, hround, -⟩ | ⟨page, next, hround, -⟩ := round_cases h
    · exact ⟨page, .inr stopped, hround⟩
    · exact ⟨page, .inl next, hround⟩

/-- **Every round that play comes to is accepted**, whatever was done to the run before. -/
theorem Reaches.accepted {player : Player} {run : Run}
    (h : Reaches limit (begin player run) stage) : stage.Accepted :=
  accepted_of_opened (h.opened (opened_begin player run))

end Stage

/-! ### Play that does not end -/

/-- The settings of a life in which nobody grows older, and nothing ever happens. -/
def timelessSetting : Setting Float :=
  ⟨.ofBase .empty,
    { Config.default with aging := { Config.defaultAging with agePerTurn := 0.0 } }⟩

/-- A life as it begins, but for its turn and its log. -/
structure Unmoved (life : Life Float) : Prop where
  alive : life.alive = true
  stats : life.stats = .initial
  statuses : life.statuses = []

section Timeless

variable {life : Life Float}

theorem Unmoved.isActive (h : Unmoved life) : life.isActive = true := by
  rw [Life.isActive, Life.phase, if_pos h.alive]
  rfl

theorem Unmoved.note (h : Unmoved life) (kind : LogKind) (title : Option String) (text : String) :
    Unmoved (life.note kind title text) :=
  ⟨h.alive, h.stats, h.statuses⟩

/-- A turn more does not make anyone older. -/
theorem Unmoved.grownOlder (h : Unmoved life) :
    Unmoved (life.grownOlder timelessSetting.config.aging) where
  alive := h.alive
  stats := by
    have hage : (Stats.initial : Stats Float).age + timelessSetting.config.aging.agePerTurn =
        Stats.initial.age := by decide +kernel
    have hhealth : ¬ timelessSetting.config.aging.healthDecayAge <
        (Stats.initial : Stats Float).age := by decide +kernel
    have hsanity : ¬ timelessSetting.config.aging.sanityDecayAge <
        (Stats.initial : Stats Float).age := by decide +kernel
    rw [Life.grownOlder, h.stats]
    dsimp only
    rw [hage, if_neg hhealth, if_neg hsanity]
  statuses := h.statuses

/-- Nobody owes anything, and no status effect is in force. -/
theorem Unmoved.tickStatuses (scene : Scene Float Ledger Xoshiro) (h : Unmoved scene.life)
    (catalog : Catalog Float) : Unmoved (scene.tickStatuses catalog).2.life := by
  have hsettled : scene.life.settleDebt = (none, scene.life) := by
    have howes : scene.life.hasStatus debtStatus = false := by
      rw [Life.hasStatus, h.statuses]
      rfl
    rw [Life.settleDebt, howes, h.stats]
    rfl
  rw [Scene.tickStatuses, hsettled]
  dsimp only
  rw [h.statuses]
  refine ⟨h.alive, h.stats, ?_⟩
  show (scene.life.statuses.map _).filter _ = []
  rw [h.statuses]
  rfl

theorem Unmoved.aged (scene : Scene Float Ledger Xoshiro) (h : Unmoved scene.life) :
    Unmoved (scene.aged timelessSetting).life := by
  have hticked := Unmoved.tickStatuses
    (scene.mapLife (·.grownOlder timelessSetting.config.aging)) h.grownOlder
    timelessSetting.catalog
  exact ⟨hticked.alive, hticked.stats, hticked.statuses⟩

/-- No threshold is breached at the beginning. -/
theorem Unmoved.breach?_eq_none (h : Unmoved life) :
    life.breach? timelessSetting.config.thresholds = none := by
  rw [Life.breach?, h.stats]
  decide +kernel

/-- Time that passes changes nothing but the turn and the log. -/
theorem Unmoved.advance (world : World Float Ledger Xoshiro) (h : Unmoved world.life) :
    Unmoved (world.advance timelessSetting).2.life := by
  have haged : Unmoved (world.scene.aged timelessSetting).life := Unmoved.aged world.scene h
  rw [World.advance_of_active h.isActive, World.onScene, Scene.passTurn_eq,
    Scene.enforceThresholds_of_safe fun _ ↦ haged.breach?_eq_none]
  exact haged

/-- The next turn is like the one before, and offers nothing. -/
theorem Unmoved.beginManual (world : World Float Ledger Xoshiro) (h : Unmoved world.life) :
    (world.beginManual timelessSetting).1.offer = .timePasses ∧
      Unmoved (world.beginManual timelessSetting).2.life := by
  have hadvanced := Unmoved.advance world h
  rw [World.beginManual_of_active hadvanced.isActive, World.gatherOffer_of_no_event rfl]
  exact ⟨rfl, hadvanced.note _ _ _⟩

end Timeless

/-- Where play stands in a life in which nothing happens. -/
structure Stage.Timeless (stage : Stage) : Prop where
  opened : Opened stage.current stage.run
  setting : stage.run.setting = timelessSetting
  offer : stage.current.offer = .timePasses
  unmoved : Unmoved stage.run.life
  turn_le : stage.run.life.turn ≤ Life.maxTurn

namespace Stage

/-- Play of a life in which nothing happens begins with a turn that offers nothing. -/
theorem timeless_begin {player : Player} {run : Run} (hsetting : run.setting = timelessSetting)
    (h : Unmoved run.life) (hturn : run.life.turn ≤ Life.maxTurn) :
    (begin player run).Timeless := by
  obtain ⟨hoffer, hunmoved⟩ := Unmoved.beginManual run.world h
  rw [← hsetting] at hoffer hunmoved
  refine ⟨opened_beginManual run, hsetting, hoffer, hunmoved, ?_⟩
  show run.beginManual.2.life.turn ≤ Life.maxTurn
  rw [turn_beginManual h.isActive]
  exact succUpTo_le hturn

/-- **Where nothing happens each turn is followed by another one.** -/
theorem Timeless.exists_next {stage : Stage} (h : stage.Timeless) :
    ∃ next, Next Life.maxTurn stage next ∧ next.Timeless := by
  have hpassed := (stage.run.timePasses_cases).resolve_right fun hrefused ↦ by
    obtain ⟨next, later, hwait⟩ := h.opened.timePasses h.offer
    rw [hrefused] at hwait
    cases hwait
  obtain ⟨hopened, hturn⟩ := opened_timePasses hpassed.2
  obtain ⟨hoffer, hunmoved⟩ := Unmoved.beginManual
    (stage.run.world.note .system none timePassesLine) (h.unmoved.note _ _ _)
  rw [← h.setting] at hoffer hunmoved
  refine ⟨⟨_, stage.player, _⟩, ⟨h.turn_le, .ofReport stage.run stage.current.report, ?_⟩,
    hopened, h.setting, hoffer, hunmoved, ?_⟩
  · rw [round, h.offer]
    dsimp only
    rw [hpassed.2]
  · rw [hturn]
    exact succUpTo_le h.turn_le

end Stage

/-! ### Plans -/

namespace Plan

/-- In a plan that has been played every offer was answered. -/
theorem answered_of_playTurns {plan : Plan} {seed : UInt64} {run : Run}
    {played : Chronicle × Run} (h : plan.playTurns seed run = .ok played) : played.1.Answered := by
  rw [playTurns] at h
  cases hplayer : Player.ofStrategy? plan.strategy seed with
  | none =>
    rw [hplayer] at h
    rw [← Except.ok.inj h]
    exact answered_playAlone plan.maxTurns run
  | some player =>
    rw [hplayer] at h
    exact (Stage.played_of_play (Stage.opened_begin player run) h).answered

/-- A plan has no setback but that play is endless. -/
theorem setback_of_playTurns {plan : Plan} {seed : UInt64} {run : Run} {setback : Setback}
    (h : plan.playTurns seed run = .error setback) : setback = .endless := by
  rw [playTurns] at h
  cases hplayer : Player.ofStrategy? plan.strategy seed with
  | none =>
    rw [hplayer] at h
    cases h
  | some player =>
    rw [hplayer] at h
    have hsetback : playManual plan.maxTurns player run = .error setback := h
    obtain ⟨_, _, hplay, -⟩ | ⟨-, hendless⟩ := playManual_cases plan.maxTurns player run
    · rw [hplay] at hsetback
      cases hsetback
    · exact Except.error.inj (hsetback.symm.trans hendless)

/-- What a plan comes to: a summary of offers that were all answered, or nothing, because play is
endless. -/
theorem run_cases (plan : Plan) (setting : Setting Float) (seed : UInt64) :
    (∃ summary, plan.run setting seed = .ok summary ∧ summary.chronicle.Answered) ∨
      plan.run setting seed = .error .endless := by
  cases hturns : plan.playTurns seed (plan.start setting seed) with
  | error setback =>
    obtain rfl := setback_of_playTurns hturns
    exact .inr (run_of_setback hturns)
  | ok played =>
    obtain ⟨summary, hrun, hchronicle, -⟩ := run_of_playTurns hturns
    refine .inl ⟨summary, hrun, ?_⟩
    rw [hchronicle]
    exact answered_of_playTurns hturns

/-- **A player is never refused.** Whatever the plan, the content and the seed, and whatever the
plan changes in the life before it is played:
* the plan comes to a summary if it is played without a player, or if a turn can be past its limit;
* else it comes to one or is endless, and has no other setback; in a summary the choices that a
  player made match the offers that had choices, one by one and in size, and no such offer was
  empty;
* at every stage that play comes to, time is let pass only in an active run, and a choice is made
  only in an active run in which it is open;
* so a player plays any number of rounds without a setback, until play ends or they are used up;
* where some turn is past the limit, the limit is what ends the play, however many rounds may be
  played beyond it;
* whatever the limit, play ends exactly if it comes to a stage that no other follows. -/
theorem players_are_never_refused (plan : Plan) (setting : Setting Float) (seed : UInt64) :
    (plan.strategy.isManual = false ∨ plan.maxTurns < Life.maxTurn →
      ∃ summary, plan.run setting seed = .ok summary) ∧
    ((∃ summary, plan.run setting seed = .ok summary ∧ summary.chronicle.Answered) ∨
      plan.run setting seed = .error .endless) ∧
    ∀ player, Player.ofStrategy? plan.strategy seed = some player →
      let first := Stage.begin player (plan.start setting seed)
      plan.playTurns seed (plan.start setting seed) =
        first.play plan.maxTurns (plan.maxTurns + 1) ∧
      (∀ stage, Stage.Reaches plan.maxTurns first stage → stage.Accepted) ∧
      (∀ rounds, (∃ chronicle stopped,
          first.play plan.maxTurns rounds = .ok (chronicle, stopped) ∧ chronicle.Answered) ∨
        first.play plan.maxTurns rounds = .error .endless) ∧
      (plan.maxTurns < Life.maxTurn → ∀ rounds, plan.maxTurns < rounds →
        first.play plan.maxTurns rounds = first.play plan.maxTurns (plan.maxTurns + 1)) ∧
      ((∃ rounds result, first.play plan.maxTurns rounds = .ok result) ↔
        ∃ last, Stage.Reaches plan.maxTurns first last ∧
          ∀ next, ¬ Stage.Next plan.maxTurns last next) := by
  refine ⟨fun hends ↦ ?_, plan.run_cases setting seed, fun player hplayer ↦
    ⟨?_, fun stage hreaches ↦ hreaches.accepted, fun rounds ↦ ?_, fun hlimit rounds hrounds ↦ ?_,
      Stage.exists_play_iff (Stage.opened_begin player _)⟩⟩
  · obtain ⟨played, hturns⟩ := exists_playTurns hends seed (plan.start setting seed)
    obtain ⟨summary, hrun, -⟩ := run_of_playTurns hturns
    exact ⟨summary, hrun⟩
  · rw [playTurns, hplayer]
    rfl
  · obtain ⟨chronicle, stopped, hplay, hplayed⟩ | hendless :=
      Stage.play_cases (Stage.opened_begin player (plan.start setting seed)) plan.maxTurns rounds
    · exact .inl ⟨chronicle, stopped, hplay, hplayed.answered⟩
    · exact .inr hendless
  · exact Stage.play_eq_of_room (Stage.opened_begin player _) hlimit (Nat.lt_add_right _ hrounds)
      (Nat.lt_add_right _ (Nat.lt_succ_self _))

/-- A devout traveller who sets out in the third turn has one way to go on, and is let go it; the
journey comes to its end, and would not last longer if more rounds were allowed for. -/
theorem traveller_is_never_refused :
    let plan : Plan := { simple .devout 4 with
      setup := fun life ↦ { life with turn := 2 }
      finale := some "home"
      checksReplay := true }
    let setting : Setting Float := ⟨Session.roadCatalog, .default⟩
    let first := Stage.begin .devout (plan.start setting 7)
    (∃ summary, plan.run setting 7 = .ok summary ∧ summary.chronicle.Answered) ∧
      first.run.life.turn = 3 ∧ first.current.offer.pending.length = 1 ∧ first.Accepted ∧
      first.play 4 10 = first.play 4 5 := by
  intro plan setting first
  have hplayer : Player.ofStrategy? plan.strategy 7 = some .devout := rfl
  obtain ⟨hends, hcases, hplay⟩ := players_are_never_refused plan setting 7
  obtain ⟨summary, hrun⟩ := hends (.inr (by decide))
  obtain ⟨-, haccepted, -, hroom, -⟩ := hplay .devout hplayer
  refine ⟨hcases.resolve_right fun hendless ↦ ?_, by decide +kernel, by decide +kernel,
    haccepted first .refl, hroom (by decide) 10 (by decide)⟩
  rw [hrun] at hendless
  cases hendless

/-- Where nothing happens, a player with the largest limit plays for ever: the plan does not come to
a summary, and no number of rounds would be enough for one. -/
theorem timeless_player_never_stops :
    let plan := simple .firstOffer Life.maxTurn
    let first := Stage.begin .first (plan.start timelessSetting 7)
    (∀ summary, plan.run timelessSetting 7 ≠ .ok summary) ∧
      ∀ rounds, first.play plan.maxTurns rounds = .error .endless := by
  intro plan first
  have hunmoved : Unmoved (plan.start timelessSetting 7).life := ⟨rfl, rfl, rfl⟩
  have hfirst : first.Timeless := Stage.timeless_begin rfl hunmoved (Nat.zero_le _)
  have hendless : ∀ rounds, first.play plan.maxTurns rounds = .error .endless :=
    Stage.play_endless (fun _ h ↦ h.exists_next) hfirst
  refine ⟨fun summary hrun ↦ ?_, hendless⟩
  have hturns : plan.playTurns 7 (plan.start timelessSetting 7) = .error .endless :=
    hendless (Life.maxTurn + 1)
  rw [run_of_setback hturns] at hrun
  cases hrun

end Plan

end LifeStory.Trial
