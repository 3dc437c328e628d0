import LifeStory.Proofs.Rounds

/-!
# Turn limits of trials

A trial without a player plays at most as many turns as its limit. A player who plays goes through
rounds, each of which answers a turn that has begun and begins the next one, before the limit is
looked at. So play stops in the turn after the limit, which is not taken down any more, unless a
report tells before that the run is over (`Stage.Played`).

Whether play stops is another matter. A limit that a turn can be past ends it (`exists_playManual`),
so that a plan with such a limit comes to a summary (`Plan.run_turns`). With a larger limit play
stops only when the run is over.
-/

namespace LifeStory.Trial

/-! ### Turns without a player -/

theorem turn_playAlone (turns : Nat) (run : Run) :
    (playAlone turns run).2.life.turn ≤ run.life.turn + turns := by
  induction turns generalizing run with
  | zero => exact Nat.le_refl _
  | succ turns ih =>
    rw [playAlone]
    split
    · next hactive =>
      have hturn : run.runTurn.2.life.turn ≤ run.life.turn + 1 := by
        have hnext : run.runTurn.2.life.turn = run.life.nextTurn := run.world.turn_runTurn
        rw [hnext, Life.nextTurn_of_active hactive]
        exact succUpTo_le_succ Life.maxTurn run.life.turn
      calc (playAlone turns run.runTurn.2).2.life.turn
          ≤ run.runTurn.2.life.turn + turns := ih run.runTurn.2
        _ ≤ run.life.turn + (turns + 1) := by omega
    · exact Nat.le_add_right _ _

/-! ### Turns of a player -/

/-- A player plays to an end if a turn can be past the limit. -/
theorem exists_playManual {limit : Nat} (h : limit < Life.maxTurn) (player : Player) (run : Run) :
    ∃ result, playManual limit player run = .ok result :=
  Stage.exists_play_of_room (Stage.opened_begin player run) h
    (Nat.lt_add_right _ (Nat.lt_succ_self limit))

/-- A player plays to an end, unless no turn can be past the limit and the run is not over in
time. -/
theorem playManual_cases (limit : Nat) (player : Player) (run : Run) :
    (∃ chronicle stopped, playManual limit player run = .ok (chronicle, stopped) ∧
      Stage.Played limit (.begin player run) chronicle stopped) ∨
    (Life.maxTurn ≤ limit ∧ playManual limit player run = .error .endless) := by
  have hopened := Stage.opened_begin player run
  obtain hplayed | hendless := Stage.play_cases hopened limit (limit + 1)
  · exact .inl hplayed
  · refine .inr ⟨Nat.le_of_not_lt fun hlimit ↦ ?_, hendless⟩
    obtain ⟨result, hplay⟩ := exists_playManual hlimit player run
    rw [playManual, hendless] at hplay
    cases hplay

/-- What a player plays from turn zero on. -/
theorem turn_of_playManual {limit : Nat} {player : Player} {run stopped : Run}
    {chronicle : Chronicle} (h : run.life.turn = 0)
    (hplay : playManual limit player run = .ok (chronicle, stopped)) :
    stopped.life.turn ≤ limit + 1 ∧ (stopped.life.turn ≤ limit ↔
      Life.maxTurn ≤ limit ∨ ∃ report ∈ chronicle.reports, report.phase ≠ .active) := by
  have hplayed := Stage.played_of_play (Stage.opened_begin player run) hplay
  have hfirst : run.beginManual.2.life.turn ≤ 1 := by
    have hnext : run.beginManual.2.life.turn = run.life.nextTurn := run.world.turn_beginManual
    have hle := run.life.nextTurn_le
    omega
  have hpast : stopped.life.turn ≤ max run.beginManual.2.life.turn (limit + 1) := hplayed.turn_le
  have hsized : stopped.life.turn ≤ Life.maxTurn :=
    hplayed.sized (Nat.le_trans hfirst (by decide))
  refine ⟨by omega, ?_⟩
  rw [← Nat.not_lt, hplayed.past_iff, Chronicle.not_active_iff, iff_or_self]
  intro hlimit
  rw [← Chronicle.not_active_iff, ← hplayed.past_iff]
  omega

/-! ### Plans -/

theorem Player.isSome_ofStrategy? (strategy : Strategy) (seed : UInt64) :
    (ofStrategy? strategy seed).isSome = strategy.isManual := by
  cases strategy <;> rfl

namespace Plan

theorem turn_closeIfAsked (plan : Plan) (run : Run) :
    (plan.closeIfAsked run).2.life.turn = run.life.turn := by
  have htrigger : ∀ (ending : String) (r : Run),
      (r.triggerEnding ending).2.life.turn = r.life.turn :=
    fun ending r ↦ r.world.scene.turn_triggerEnding ending
  rw [closeIfAsked]
  split
  · rfl
  · next ending _ => exact (htrigger ending _).trans (htrigger ending run)

/-- A plan of which the turns are played to an end comes to a summary of them; if it checks for
replay, it plays the same again. -/
theorem run_of_playTurns {plan : Plan} {setting : Setting Float} {seed : UInt64}
    {chronicle : Chronicle} {stopped : Run}
    (h : plan.playTurns seed (plan.start setting seed) = .ok (chronicle, stopped)) :
    ∃ summary, plan.run setting seed = .ok summary ∧ summary.chronicle = chronicle ∧
      summary.life.turn = stopped.life.turn := by
  have hplay : ∃ summary, plan.play setting seed = .ok summary ∧ summary.chronicle = chronicle ∧
      summary.life.turn = stopped.life.turn :=
    ⟨_, by rw [play, h]; rfl, rfl, plan.turn_closeIfAsked stopped⟩
  obtain ⟨summary, hplay, hchronicle, hturn⟩ := hplay
  rw [run, hplay]
  cases plan.checksReplay with
  | false => exact ⟨summary, rfl, hchronicle, hturn⟩
  | true => exact ⟨_, rfl, hchronicle, hturn⟩

/-- A setback of the turns is one of the plan. -/
theorem run_of_setback {plan : Plan} {setting : Setting Float} {seed : UInt64} {setback : Setback}
    (h : plan.playTurns seed (plan.start setting seed) = .error setback) :
    plan.run setting seed = .error setback := by
  rw [run, play, h]
  rfl

/-- A summary is one of turns that were played to an end. -/
theorem playTurns_of_run {plan : Plan} {setting : Setting Float} {seed : UInt64}
    {summary : Summary} (h : plan.run setting seed = .ok summary) :
    ∃ stopped, plan.playTurns seed (plan.start setting seed) = .ok (summary.chronicle, stopped) ∧
      summary.life.turn = stopped.life.turn := by
  cases hturns : plan.playTurns seed (plan.start setting seed) with
  | error setback =>
    rw [run_of_setback hturns] at h
    cases h
  | ok played =>
    obtain ⟨chronicle, stopped⟩ := played
    obtain ⟨_, hrun, rfl, hturn⟩ := run_of_playTurns hturns
    obtain rfl := Except.ok.inj (hrun.symm.trans h)
    exact ⟨stopped, rfl, hturn⟩

/-- The turns of a plan are played to an end without a player, and with a limit that a turn can be
past. -/
theorem exists_playTurns {plan : Plan}
    (h : plan.strategy.isManual = false ∨ plan.maxTurns < Life.maxTurn) (seed : UInt64)
    (run : Run) : ∃ played, plan.playTurns seed run = .ok played := by
  rw [← Player.isSome_ofStrategy? plan.strategy seed] at h
  rw [playTurns]
  cases hplayer : Player.ofStrategy? plan.strategy seed with
  | none => exact ⟨_, rfl⟩
  | some player =>
    rw [hplayer] at h
    exact exists_playManual (h.resolve_left (by simp)) player run

/-- How far the turns of a plan get from turn zero. -/
theorem turn_of_playTurns {plan : Plan} {seed : UInt64} {run stopped : Run}
    {chronicle : Chronicle} (h : run.life.turn = 0)
    (hturns : plan.playTurns seed run = .ok (chronicle, stopped)) :
    stopped.life.turn ≤ plan.maxTurns + 1 ∧
      (stopped.life.turn ≤ plan.maxTurns ↔ plan.strategy.isManual = false ∨
        Life.maxTurn ≤ plan.maxTurns ∨ ∃ report ∈ chronicle.reports, report.phase ≠ .active) := by
  rw [← Player.isSome_ofStrategy? plan.strategy seed]
  rw [playTurns] at hturns
  cases hplayer : Player.ofStrategy? plan.strategy seed with
  | none =>
    rw [hplayer] at hturns
    have hplayed : (playAlone plan.maxTurns run).2 = stopped :=
      congrArg Prod.snd (Except.ok.inj hturns)
    have hle := turn_playAlone plan.maxTurns run
    rw [hplayed, h, Nat.zero_add] at hle
    exact ⟨Nat.le_succ_of_le hle, iff_of_true hle (.inl rfl)⟩
  | some player =>
    rw [hplayer] at hturns
    rw [or_iff_right (by simp)]
    exact turn_of_playManual h hturns

/-- A plan that changes nothing before it is played begins at turn zero. -/
theorem turn_start {plan : Plan} (h : plan.setup = id) (setting : Setting Float) (seed : UInt64) :
    (plan.start setting seed).life.turn = 0 := by
  have hbegun : ∀ run : Run, (run.world.mapLife plan.setup).life.turn = run.world.life.turn := by
    intro run
    rw [h]
    rfl
  exact (hbegun _).trans (Scene.turn_begin _ plan.talents _)

/-- **A plan without a player plays at most as many turns as its limit. A player who plays gets at
most one turn further**, into the turn that begins before the limit is looked at, and gets there
exactly when no report that was taken down tells that the run is over. So the limit is kept when
there is no player, when the run was over in time, and when no turn is past the limit. This holds of
every summary that a plan comes to; it comes to one when there is no player, or when a turn can be
past the limit. -/
theorem run_turns (plan : Plan) (setting : Setting Float) (seed : UInt64) (h : plan.setup = id) :
    (plan.strategy.isManual = false ∨ plan.maxTurns < Life.maxTurn →
      ∃ summary, plan.run setting seed = .ok summary) ∧
    ∀ summary, plan.run setting seed = .ok summary →
      summary.life.turn ≤ plan.maxTurns + 1 ∧
        (summary.life.turn ≤ plan.maxTurns ↔ plan.strategy.isManual = false ∨
          Life.maxTurn ≤ plan.maxTurns ∨
          ∃ report ∈ summary.chronicle.reports, report.phase ≠ .active) := by
  refine ⟨fun hends ↦ ?_, fun summary hrun ↦ ?_⟩
  · obtain ⟨played, hturns⟩ := exists_playTurns hends seed (plan.start setting seed)
    obtain ⟨summary, hrun, -⟩ := run_of_playTurns hturns
    exact ⟨summary, hrun⟩
  · obtain ⟨stopped, hturns, hturn⟩ := playTurns_of_run hrun
    rw [hturn]
    exact turn_of_playTurns (turn_start h setting seed) hturns

/-- Nothing to live through. -/
def emptySetting : Setting Float := ⟨.ofBase .empty, .default⟩

/-- The simulation plays three turns at most. -/
theorem simulation_keeps_three_turns :
    (simple .autonomous 3).setup = id ∧ ∃ summary,
      (simple .autonomous 3).run emptySetting 7 = .ok summary ∧ summary.life.turn ≤ 3 := by
  have hsetup : (simple .autonomous 3).setup = id := rfl
  obtain ⟨hends, hturns⟩ := run_turns (simple .autonomous 3) emptySetting 7 hsetup
  obtain ⟨summary, hrun⟩ := hends (.inl rfl)
  exact ⟨hsetup, summary, hrun, (hturns summary hrun).2.2 (.inl rfl)⟩

/-- A player who is to play one turn gets into a second one. -/
theorem player_gets_into_a_second_turn :
    ∃ summary, (simple .firstOffer 1).run emptySetting 7 = .ok summary ∧
      ¬ summary.life.turn ≤ (simple .firstOffer 1).maxTurns := by
  have hturn : ((simple .firstOffer 1).run emptySetting 7).toOption.map (·.life.turn) = some 2 := by
    decide +kernel
  obtain ⟨summary, hrun, hlife⟩ := Option.map_eq_some_iff.1 hturn
  cases hok : (simple .firstOffer 1).run emptySetting 7 with
  | error setback =>
    rw [hok] at hrun
    cases hrun
  | ok played =>
    rw [hok] at hrun
    obtain rfl := Option.some.inj hrun
    exact ⟨played, rfl, by rw [hlife]; decide⟩

end Plan

end LifeStory.Trial
