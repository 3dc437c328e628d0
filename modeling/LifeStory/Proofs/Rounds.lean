import LifeStory.Proofs.Answers
import LifeStory.Proofs.StandingOffers
import LifeStory.Proofs.TurnCounter
import LifeStory.Trial.Play
import Mathlib.Logic.Relation

/-!
# Rounds of a player

A player and a run are two machines that talk to each other. The player goes by what the last turn
offered, the run by the phase that it is in and by the choices that are open. That the two agree is
what `Opened` says of a turn that has begun. No round that begins so is set back: it ends the play,
and its reports tell that the run is over (`Stage.Ends`), or it goes on to the next turn that has
begun, and they tell that it is not (`Stage.GoesOn`). All that is said of play comes from these two
cases (`Stage.round_cases`), by induction on the rounds.

A play that has ended is the same when more rounds may be played (`Stage.play_of_le`). It ends if
the limit can be got past and there are enough rounds for that (`Stage.exists_play_of_room`).
Whatever the limit, some number of rounds is enough exactly if it comes to a stage that no other
follows (`Stage.exists_play_iff`).
-/

namespace LifeStory

/-! ### Turns that have begun -/

/-- What a turn that has begun tells of the life that it left. -/
structure ManualTurn.Stands {R : Type} (turn : ManualTurn R) (life : Life R) : Prop where
  phase : turn.report.phase = life.phase
  over_iff : turn.offer = .runOver ↔ life.phase ≠ .active
  /-- Who may choose has something to choose from. -/
  nonempty : turn.offer ≠ .candidates []

namespace World

variable {R A G : Type} [Scalar R] [AchievementSink A] [RandomSource G] {setting : Setting R}

omit [AchievementSink A] in
/-- What is gathered does not say that the run is over, and is not an empty choice. -/
theorem gatherOffer_ne (setting : Setting R) (world : World R A G) :
    (world.gatherOffer setting).1 ≠ .runOver ∧ (world.gatherOffer setting).1 ≠ .candidates [] := by
  cases hevents : (setting.catalog.eligible setting.config.showTestEvents world.life).isEmpty with
  | true =>
    rw [gatherOffer_of_no_event hevents]
    exact ⟨nofun, nofun⟩
  | false =>
    cases hoffered : (world.drawCandidates setting).1.isEmpty with
    | true =>
      rw [gatherOffer_of_no_choice hevents hoffered]
      exact ⟨nofun, nofun⟩
    | false =>
      rw [gatherOffer_of_choices hevents hoffered]
      refine ⟨nofun, fun hempty ↦ ?_⟩
      rw [Offer.candidates.inj hempty] at hoffered
      cases hoffered

/-- A manual turn that begins tells truly how it left the life. -/
theorem stands_beginManual (world : World R A G) :
    (world.beginManual setting).1.Stands (world.beginManual setting).2.life := by
  cases hactive : (world.advance setting).2.life.isActive with
  | true =>
    have hphase : (world.advance setting).2.life.phase = .active := of_decide_eq_true hactive
    obtain ⟨hgoes, hsome⟩ := (world.advance setting).2.gatherOffer_ne setting
    rw [beginManual_of_active hactive]
    refine ⟨rfl, ⟨fun hover ↦ absurd hover hgoes, fun hover ↦ ?_⟩, hsome⟩
    exact absurd ((phase_gatherOffer _).trans hphase) hover
  | false =>
    rw [beginManual_of_over hactive]
    exact ⟨rfl, ⟨fun _ ↦ of_decide_eq_false hactive, fun _ ↦ rfl⟩, nofun⟩

theorem stands_passTime (world : World R A G) :
    (world.passTime setting).1.Stands (world.passTime setting).2.life :=
  have h : ((world.note .system none timePassesLine).beginManual setting).1.Stands _ :=
    stands_beginManual _
  ⟨h.phase, h.over_iff, h.nonempty⟩

end World

namespace Trial

/-! ### What is taken down -/

/-- What is taken down when an offer is answered. -/
def Chronicle.ofAnswer (offered : Nat) (move : Move) (run : Run) (report : TurnReport Float) :
    Chronicle :=
  ((Chronicle.ofOffer offered).append (.ofMove move)).append (.ofReport run report)

/-- No report that was taken down tells that the run is over. -/
def Chronicle.Active (chronicle : Chronicle) : Prop :=
  ∀ report ∈ chronicle.reports, report.phase = .active

namespace Chronicle

/-- Something tells that the run is over exactly if a report does. -/
theorem not_active_iff {chronicle : Chronicle} :
    ¬ chronicle.Active ↔ ∃ report ∈ chronicle.reports, report.phase ≠ .active := by
  simp only [Active, Classical.not_forall, exists_prop, ne_eq]

theorem active_empty : Chronicle.empty.Active := nofun

theorem active_append {a b : Chronicle} : (a.append b).Active ↔ a.Active ∧ b.Active :=
  List.forall_mem_append

theorem active_ofReport {run : Run} {report : TurnReport Float} :
    (ofReport run report).Active ↔ report.phase = .active :=
  List.forall_mem_singleton

theorem active_ofAnswer {offered : Nat} {move : Move} {run : Run} {report : TurnReport Float} :
    (ofAnswer offered move run report).Active ↔ report.phase = .active :=
  List.forall_mem_singleton

end Chronicle

/-- What the moves of the simulation are taken down under. -/
def engineName : String := "engine"

namespace Chronicle

/-- The choices that a player made. -/
def manualMoves (chronicle : Chronicle) : List Move :=
  chronicle.moves.filter fun move ↦ move.player ≠ engineName

/-- Every offer was answered: a player has made one choice for each of them, and had something to
choose from. -/
structure Answered (chronicle : Chronicle) : Prop where
  sizes : chronicle.offerSizes = chronicle.manualMoves.map Move.offered
  positive : ∀ size ∈ chronicle.offerSizes, 1 ≤ size

theorem answered_empty : Chronicle.empty.Answered := ⟨rfl, nofun⟩

theorem answered_ofReport (run : Run) (report : TurnReport Float) :
    (ofReport run report).Answered :=
  ⟨rfl, nofun⟩

/-- Chronicles that were answered make up one that was answered. -/
theorem Answered.append {a b : Chronicle} (ha : a.Answered) (hb : b.Answered) :
    (a.append b).Answered where
  sizes := by
    show a.offerSizes ++ b.offerSizes = ((a.moves ++ b.moves).filter _).map _
    rw [List.filter_append, List.map_append, ha.sizes, hb.sizes]
    rfl
  positive := List.forall_mem_append.2 ⟨ha.positive, hb.positive⟩

end Chronicle

theorem Player.name_ne_engineName (player : Player) : player.name ≠ engineName := by
  cases player <;> exact of_decide_eq_true rfl

/-- What is taken down of an offer of something and of the answer to it. -/
theorem Chronicle.answered_ofAnswer {offered : List (Candidate Float)} (hoffered : offered ≠ [])
    (run : Run) (player : Player) (decision : Decision) (picked : Candidate Float) (after : Run)
    (report : TurnReport Float) :
    (ofAnswer offered.length (moveOfPlayer run player decision offered.length picked) after
      report).Answered := by
  refine .append ⟨?_, ?_⟩ (answered_ofReport after report)
  · have hmanual : (moveOfPlayer run player decision offered.length picked).player ≠ engineName :=
      player.name_ne_engineName
    show [offered.length] = (List.filter _ [_]).map Move.offered
    rw [List.filter_cons, if_pos (decide_eq_true hmanual)]
    rfl
  · exact List.forall_mem_singleton.2 (List.length_pos_iff.2 hoffered)

/-- Whatever is decided, one of the choices that are offered is picked: the last one, if the
decision is for a position after it. -/
theorem Decision.of?_eq_getElem {α : Type} {offered : List α} (h : offered ≠ [])
    (decision : Decision) :
    ∃ hlt : min decision.index (offered.length - 1) < offered.length,
      decision.of? offered = some offered[min decision.index (offered.length - 1)] := by
  have hpositive : 0 < offered.length := List.length_pos_iff.2 h
  have hlt : min decision.index (offered.length - 1) < offered.length := by omega
  exact ⟨hlt, List.getElem?_eq_getElem hlt⟩

/-- Whatever a player decides, it is for one of the choices, if there are any. -/
theorem Decision.exists_of? {α : Type} {offered : List α} (decision : Decision)
    (h : offered ≠ []) : ∃ picked ∈ offered, decision.of? offered = some picked := by
  obtain ⟨hlt, hof⟩ := decision.of?_eq_getElem h
  exact ⟨_, List.getElem_mem hlt, hof⟩

/-- An answer to an offer of something is taken down with the offer. -/
theorem answered_answer {player next : Player} {offered : List (Candidate Float)} {run after : Run}
    {made : Chronicle} (h : answer player offered run = .ok (made, next, after))
    (hoffered : offered ≠ []) : made.Answered := by
  rcases hpick : player.pick run.life offered with ⟨decision, other⟩
  obtain ⟨picked, -, hof⟩ := decision.exists_of? hoffered
  rw [answer, hpick] at h
  dsimp only at h
  rw [hof] at h
  dsimp only at h
  split at h
  · cases h
  · next report chosen _ =>
    obtain ⟨rfl, -⟩ := Prod.mk.inj (Except.ok.inj h)
    exact Chronicle.answered_ofAnswer hoffered run player decision picked chosen report

/-! ### Turns of a player that have begun -/

/-- A turn has begun, and tells truly what the player may do in the run that it left. -/
structure Opened (current : ManualTurn Float) (run : Run) : Prop where
  stands : current.Stands run.life
  pending : run.pending = current.offer.pending

/-- A choice that is taken does not end the turn, and its report tells how the run stands after
it. -/
theorem taken_choose {run after : Run} {id : CandidateId} {report : TurnReport Float}
    (h : run.choose id = (.ok report, after)) :
    after.life.turn = run.life.turn ∧ report.phase = after.life.phase := by
  obtain ⟨-, candidate, -, -, hchoose⟩ := Session.exists_of_choose_ok (congrArg Prod.fst h)
  rw [h] at hchoose
  obtain ⟨hreport, rfl⟩ := Prod.mk.inj hchoose
  rw [Except.ok.inj hreport]
  exact ⟨run.world.turn_resolve candidate, rfl⟩

/-- A manual turn that begins is open to the player. -/
theorem opened_beginManual (run : Run) : Opened run.beginManual.1 run.beginManual.2 :=
  ⟨run.world.stands_beginManual, rfl⟩

/-- A manual turn over a run that goes on has the next number. -/
theorem turn_beginManual {run : Run} (h : run.life.isActive = true) :
    run.beginManual.2.life.turn = succUpTo Life.maxTurn run.life.turn := by
  rw [← Life.nextTurn_of_active h]
  exact run.world.turn_beginManual

/-- Time that passes opens the next turn. -/
theorem opened_timePasses {run later : Run} {next : ManualTurn Float}
    (h : run.timePasses = (.ok next, later)) :
    Opened next later ∧ later.life.turn = succUpTo Life.maxTurn run.life.turn := by
  rcases run.timePasses_cases with ⟨hactive, hpassed⟩ | hrefused
  · rw [h] at hpassed
    obtain ⟨hnext, rfl⟩ := Prod.mk.inj hpassed
    obtain rfl := Except.ok.inj hnext
    rw [← Life.nextTurn_of_active hactive]
    exact ⟨⟨run.world.stands_passTime, rfl⟩, run.world.turn_passTime⟩
  · rw [h] at hrefused
    cases hrefused

section Opened

variable {current : ManualTurn Float} {run : Run} (h : Opened current run)

include h

/-- A run whose turn offers anything goes on. -/
theorem Opened.isActive (hgoes : current.offer ≠ .runOver) : run.life.isActive = true := by
  refine decide_eq_true (Decidable.byContradiction fun hover ↦ hgoes ?_)
  exact h.stands.over_iff.2 hover

/-- A turn that does not end the run tells that it goes on. -/
theorem Opened.phase_eq (hgoes : current.offer ≠ .runOver) : current.report.phase = .active :=
  h.stands.phase.trans (of_decide_eq_true (h.isActive hgoes))

/-- Choices that are offered are some. -/
theorem Opened.ne_nil {offered : List (Candidate Float)}
    (hoffer : current.offer = .candidates offered) : offered ≠ [] :=
  fun hnil ↦ h.stands.nonempty (by rw [hoffer, hnil])

/-- Time may pass where nothing else is offered. -/
theorem Opened.timePasses (hoffer : current.offer = .timePasses) :
    ∃ next later, run.timePasses = (.ok next, later) := by
  have hactive := h.isActive (by rw [hoffer]; nofun)
  exact ⟨_, _, by rw [Session.timePasses, if_pos hactive]⟩

/-- A choice that is offered is taken. -/
theorem Opened.choose {offered : List (Candidate Float)}
    (hoffer : current.offer = .candidates offered) {picked : Candidate Float}
    (hpicked : picked ∈ offered) : ∃ report after, run.choose picked.id = (.ok report, after) := by
  have hphase : run.life.phase = .active := of_decide_eq_true (h.isActive (by rw [hoffer]; nofun))
  have hopen : picked ∈ run.pending := by
    rw [h.pending, hoffer]
    exact hpicked
  obtain ⟨report, htaken⟩ := Session.choose_of_open hphase ⟨picked, hopen, rfl⟩
  exact ⟨report, _, Prod.ext htaken rfl⟩

/-- A player's answer to an offer makes one of the choices. -/
theorem Opened.answer {offered : List (Candidate Float)}
    (hoffer : current.offer = .candidates offered) (player : Player) :
    ∃ picked ∈ offered, ∃ report after move next,
      run.choose picked.id = (.ok report, after) ∧
        answer player offered run =
          .ok (.ofAnswer offered.length move after report, next, after) := by
  rcases hpick : player.pick run.life offered with ⟨decision, next⟩
  obtain ⟨picked, hpicked, hof⟩ := decision.exists_of? (h.ne_nil hoffer)
  obtain ⟨report, after, hchoose⟩ := h.choose hoffer hpicked
  refine ⟨picked, hpicked, report, after, moveOfPlayer run player decision offered.length picked,
    next, hchoose, ?_⟩
  rw [Trial.answer, hpick]
  dsimp only
  rw [hof]
  dsimp only
  rw [hchoose]
  rfl

end Opened

/-! ### Rounds -/

namespace Stage

variable {limit rounds more : Nat} {stage next last : Stage} {page chronicle : Chronicle}
  {stopped : Run} {result : Chronicle × Run}

/-- Play begins with a turn that has begun. -/
theorem opened_begin (player : Player) (run : Run) :
    Opened (begin player run).current (begin player run).run :=
  opened_beginManual run

/-- A round ends the play: the run is over, and is told to be, in the turn that had begun. -/
structure Ends (stage : Stage) (page : Chronicle) (stopped : Run) : Prop where
  answered : page.Answered
  told : ¬ page.Active
  turn : stopped.life.turn = stage.run.life.turn

/-- A round goes on to the next turn. -/
structure GoesOn (stage : Stage) (page : Chronicle) (next : Stage) : Prop where
  answered : page.Answered
  active : page.Active
  opened : Opened next.current next.run
  turn : next.run.life.turn = succUpTo Life.maxTurn stage.run.life.turn

/-- A round in which an offer is answered. The turn counter stands still meanwhile, and the answer
tells whether the run goes on, with the turn that the player begins next. -/
theorem round_of_candidates {offered : List (Candidate Float)}
    (h : Opened stage.current stage.run) (hoffer : stage.current.offer = .candidates offered) :
    ∃ page player after, stage.round =
        .ok (page, if after.life.isActive then .inl (begin player after) else .inr after) ∧
      page.Answered ∧ (page.Active ↔ after.life.phase = .active) ∧
      after.life.turn = stage.run.life.turn := by
  obtain ⟨_, -, report, after, move, player, hchoose, hanswer⟩ := h.answer hoffer stage.player
  obtain ⟨hturn, htold⟩ := taken_choose hchoose
  have hpage := Chronicle.answered_ofReport stage.run stage.current.report
  have hphase : stage.current.report.phase = .active := h.phase_eq (by rw [hoffer]; nofun)
  refine ⟨(Chronicle.ofReport stage.run stage.current.report).append
    (.ofAnswer offered.length move after report), player, after, ?_,
    hpage.append (answered_answer hanswer (h.ne_nil hoffer)), ?_, hturn⟩
  · rw [round, hoffer]
    dsimp only
    rw [hanswer]
  · rw [Chronicle.active_append, Chronicle.active_ofReport, Chronicle.active_ofAnswer,
      and_iff_right hphase, htold]

/-- **A round from a turn that has begun** ends the play or goes on. It is not set back. -/
theorem round_cases (h : Opened stage.current stage.run) :
    (∃ page stopped, stage.round = .ok (page, .inr stopped) ∧ stage.Ends page stopped) ∨
      ∃ page next, stage.round = .ok (page, .inl next) ∧ stage.GoesOn page next := by
  have hpage := Chronicle.answered_ofReport stage.run stage.current.report
  cases hoffer : stage.current.offer with
  | runOver =>
    have hover : ¬ (Chronicle.ofReport stage.run stage.current.report).Active := by
      rw [Chronicle.active_ofReport, h.stands.phase]
      exact h.stands.over_iff.1 hoffer
    exact .inl ⟨_, stage.run, by rw [round, hoffer], hpage, hover, rfl⟩
  | timePasses =>
    have hphase := h.phase_eq (by rw [hoffer]; nofun)
    obtain ⟨next, later, hwait⟩ := h.timePasses hoffer
    obtain ⟨hopened, hturn⟩ := opened_timePasses hwait
    refine .inr ⟨_, ⟨next, stage.player, later⟩, ?_, hpage, Chronicle.active_ofReport.2 hphase,
      hopened, hturn⟩
    rw [round, hoffer]
    dsimp only
    rw [hwait]
  | candidates offered =>
    obtain ⟨page, player, after, hround, hanswered, htells, hturn⟩ := round_of_candidates h hoffer
    by_cases hactive : after.life.isActive = true
    · rw [if_pos hactive] at hround
      refine .inr ⟨page, begin player after, hround, hanswered,
        htells.2 (of_decide_eq_true hactive), opened_begin player after, ?_⟩
      rw [← hturn]
      exact turn_beginManual hactive
    · rw [if_neg hactive] at hround
      exact .inl ⟨page, after, hround, hanswered,
        fun htold ↦ hactive (decide_eq_true (htells.1 htold)), hturn⟩

/-! ### Play -/

/-- A play whose turn is past the limit has ended. -/
theorem play_of_past (h : limit < stage.run.life.turn) (rounds : Nat) :
    stage.play limit rounds = .ok (.empty, stage.run) := by
  rw [play.eq_def, if_pos h]

/-- A play within the limit has not ended when no rounds are left. -/
theorem play_zero (h : stage.run.life.turn ≤ limit) : stage.play limit 0 = .error .endless := by
  rw [play.eq_def, if_neg (Nat.not_lt.2 h)]

/-- Play of which the next round is the last. -/
theorem play_of_last_round (h : stage.run.life.turn ≤ limit)
    (hround : stage.round = .ok (page, .inr stopped)) (rounds : Nat) :
    stage.play limit (rounds + 1) = .ok (page, stopped) := by
  rw [play.eq_def, if_neg (Nat.not_lt.2 h)]
  dsimp only
  rw [hround]

/-- **Play goes round by round.** -/
theorem play_of_round (h : stage.run.life.turn ≤ limit)
    (hround : stage.round = .ok (page, .inl next)) (rounds : Nat) :
    stage.play limit (rounds + 1) =
      (next.play limit rounds).map fun (rest, stopped) ↦ (page.append rest, stopped) := by
  rw [play.eq_def, if_neg (Nat.not_lt.2 h)]
  dsimp only
  rw [hround]
  rfl

/-- What a play that has ended comes to: it is taken down with its answers, it does not get further
than into the turn after the limit, and it gets there exactly when nothing that was taken down tells
that the run is over. -/
structure Played (limit : Nat) (stage : Stage) (chronicle : Chronicle) (stopped : Run) : Prop where
  answered : chronicle.Answered
  turn_le : stopped.life.turn ≤ max stage.run.life.turn (limit + 1)
  sized : stage.run.life.turn ≤ Life.maxTurn → stopped.life.turn ≤ Life.maxTurn
  past_iff : limit < stopped.life.turn ↔ chronicle.Active

theorem Played.past (h : limit < stage.run.life.turn) : Played limit stage .empty stage.run where
  answered := Chronicle.answered_empty
  turn_le := Nat.le_max_left _ _
  sized := id
  past_iff := iff_of_true h Chronicle.active_empty

theorem Ends.played (h : stage.Ends page stopped) (hwithin : stage.run.life.turn ≤ limit) :
    Played limit stage page stopped where
  answered := h.answered
  turn_le := h.turn ▸ Nat.le_max_left _ _
  sized := h.turn ▸ id
  past_iff := iff_of_false (by rw [h.turn]; exact Nat.not_lt.2 hwithin) h.told

theorem GoesOn.played (h : stage.GoesOn page next) (hwithin : stage.run.life.turn ≤ limit)
    (hplayed : Played limit next chronicle stopped) :
    Played limit stage (page.append chronicle) stopped where
  answered := h.answered.append hplayed.answered
  turn_le := by
    have hnext := succUpTo_le_succ Life.maxTurn stage.run.life.turn
    have hlast := hplayed.turn_le
    rw [h.turn] at hlast
    omega
  sized hsized := hplayed.sized (h.turn ▸ succUpTo_le hsized)
  past_iff := by rw [hplayed.past_iff, Chronicle.active_append, and_iff_right h.active]

/-- **Play from a turn that has begun** ends, or there are too few rounds for it. -/
theorem play_cases (h : Opened stage.current stage.run) (limit rounds : Nat) :
    (∃ chronicle stopped, stage.play limit rounds = .ok (chronicle, stopped) ∧
      Played limit stage chronicle stopped) ∨ stage.play limit rounds = .error .endless := by
  induction rounds generalizing stage with
  | zero =>
    rcases Nat.lt_or_ge limit stage.run.life.turn with hpast | hwithin
    · exact .inl ⟨_, _, play_of_past hpast 0, .past hpast⟩
    · exact .inr (play_zero hwithin)
  | succ rounds ih =>
    rcases Nat.lt_or_ge limit stage.run.life.turn with hpast | hwithin
    · exact .inl ⟨_, _, play_of_past hpast _, .past hpast⟩
    obtain ⟨page, stopped, hround, hends⟩ | ⟨page, next, hround, hgoes⟩ := round_cases h
    · exact .inl ⟨_, _, play_of_last_round hwithin hround rounds, hends.played hwithin⟩
    obtain ⟨rest, stopped, hplay, hplayed⟩ | hplay := ih hgoes.opened
    · refine .inl ⟨_, _, ?_, hgoes.played hwithin hplayed⟩
      rw [play_of_round hwithin hround, hplay]
      rfl
    · right
      rw [play_of_round hwithin hround, hplay]
      rfl

/-- What holds of a play that has ended. -/
theorem played_of_play (h : Opened stage.current stage.run)
    (hplay : stage.play limit rounds = .ok (chronicle, stopped)) :
    Played limit stage chronicle stopped := by
  obtain ⟨_, _, hok, hplayed⟩ | hendless := play_cases h limit rounds
  · obtain ⟨rfl, rfl⟩ := Prod.mk.inj (Except.ok.inj (hplay.symm.trans hok))
    exact hplayed
  · rw [hplay] at hendless
    cases hendless

/-- A play that has ended is the same when more rounds may be played. -/
theorem play_of_le (hplay : stage.play limit rounds = .ok result) (hle : rounds ≤ more) :
    stage.play limit more = .ok result := by
  induction rounds generalizing stage more result with
  | zero =>
    rcases Nat.lt_or_ge limit stage.run.life.turn with hpast | hwithin
    · rw [← hplay, play_of_past hpast, play_of_past hpast]
    · rw [play_zero hwithin] at hplay
      cases hplay
  | succ rounds ih =>
    rcases Nat.lt_or_ge limit stage.run.life.turn with hpast | hwithin
    · rw [← hplay, play_of_past hpast, play_of_past hpast]
    obtain ⟨more, rfl⟩ : ∃ m, more = m + 1 := ⟨more - 1, by omega⟩
    rw [play.eq_def, if_neg (Nat.not_lt.2 hwithin)] at hplay ⊢
    dsimp only at hplay ⊢
    split at hplay
    next => cases hplay
    next => exact hplay
    next page next hround =>
      cases hrest : next.play limit rounds with
      | error setback =>
        rw [hrest] at hplay
        cases hplay
      | ok rest =>
        rw [hrest] at hplay
        rw [ih hrest (Nat.le_of_succ_le_succ hle)]
        exact hplay

/-- **The limit ends the play**, where a turn can be past it, and there are rounds enough. -/
theorem exists_play_of_room (h : Opened stage.current stage.run) (hlimit : limit < Life.maxTurn)
    (hroom : limit < rounds + stage.run.life.turn) :
    ∃ result, stage.play limit rounds = .ok result := by
  induction rounds generalizing stage with
  | zero => exact ⟨_, play_of_past (by omega) 0⟩
  | succ rounds ih =>
    rcases Nat.lt_or_ge limit stage.run.life.turn with hpast | hwithin
    · exact ⟨_, play_of_past hpast _⟩
    obtain ⟨page, stopped, hround, -⟩ | ⟨page, next, hround, hgoes⟩ := round_cases h
    · exact ⟨_, play_of_last_round hwithin hround rounds⟩
    -- The turn after this one has a larger number, so that a round less is enough from there.
    have hturn : next.run.life.turn = stage.run.life.turn + 1 := by
      rw [hgoes.turn]
      exact succUpTo_of_lt (Nat.lt_of_le_of_lt hwithin hlimit)
    obtain ⟨result, hplay⟩ := ih hgoes.opened (by omega)
    exact ⟨_, by rw [play_of_round hwithin hround, hplay]; rfl⟩

/-- Where the limit ends the play, it makes no difference how many rounds may be played, as long as
there are enough of them. -/
theorem play_eq_of_room (h : Opened stage.current stage.run) (hlimit : limit < Life.maxTurn)
    (hrounds : limit < rounds + stage.run.life.turn) (hmore : limit < more + stage.run.life.turn) :
    stage.play limit rounds = stage.play limit more := by
  obtain ⟨result, hplay⟩ := exists_play_of_room h hlimit hrounds
  obtain ⟨result', hplay'⟩ := exists_play_of_room h hlimit hmore
  rw [hplay, hplay']
  exact (play_of_le hplay (Nat.le_max_left rounds more)).symm.trans
    (play_of_le hplay' (Nat.le_max_right rounds more))

/-! ### Stages that play comes to -/

/-- Another round follows the one that is played. -/
def Next (limit : Nat) (stage next : Stage) : Prop :=
  stage.run.life.turn ≤ limit ∧ ∃ page, stage.round = .ok (page, .inl next)

/-- The play that goes on from a stage comes to another one. -/
abbrev Reaches (limit : Nat) : Stage → Stage → Prop := Relation.ReflTransGen (Next limit)

/-- The stage that follows is one of a turn that has begun. -/
theorem opened_of_next (h : Next limit stage next) (hopened : Opened stage.current stage.run) :
    Opened next.current next.run := by
  obtain ⟨-, _, hround⟩ := h
  obtain ⟨_, _, hlast, -⟩ | ⟨_, _, hgoes, hspec⟩ := round_cases hopened
  · rw [hround] at hlast
    cases hlast
  · rw [hround] at hgoes
    obtain ⟨-, hnext⟩ := Prod.mk.inj (Except.ok.inj hgoes)
    rw [Sum.inl.inj hnext]
    exact hspec.opened

/-- Every stage that play comes to is one of a turn that has begun. -/
theorem Reaches.opened (h : Reaches limit stage last) (hopened : Opened stage.current stage.run) :
    Opened last.current last.run := by
  induction h with
  | refl => exact hopened
  | tail _ hnext ih => exact opened_of_next hnext ih

/-- A stage that no other follows is the last one, whether it is past the limit or not. -/
theorem exists_play_of_last (h : Opened stage.current stage.run)
    (hlast : ∀ next, ¬ Next limit stage next) : ∃ result, stage.play limit 1 = .ok result := by
  rcases Nat.lt_or_ge limit stage.run.life.turn with hpast | hwithin
  · exact ⟨_, play_of_past hpast 1⟩
  obtain ⟨page, stopped, hround, -⟩ | ⟨page, next, hround, -⟩ := round_cases h
  · exact ⟨_, play_of_last_round hwithin hround 0⟩
  · exact absurd ⟨hwithin, page, hround⟩ (hlast next)

/-- Play is endless, however many rounds may be played, from a stage of a kind of which another one
always follows. -/
theorem play_endless {P : Stage → Prop}
    (hstep : ∀ stage, P stage → ∃ next, Next limit stage next ∧ P next) (h : P stage)
    (rounds : Nat) : stage.play limit rounds = .error .endless := by
  obtain ⟨next, ⟨hwithin, page, hround⟩, hnext⟩ := hstep stage h
  induction rounds generalizing stage next page with
  | zero => exact play_zero hwithin
  | succ rounds ih =>
    obtain ⟨later, ⟨hwithin', page', hround'⟩, hlater⟩ := hstep next hnext
    rw [play_of_round hwithin hround, ih hnext later hlater hwithin' page' hround']
    rfl

/-- **Play ends** exactly if it comes to a stage that no other follows. -/
theorem exists_play_iff (h : Opened stage.current stage.run) :
    (∃ rounds result, stage.play limit rounds = .ok result) ↔
      ∃ last, Reaches limit stage last ∧ ∀ next, ¬ Next limit last next := by
  constructor
  · rintro ⟨rounds, result, hplay⟩
    refine Classical.byContradiction fun hnone ↦ ?_
    have hfollows : ∀ last, Reaches limit stage last →
        ∃ next, Next limit last next ∧ Reaches limit stage next := by
      refine fun last hreaches ↦ Classical.byContradiction fun hlast ↦ hnone ⟨last, hreaches, ?_⟩
      exact fun next hnext ↦ hlast ⟨next, hnext, hreaches.tail hnext⟩
    rw [play_endless hfollows .refl] at hplay
    cases hplay
  · rintro ⟨last, hreaches, hlast⟩
    induction hreaches using Relation.ReflTransGen.head_induction_on with
    | refl => exact ⟨1, exists_play_of_last h hlast⟩
    | head hnext _ ih =>
      obtain ⟨rounds, result, hplay⟩ := ih (opened_of_next hnext h)
      obtain ⟨hwithin, page, hround⟩ := hnext
      exact ⟨rounds + 1, _, by rw [play_of_round hwithin hround, hplay]; rfl⟩

end Stage

end Trial

end LifeStory
