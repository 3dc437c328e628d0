import LifeStory.Proofs.Explained
import LifeStory.Proofs.Places
import LifeStory.Proofs.TurnLimits

/-!
# Positions

What is drawn is a position, and what it is the position of is looked up afterwards, in a list that
may have been made anew, mapped, or shortened meanwhile. No position is past the end of the list
that it is looked up in. This rests on how positions are found, and not on what quantities are:
the walk along the weights ends inside of them (`Draw.pickByRoll_lt`) and a quantity is moved to a
position of the list (`Scalar.toIndex?_lt`), however the arithmetic rounds, and whether or not a
quantity is a number at all.

For ordinary opportunities, which are drawn from a pool that loses one in each round, the rounds
are spelled out (`Opportunity.DrawnInRounds`): each needs a position of the pool as it is then.
Since the pool gets shorter, there are at most as many rounds as there were opportunities.
-/

namespace LifeStory

/-! ### Positions that are drawn -/

theorem Draw.byWeight_lt {R G : Type} [Scalar R] [RandomSource G] {weights : List R}
    {source : Counted G} {position : Nat} {roll : R}
    (h : (byWeight weights source).1 = some (position, roll)) : position < weights.length := by
  by_cases hpositive : Scalar.Positive (Scalar.sum weights)
  · obtain ⟨_, _, hdraw⟩ := byWeight_of_positive hpositive source
    rw [hdraw] at h
    obtain ⟨index, hindex, heq⟩ := Option.map_eq_some_iff.1 h
    obtain ⟨rfl, -⟩ := Prod.mk.inj heq
    exact pickByRoll_lt hindex
  · rw [byWeight_of_not_positive hpositive] at h
    cases h

/-- A draw gives the position of a candidate. -/
theorem Trace.draw_lt {R G : Type} [Scalar R] [RandomSource G] {trace : Trace R}
    {source : Counted G} {position : Nat} (h : (trace.draw source).1 = some position) :
    position < trace.candidates.length := by
  cases hdraw : (Draw.byWeight (trace.candidates.map Weighted.weight) source).1 with
  | none =>
    rw [draw_of_none (Prod.ext hdraw rfl)] at h
    cases h
  | some drawn =>
    have hlt := Draw.byWeight_lt hdraw
    rw [draw_of_some (Prod.ext hdraw rfl)] at h
    obtain rfl := Option.some.inj h
    rwa [List.length_map] at hlt

/-- What is drawn from the pool is looked up in the pool. -/
theorem Catalog.exists_drawEvent {R G : Type} [Scalar R] [RandomSource G] {catalog : Catalog R}
    {showTests : Bool} {life : Life R} {source : Counted G} {position : Nat}
    (h : ((Trace.ofCandidates "events" ((catalog.eligible showTests life).map
      fun e ↦ e.weighted life)).draw source).1 = some position) :
    ∃ hlt : position < (catalog.eligible showTests life).length,
      (catalog.drawEvent showTests life source).1 =
        some (catalog.eligible showTests life)[position] := by
  have hlt : position < (catalog.eligible showTests life).length := by
    have hlt := Trace.draw_lt h
    rwa [Trace.ofCandidates, List.length_map] at hlt
  refine ⟨hlt, ?_⟩
  rw [drawEvent]
  dsimp only
  rw [h, Option.bind_some, List.getElem?_eq_getElem hlt]

namespace Choice

variable {R G : Type} [Scalar R] [RandomSource G] {life : Life R} {chaos : R}
  {choices : List (Choice R)} {source : Counted G}

theorem length_scoredFrom (position : Nat) (source : Counted G) :
    (scoredFrom life chaos position choices source).1.length = choices.length := by
  have hids := congrArg List.length (ids_scoredFrom life chaos position choices source)
  rwa [List.length_map, List.length_mapIdx] at hids

/-- What is drawn from the scored choices is looked up in the choices. -/
theorem exists_draw {position : Nat}
    (h : ((Trace.ofCandidates pool (scoredFrom life chaos 0 choices source).1).draw
      (scoredFrom life chaos 0 choices source).2).1 = some position) :
    ∃ hlt : position < choices.length,
      (draw life chaos choices source).1 = some choices[position] := by
  have hlt : position < choices.length := by
    have hlt := Trace.draw_lt h
    rwa [Trace.ofCandidates, length_scoredFrom] at hlt
  refine ⟨hlt, ?_⟩
  rw [draw]
  dsimp only
  rw [h, Option.bind_some, List.getElem?_eq_getElem hlt]

end Choice

/-- One of several options is drawn. -/
theorem Template.exists_drawOption (R : Type) [Scalar R] {G : Type} [RandomSource G]
    {options : List (List Char)} (h : 1 < options.length) (source : Counted G) :
    ∃ position, ∃ hlt : position < options.length,
      (drawOption R options source).1 = some options[position] := by
  obtain ⟨position, hposition⟩ := Scalar.exists_toIndex? (Nat.zero_lt_of_lt h)
    ((source.unit R).1 * Scalar.ofNat options.length)
  have hlt := Scalar.toIndex?_lt hposition
  refine ⟨position, hlt, ?_⟩
  rw [drawOption, if_neg (Nat.not_le_of_lt h)]
  dsimp only
  rw [hposition, Option.bind_some, List.getElem?_eq_getElem hlt]

/-! ### Opportunities -/

namespace Opportunity

variable {R G : Type} [Scalar R] [RandomSource G]

/-- One of the special opportunities is drawn, if there are any. -/
theorem exists_drawSpecial {special : List (Opportunity R)} (h : special ≠ [])
    (source : Counted G) :
    ∃ position, ∃ hlt : position < special.length,
      (drawSpecial special source).1 = [special[position]] := by
  obtain ⟨position, hposition⟩ := Scalar.exists_toIndex? (List.length_pos_iff.2 h)
    ((source.unit R).1 * Scalar.ofNat special.length)
  have hlt := Scalar.toIndex?_lt hposition
  refine ⟨position, hlt, ?_⟩
  rw [drawSpecial]
  dsimp only
  rw [hposition, Option.bind_some, List.getElem?_eq_getElem hlt]
  rfl

/-- Ordinary opportunities are drawn in a number of rounds, up to a number of opportunities, and
every position is one of the pool that is left by the rounds before. -/
inductive DrawnInRounds (life : Life R) :
    Nat → Nat → List (Opportunity R) → Counted G → List (Opportunity R) × Counted G → Prop where
  /-- There are enough. -/
  | enough {pool source} : DrawnInRounds life 0 0 pool source ([], source)
  /-- None is left. -/
  | usedUp {count source} : DrawnInRounds life 0 count [] source ([], source)
  /-- Nothing can be drawn from what is left. -/
  | undrawn {count pool source later} (hpool : pool ≠ [])
      (hdraw : drawOne life pool source = (none, later)) :
      DrawnInRounds life 1 (count + 1) pool source ([], later)
  /-- One is drawn and taken out of the pool. -/
  | drawn {rounds count pool source next position others later}
      (hdraw : drawOne life pool source = (some position, next)) (hlt : position < pool.length)
      (more : DrawnInRounds life rounds count (pool.eraseIdx position) next (others, later)) :
      DrawnInRounds life (rounds + 1) (count + 1) pool source (pool[position] :: others, later)

/-- There are no more rounds than opportunities, and no more than are asked for. -/
theorem DrawnInRounds.rounds_le {life : Life R} {rounds count : Nat}
    {pool : List (Opportunity R)} {source : Counted G} {result : List (Opportunity R) × Counted G}
    (h : DrawnInRounds life rounds count pool source result) :
    rounds ≤ pool.length ∧ rounds ≤ count := by
  induction h with
  | enough => exact ⟨Nat.zero_le _, Nat.zero_le _⟩
  | usedUp => exact ⟨Nat.zero_le _, Nat.zero_le _⟩
  | undrawn hpool => exact ⟨List.length_pos_iff.2 hpool, Nat.le_add_left 1 _⟩
  | drawn _ hlt _ ih =>
    rw [List.length_eraseIdx_of_lt hlt] at ih
    omega

/-- **Ordinary opportunities are drawn in rounds**, each from what the one before has left. -/
theorem exists_drawnInRounds (life : Life R) (count : Nat) (pool : List (Opportunity R))
    (source : Counted G) :
    ∃ rounds,
      DrawnInRounds life rounds count pool source (drawOrdinary life count pool source) := by
  induction count generalizing pool source with
  | zero => exact ⟨0, .enough⟩
  | succ count ih =>
    by_cases hpool : pool = []
    · rw [hpool]
      exact ⟨0, .usedUp⟩
    cases hdrawn : (drawOne life pool source).1 with
    | none =>
      rw [drawOrdinary_of_none hpool hdrawn]
      exact ⟨1, .undrawn hpool (Prod.ext hdrawn rfl)⟩
    | some position =>
      have hlt := drawOne_lt hdrawn
      obtain ⟨rounds, hrounds⟩ := ih (pool.eraseIdx position) (drawOne life pool source).2
      rw [drawOrdinary_of_some hpool hdrawn, List.getElem?_eq_getElem hlt]
      exact ⟨rounds + 1, .drawn (Prod.ext hdrawn rfl) hlt hrounds⟩

end Opportunity

/-! ### Buckets -/

/-- A choice with buckets comes to one of them. -/
theorem Choice.exists_bucket {R G : Type} [Scalar R] [RandomSource G] {choice : Choice R}
    (h : choice.results ≠ []) (source : Counted G) :
    ∃ position, ∃ hlt : position < choice.results.length,
      (choice.resolve source).1.bucket = some position ∧
      (choice.resolve source).1.feedback = choice.results[position].feedback ∧
      (choice.resolve source).1.outcomes = choice.results[position].outcomes := by
  obtain ⟨position, bucket, trace, hget, hresolve, -⟩ := resolve_of_buckets h source
  obtain ⟨hlt, rfl⟩ := List.getElem?_eq_some_iff.1 hget
  rw [hresolve]
  exact ⟨position, hlt, rfl, rfl, rfl⟩

/-! ### Open choices -/

/-- An answer that is taken resolves the first open choice with its id. -/
theorem Session.exists_position_of_choose {R A G : Type} [Scalar R] [AchievementSink A]
    [RandomSource G] {session : Session R A G} {id : CandidateId} {report : TurnReport R}
    (h : (session.choose id).1 = .ok report) :
    ∃ position, ∃ hlt : position < session.pending.length,
      session.pending.findIdx? (fun c ↦ c.id = id) = some position ∧
      report = (session.world.resolve session.setting session.pending[position]).1 := by
  rcases session.choose_cases id with ⟨candidate, -, hfind, hchoose⟩ | ⟨_, hrefused⟩
  · obtain ⟨hid, position, hlt, rfl, hearlier⟩ := List.find?_eq_some_iff_getElem.1 hfind
    have hfirst : session.pending.findIdx? (fun c ↦ c.id = id) = some position := by
      refine List.findIdx?_eq_some_iff_getElem.2 ⟨hlt, hid, fun j hj ↦ ?_⟩
      exact Bool.not_eq_true _ ▸ Bool.not_eq_true' _ ▸ hearlier j hj
    rw [hchoose] at h
    exact ⟨position, hlt, hfirst, (Except.ok.inj h).symm⟩
  · rw [hrefused] at h
    cases h

/-! ### Modifiers -/

theorem Life.fst_wearModifiers_add {R : Type} (life : Life R) :
    life.wearModifiers.1 + life.wearModifiers.2.eventModifiers.length =
      life.eventModifiers.length := by
  have hle : ∀ {α : Type} (p : α → Bool) (xs : List α),
      xs.length - (xs.filter p).length + (xs.filter p).length = xs.length :=
    fun p xs ↦ Nat.sub_add_cancel (xs.length_filter_le p)
  exact (hle _ _).trans (List.length_map _)

/-! ### Trials -/

namespace Trial

/-- An offer of choices is not empty: not the one of a turn that a player begins, and not that of
one that begins after time has passed. -/
theorem ne_nil_of_offer {run : Run} {offered : List (Candidate Float)}
    (h : run.beginManual.1.offer = .candidates offered ∨
      ∃ next later, run.timePasses = (.ok next, later) ∧ next.offer = .candidates offered) :
    offered ≠ [] := by
  rcases h with hoffer | ⟨next, later, hpassed, hoffer⟩
  · exact (opened_beginManual run).ne_nil hoffer
  · exact (opened_timePasses hpassed).1.ne_nil hoffer

end Trial

/-! ### All positions -/

/-- **No position that is drawn is out of range.** Whatever quantities are and however they are
rounded, for all content, states, settings and sources:
* the walk along weights, a draw from candidates and a quantity that is taken as a position give
  positions of the list that they are given;
* an event and a choice that are drawn are looked up in the pool that their weights were made of;
* of special opportunities, of which there are some, one is drawn, and so is one of several options
  of a text;
* ordinary opportunities are drawn in rounds, each at a position of what is left in the pool, which
  is taken out; there are at most as many rounds as there were opportunities;
* a choice with buckets has a last one, and comes to one of them;
* an answer that is taken resolves an open choice at its position;
* an offer of choices that a player of a trial answers has a last one, and whatever is decided, one
  of them is picked; so a play that ends has answered all its offers, and it ends if a turn can be
  past the limit;
* no more modifiers are left than there were. -/
theorem draws_stay_in_range {R A G : Type} [Scalar R] [AchievementSink A] [RandomSource G] :
    (∀ (weights : List R) roll position, Draw.pickByRoll weights roll = some position →
      position < weights.length) ∧
    (∀ (trace : Trace R) (source : Counted G) position, (trace.draw source).1 = some position →
      position < trace.candidates.length) ∧
    (∀ (x : R) length position, Scalar.toIndex? x length = some position → position < length) ∧
    (∀ (catalog : Catalog R) showTests life (source : Counted G) position,
      let pool := catalog.eligible showTests life
      ((Trace.ofCandidates "events" (pool.map fun e ↦ e.weighted life)).draw source).1 =
          some position →
        ∃ hlt : position < pool.length,
          (catalog.drawEvent showTests life source).1 = some pool[position]) ∧
    (∀ life chaos (choices : List (Choice R)) (source : Counted G) position,
      let scored := Choice.scoredFrom life chaos 0 choices source
      ((Trace.ofCandidates Choice.pool scored.1).draw scored.2).1 = some position →
        ∃ hlt : position < choices.length,
          (Choice.draw life chaos choices source).1 = some choices[position]) ∧
    (∀ (special : List (Opportunity R)) (source : Counted G), special ≠ [] →
      ∃ position, ∃ hlt : position < special.length,
        (Opportunity.drawSpecial special source).1 = [special[position]]) ∧
    (∀ (options : List (List Char)) (source : Counted G), 1 < options.length →
      ∃ position, ∃ hlt : position < options.length,
        (Template.drawOption R options source).1 = some options[position]) ∧
    (∀ (life : Life R) count pool (source : Counted G),
      ∃ rounds ≤ pool.length, Opportunity.DrawnInRounds life rounds count pool source
        (Opportunity.drawOrdinary life count pool source)) ∧
    (∀ (choice : Choice R) (source : Counted G), choice.results ≠ [] →
      choice.results.length - 1 + 1 = choice.results.length ∧
      ∃ position, ∃ hlt : position < choice.results.length,
        (choice.resolve source).1.bucket = some position ∧
        (choice.resolve source).1.feedback = choice.results[position].feedback ∧
        (choice.resolve source).1.outcomes = choice.results[position].outcomes) ∧
    (∀ (session : Session R A G) id report, (session.choose id).1 = .ok report →
      ∃ position, ∃ hlt : position < session.pending.length,
        session.pending.findIdx? (fun c ↦ c.id = id) = some position ∧
        report = (session.world.resolve session.setting session.pending[position]).1) ∧
    (∀ (run : Trial.Run) offered,
      (run.beginManual.1.offer = .candidates offered ∨
        ∃ next later, run.timePasses = (.ok next, later) ∧ next.offer = .candidates offered) →
      offered.length - 1 + 1 = offered.length ∧
      ∀ decision : Trial.Decision, ∃ hlt : min decision.index (offered.length - 1) < offered.length,
        decision.of? offered = some offered[min decision.index (offered.length - 1)]) ∧
    (∀ limit player run, (limit < Life.maxTurn →
        ∃ result, Trial.playManual limit player run = .ok result) ∧
      ∀ chronicle stopped, Trial.playManual limit player run = .ok (chronicle, stopped) →
        chronicle.Answered) ∧
    ∀ life : Life R, life.wearModifiers.1 + life.wearModifiers.2.eventModifiers.length =
      life.eventModifiers.length := by
  refine ⟨fun _ _ _ ↦ Draw.pickByRoll_lt, fun _ _ _ ↦ Trace.draw_lt,
    fun _ _ _ ↦ Scalar.toIndex?_lt, fun _ _ _ _ _ ↦ Catalog.exists_drawEvent,
    fun _ _ _ _ _ ↦ Choice.exists_draw, fun _ source h ↦ Opportunity.exists_drawSpecial h source,
    fun _ source h ↦ Template.exists_drawOption R h source, fun life count pool source ↦ ?_,
    fun choice source h ↦ ⟨Nat.sub_add_cancel (List.length_pos_iff.2 h),
      Choice.exists_bucket h source⟩,
    fun _ _ _ ↦ Session.exists_position_of_choose, fun run offered h ↦ ?_,
    fun limit player run ↦ ⟨fun hlimit ↦ Trial.exists_playManual hlimit player run,
      fun chronicle stopped hplay ↦ ?_⟩,
    Life.fst_wearModifiers_add⟩
  · obtain ⟨rounds, hrounds⟩ := Opportunity.exists_drawnInRounds life count pool source
    exact ⟨rounds, hrounds.rounds_le.1, hrounds⟩
  · have hne := Trial.ne_nil_of_offer h
    exact ⟨Nat.sub_add_cancel (List.length_pos_iff.2 hne), Trial.Decision.of?_eq_getElem hne⟩
  · exact (Trial.Stage.played_of_play (Trial.Stage.opened_begin player run) hplay).answered

/-- A coin of which one side has a weight that is not defined. -/
def bentCoin : Choice Float :=
  { Choice.plain none "Toss" with
    results := [⟨some 1.0, [], some "heads"⟩, ⟨some Scalar.undefined, [], some "tails"⟩] }

/-- With weights and rolls that are not defined, on a road where one choice is open, nothing is out
of range. -/
theorem bent_coin_falls_in_range :
    let undefined : Float := Scalar.undefined
    let source : Counted Xoshiro := Streams.streamOf 7 .text
    let run : Trial.Run := .begin ⟨Session.roadCatalog, .default⟩ 7 ⟨.empty, []⟩ []
    let road := Session.roadCatalog.eligible false run.life
    let begun := run.beginManual
    (Draw.pickByRoll [undefined, undefined] undefined = some 1 ∧
      1 < [undefined, undefined].length) ∧
    (Scalar.toIndex? undefined 3 = some 0 ∧ 0 < 3) ∧
    (∃ hlt : 0 < road.length,
      (Session.roadCatalog.drawEvent false run.life source).1 = some road[0]) ∧
    (∃ position, ∃ hlt : position < [['a'], ['b']].length,
      (Template.drawOption Float [['a'], ['b']] source).1 = some [['a'], ['b']][position]) ∧
    (bentCoin.results ≠ [] ∧ ∃ position < bentCoin.results.length,
      (bentCoin.resolve source).1.bucket = some position) ∧
    (∃ candidate ∈ begun.2.pending, ∃ report, (begun.2.choose candidate.id).1 = .ok report ∧
      ∃ position < begun.2.pending.length,
        begun.2.pending.findIdx? (fun c ↦ c.id = candidate.id) = some position) ∧
    ∃ offered, begun.1.offer = .candidates offered ∧ offered.length - 1 + 1 = offered.length := by
  intro undefined source run road begun
  obtain ⟨hwalk, -, hindex, hevent, -, -, hoption, -, hbucket, hanswer, hoffer, -, -⟩ :=
    draws_stay_in_range (R := Float) (A := Ledger) (G := Xoshiro)
  have hlast : Draw.pickByRoll [undefined, undefined] undefined = some 1 := by decide +kernel
  have hfirst : Scalar.toIndex? undefined 3 = some 0 := by decide +kernel
  have hdrawn : ((Trace.ofCandidates "events" (road.map fun e ↦ e.weighted run.life)).draw
      source).1 = some 0 := by
    decide +kernel
  have hresults : bentCoin.results ≠ [] := List.cons_ne_nil _ _
  obtain ⟨-, position, hlt, hposition, -⟩ := hbucket bentCoin source hresults
  have hopen : begun.2.pending ≠ [] := by
    rw [← List.isEmpty_eq_false_iff]
    decide +kernel
  have hactive : begun.2.life.phase = .active := by decide +kernel
  obtain ⟨candidate, hcandidate⟩ := List.exists_mem_of_ne_nil _ hopen
  obtain ⟨report, hreport⟩ := Session.choose_of_open hactive ⟨candidate, hcandidate, rfl⟩
  obtain ⟨place, hplace, hfound, -⟩ := hanswer begun.2 candidate.id report hreport
  have hsome : begun.1.offer.pending ≠ [] := by
    rwa [← (Trial.opened_beginManual run).pending]
  have hoffered : begun.1.offer = .candidates begun.1.offer.pending := by
    cases heq : begun.1.offer with
    | candidates offered => rfl
    | timePasses => exact absurd (congrArg Offer.pending heq) hsome
    | runOver => exact absurd (congrArg Offer.pending heq) hsome
  exact ⟨⟨hlast, hwalk _ _ _ hlast⟩, ⟨hfirst, hindex _ _ _ hfirst⟩,
    hevent Session.roadCatalog false run.life source 0 hdrawn,
    hoption [['a'], ['b']] source (by decide), ⟨hresults, position, hlt, hposition⟩,
    ⟨candidate, hcandidate, report, hreport, place, hplace, hfound⟩,
    ⟨_, hoffered, (hoffer run _ (.inl hoffered)).1⟩⟩

end LifeStory
