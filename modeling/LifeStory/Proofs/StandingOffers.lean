import LifeStory.Proofs.OfferSizes
import LifeStory.Scalar.Float

/-!
# Offers do not go stale

Choices that are open stand in the state that the session is in (`Standing`): the run goes on, at
most one of them is special, and each belongs to an event that may take place and may be made. So
every answer that is not refused makes a choice whose conditions hold in the very state that it
changes.

That there is one special choice at most comes from the draw: special opportunities are drawn at
most one at a time, and the others are drawn from those that are not special.
-/

namespace LifeStory

/-! ### Special choices -/

namespace Opportunity

variable {R G : Type} [Scalar R] [RandomSource G]

/-- At most one of the opportunities that are drawn is special. -/
theorem countP_special_drawn (catalog : Catalog R) (config : Config R) (count : Nat)
    (life : Life R) (source : Counted G) :
    (drawn catalog config count life source).1.countP (fun o ↦ o.choice.special) ≤ 1 := by
  obtain ⟨first, later, -, hlength, hdrawn⟩ := exists_drawn_eq catalog config count life source
  have hfirst : first.length ≤ 1 := by
    rw [hlength]
    split <;> omega
  -- All further ones are drawn from those that are not special.
  have hothers : (drawOrdinary life (count - first.length)
      (ordinaries catalog config.showTestEvents life) later).1.countP
        (fun o ↦ o.choice.special) = 0 := by
    refine List.countP_eq_zero.2 fun o ho ↦ ?_
    have hpool := (List.mem_filter.1 (drawOrdinary_subset life _ _ later ho)).2
    simpa using hpool
  rw [hdrawn, List.countP_append, hothers]
  exact Nat.le_trans List.countP_le_length hfirst

end Opportunity

/-- At most one of the choices that are drawn for an offer is special. -/
theorem Catalog.countP_special_drawCandidates {R G : Type} [Scalar R] [RandomSource G]
    (catalog : Catalog R) (config : Config R) (count : Nat) (life : Life R) (source : Counted G) :
    (catalog.drawCandidates config count life source).1.countP (fun c ↦ c.choice.special) ≤ 1 := by
  have hdrawn := Opportunity.countP_special_drawn catalog config count life source
  rw [← Function.comp_def Choice.special Opportunity.choice, ← List.countP_map] at hdrawn
  rw [drawCandidates_eq, ← Function.comp_def Choice.special Candidate.choice, ← List.countP_map,
    Opportunity.map_choice_toCandidates]
  exact hdrawn

/-! ### Standing -/

/-- Open choices that stand in a state: the run goes on, at most one of them is special, and all
belong to events that may take place and may be made. -/
structure Standing {R : Type} [Scalar R] (setting : Setting R) (life : Life R)
    (offered : List (Candidate R)) : Prop where
  active : offered ≠ [] → life.phase = .active
  special : offered.countP (fun c ↦ c.choice.special) ≤ 1
  fits : ∀ candidate ∈ offered, candidate.Fits setting life

theorem Standing.nil {R : Type} [Scalar R] (setting : Setting R) (life : Life R) :
    Standing setting life [] :=
  ⟨fun h ↦ absurd rfl h, Nat.zero_le _, fun _ h ↦ absurd h List.not_mem_nil⟩

namespace World

variable {R A G : Type} [Scalar R] [AchievementSink A] [RandomSource G] {setting : Setting R}

omit [AchievementSink A] in
theorem countP_special_gatherOffer (world : World R A G) :
    (world.gatherOffer setting).1.pending.countP (fun c ↦ c.choice.special) ≤ 1 :=
  pending_gatherOffer (P := fun offered ↦ offered.countP (fun c ↦ c.choice.special) ≤ 1) world
    (Nat.zero_le _) (Catalog.countP_special_drawCandidates ..)

omit [AchievementSink A] in
/-- The search for an offer does not end a run. -/
theorem phase_gatherOffer (world : World R A G) :
    (world.gatherOffer setting).2.life.phase = world.life.phase := by
  rw [gatherOffer]
  split
  · rfl
  · dsimp only
    split <;> rfl

/-- What a turn offers stands in the state that it leaves. -/
theorem standing_beginManual (world : World R A G) :
    Standing setting (world.beginManual setting).2.life
      (world.beginManual setting).1.offer.pending := by
  cases hactive : (world.advance setting).2.life.isActive with
  | true =>
    rw [beginManual_of_active hactive]
    refine ⟨fun _ ↦ ?_, countP_special_gatherOffer _, (world.advance setting).2.fits_gatherOffer⟩
    exact (phase_gatherOffer _).trans (of_decide_eq_true hactive)
  | false =>
    rw [beginManual_of_over hactive]
    exact .nil setting _

end World

/-! ### Sessions -/

namespace Session

variable {R A G : Type} [Scalar R] [AchievementSink A] [SeededSource G]

/-- A run begins without open choices. -/
theorem begin_eq_idle (setting : Setting R) (seed : UInt64) (sink : A) (talents : List String) :
    (begin setting seed sink talents : Session R A G) =
      idle setting (begin setting seed sink talents).world :=
  rfl

theorem standing_play {session : Session R A G}
    (h : Standing session.setting session.life session.pending) (calls : List Call) :
    Standing (session.play calls).2.setting (session.play calls).2.life
      (session.play calls).2.pending :=
  play_induction (P := fun s ↦ Standing s.setting s.life s.pending)
    (fun _ c hstanding ↦
      pending_call Standing.nil (fun _ world ↦ world.standing_beginManual) hstanding c)
    session h calls

/-- **Offers do not go stale.** Of every session that is opened without open choices, as one that
begins a run (`begin`) or goes on with a life (`ofLife`) is, and that is then asked anything, the
choices that are open stand in the state that it is in. An answer that is not refused makes one of
them, in this state. -/
theorem offers_never_go_stale (setting : Setting R) (world : World R A G) (calls : List Call) :
    let session := ((idle setting world).play calls).2
    Standing setting session.life session.pending ∧
      ∀ id report, (session.choose id).1 = .ok report →
        ∃ candidate ∈ session.pending, candidate.id = id ∧
          candidate.Fits setting session.life ∧
          session.choose id = (.ok (session.world.resolve setting candidate).1,
            session.moveOn (session.world.resolve setting candidate).2) := by
  intro session
  have hsetting : session.setting = setting := setting_play (idle setting world) calls
  have hstanding : Standing setting session.life session.pending := by
    rw [← hsetting]
    exact standing_play (.nil setting world.life) calls
  refine ⟨hstanding, fun id report hanswer ↦ ?_⟩
  obtain ⟨-, candidate, hopen, hid, hchoose⟩ := exists_of_choose_ok hanswer
  rw [hsetting] at hchoose
  exact ⟨candidate, hopen, hid, hstanding.fits candidate hopen, hchoose⟩

/-- A catalog of one event, a road, on which to go on. -/
def roadCatalog : Catalog Float :=
  { Catalog.ofBase .empty with
    events := [⟨"road", "Road", "", [], [.plain (some "on") "Go on"], [], none, false, false⟩] }

/-- On the road the choice to go on is open after a turn began and the streams were changed, and it
stands. -/
theorem road_stands_open :
    let session : Session Float Ledger Xoshiro :=
      ((begin ⟨roadCatalog, .default⟩ 7 ⟨.empty, []⟩ []).play
        [.move .beginManual, .move (.reseed 8)]).2
    session.pending ≠ [] ∧ session.life.phase = .active ∧
      session.pending.countP (fun c ↦ c.choice.special) ≤ 1 := by
  intro session
  have hopen : session.pending ≠ [] := by
    rw [← List.isEmpty_eq_false_iff]
    decide +kernel
  have hstanding := (offers_never_go_stale (G := Xoshiro) ⟨roadCatalog, .default⟩
    (begin ⟨roadCatalog, .default⟩ 7 (⟨.empty, []⟩ : Ledger) []).world
    [.move .beginManual, .move (.reseed 8)]).1
  rw [← begin_eq_idle] at hstanding
  exact ⟨hopen, hstanding.active hopen, hstanding.special⟩

end Session

end LifeStory
