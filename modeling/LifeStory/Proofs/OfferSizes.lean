import LifeStory.Proofs.Offers
import LifeStory.Random.Stepper
import LifeStory.Scalar.Float

/-!
# The size of an offer

A special choice is drawn before it is looked at how many choices are asked for, and the ordinary
ones fill up what is left. So an offer is larger than what is asked for in one case only: nothing is
asked for, and a special choice comes up (`Opportunity.length_drawn_le_iff`).

Nothing keeps the settings from asking for nothing. Settings that ask for something are kept to, in
every state that a session comes to (`Session.length_pending_le`).
-/

namespace LifeStory

/-! ### Positions -/

namespace Scalar

variable {R : Type} [Scalar R] {x : R} {length position : Nat}

/-- Where there are positions, every quantity is moved to one of them. -/
theorem exists_toIndex? (h : 0 < length) (x : R) :
    ∃ position, toIndex? x length = some position := by
  rw [toIndex?, if_neg (Nat.ne_of_gt h)]
  split
  · exact ⟨0, rfl⟩
  · exact ⟨_, rfl⟩

theorem toIndex?_lt (h : toIndex? x length = some position) : position < length := by
  rw [toIndex?] at h
  split at h
  · cases h
  next hne =>
    split at h
    · obtain rfl := Option.some.inj h
      exact Nat.pos_of_ne_zero hne
    · obtain rfl := Option.some.inj h
      omega

end Scalar

/-! ### What is drawn -/

namespace Opportunity

variable {R G : Type} [Scalar R] [RandomSource G]

theorem length_drawSpecial_of_ne_nil {special : List (Opportunity R)} (h : special ≠ [])
    (source : Counted G) : (drawSpecial special source).1.length = 1 := by
  obtain ⟨position, hposition⟩ := Scalar.exists_toIndex? (List.length_pos_iff.2 h)
    ((source.unit R).1 * Scalar.ofNat special.length)
  have hget := List.getElem?_eq_getElem (Scalar.toIndex?_lt hposition)
  rw [drawSpecial]
  dsimp only
  rw [hposition, Option.bind_some, hget]
  rfl

theorem length_offerSpecial_eq (chance : R) (special : List (Opportunity R))
    (source : Counted G) :
    (offerSpecial chance special source).1.length =
      if special ≠ [] ∧ (source.unit R).1 < chance then 1 else 0 := by
  rw [offerSpecial]
  split
  next hempty =>
    rw [if_neg fun h ↦ h.1 (List.isEmpty_iff.1 hempty)]
    rfl
  next hempty =>
    have hne : special ≠ [] := fun h ↦ hempty (List.isEmpty_iff.2 h)
    dsimp only
    split
    next hbelow =>
      rw [if_pos ⟨hne, hbelow⟩]
      exact length_drawSpecial_of_ne_nil hne _
    next habove =>
      rw [if_neg fun h ↦ habove h.2]
      rfl

/-- No more ordinary opportunities are drawn than are asked for. -/
theorem length_drawOrdinary_le (life : Life R) (n : Nat) (pool : List (Opportunity R))
    (source : Counted G) : (drawOrdinary life n pool source).1.length ≤ n := by
  induction n generalizing pool source with
  | zero => exact Nat.le_refl 0
  | succ n ih =>
    by_cases hpool : pool = []
    · rw [hpool]
      exact Nat.zero_le _
    cases hdrawn : (drawOne life pool source).1 with
    | none =>
      rw [drawOrdinary_of_none hpool hdrawn]
      exact Nat.zero_le _
    | some index =>
      rw [drawOrdinary_of_some hpool hdrawn]
      dsimp only
      have hfirst : (pool[index]?).toList.length ≤ 1 := by
        rw [Option.length_toList]
        split <;> omega
      have hmore := ih (pool.eraseIdx index) (drawOne life pool source).2
      rw [List.length_append]
      omega

/-- The special opportunities of a life. -/
def specials (catalog : Catalog R) (showTests : Bool) (life : Life R) : List (Opportunity R) :=
  (all catalog showTests life).filter fun o ↦ o.choice.special

/-- The opportunities of a life that are not special. -/
def ordinaries (catalog : Catalog R) (showTests : Bool) (life : Life R) : List (Opportunity R) :=
  (all catalog showTests life).filter fun o ↦ !o.choice.special

variable (catalog : Catalog R) (config : Config R) (count : Nat) (life : Life R)
  (source : Counted G)

/-- A special choice comes up: there is one, and what is drawn is below the chance. -/
def SpecialDrawn : Prop :=
  specials catalog config.showTestEvents life ≠ [] ∧
    (source.unit R).1 < config.specialChoiceChance

instance : Decidable (SpecialDrawn catalog config life source) :=
  inferInstanceAs (Decidable (_ ∧ _))

/-- What is drawn: a special opportunity if one comes up, then ordinary ones as far as there is
room. -/
theorem exists_drawn_eq :
    ∃ (first : List (Opportunity R)) (later : Counted G),
      first ⊆ specials catalog config.showTestEvents life ∧
      first.length = (if SpecialDrawn catalog config life source then 1 else 0) ∧
      (drawn catalog config count life source).1 =
        first ++ (drawOrdinary life (count - first.length)
          (ordinaries catalog config.showTestEvents life) later).1 :=
  ⟨_, _, offerSpecial_subset _ _ source, length_offerSpecial_eq _ _ source, rfl⟩

/-- Ordinary opportunities fill up what a special one leaves of the number that is asked for. -/
theorem length_drawn_le_max :
    (drawn catalog config count life source).1.length ≤
      max count (if SpecialDrawn catalog config life source then 1 else 0) := by
  obtain ⟨first, later, -, hfirst, hdrawn⟩ := exists_drawn_eq catalog config count life source
  have hothers := length_drawOrdinary_le life (count - first.length)
    (ordinaries catalog config.showTestEvents life) later
  rw [hdrawn, List.length_append, ← hfirst]
  omega

/-- **More is drawn than is asked for exactly if nothing is asked for and a special choice comes
up.** -/
theorem length_drawn_le_iff :
    (drawn catalog config count life source).1.length ≤ count ↔
      ¬ (count = 0 ∧ SpecialDrawn catalog config life source) := by
  constructor
  · rintro hle ⟨rfl, hcomes⟩
    obtain ⟨first, later, -, hfirst, hdrawn⟩ := exists_drawn_eq catalog config 0 life source
    rw [if_pos hcomes] at hfirst
    rw [hdrawn, List.length_append] at hle
    omega
  · intro hnot
    have hle := length_drawn_le_max catalog config count life source
    split at hle
    next hcomes =>
      have hcount : count ≠ 0 := fun h ↦ hnot ⟨h, hcomes⟩
      omega
    next => omega

omit [Scalar R] in
/-- Candidates have the choices of the opportunities that they are made of. -/
theorem map_choice_toCandidates (opportunities : List (Opportunity R)) (source : Counted G) :
    (toCandidates opportunities source).1.map Candidate.choice =
      opportunities.map Opportunity.choice := by
  induction opportunities generalizing source with
  | nil => rfl
  | cons o rest ih => exact congrArg (o.choice :: ·) (ih _)

omit [Scalar R] in
theorem length_toCandidates (opportunities : List (Opportunity R)) (source : Counted G) :
    (toCandidates opportunities source).1.length = opportunities.length := by
  have hmap := congrArg List.length (map_choice_toCandidates opportunities source)
  rwa [List.length_map, List.length_map] at hmap

end Opportunity

theorem Catalog.length_drawCandidates {R G : Type} [Scalar R] [RandomSource G]
    (catalog : Catalog R) (config : Config R) (count : Nat) (life : Life R) (source : Counted G) :
    (catalog.drawCandidates config count life source).1.length =
      (Opportunity.drawn catalog config count life source).1.length := by
  rw [drawCandidates_eq, Opportunity.length_toCandidates]

/-! ### Sessions -/

namespace World

variable {R A G : Type} [Scalar R] [AchievementSink A] [RandomSource G] {setting : Setting R}

omit [AchievementSink A] in
/-- What holds of no choices, and of the choices that are drawn, holds of an offer. -/
theorem pending_gatherOffer {P : List (Candidate R) → Prop} (world : World R A G) (empty : P [])
    (drawn : P (world.drawCandidates setting).1) : P (world.gatherOffer setting).1.pending := by
  cases hevents : (setting.catalog.eligible setting.config.showTestEvents world.life).isEmpty with
  | true =>
    rw [gatherOffer_of_no_event hevents]
    exact empty
  | false =>
    cases hoffered : (world.drawCandidates setting).1.isEmpty with
    | true =>
      rw [gatherOffer_of_no_choice hevents hoffered]
      exact empty
    | false =>
      rw [gatherOffer_of_choices hevents hoffered]
      exact drawn

/-- A turn of settings that ask for something offers no more than they ask for. -/
theorem length_pending_beginManual (h : setting.config.manualChoiceCount ≠ 0)
    (world : World R A G) :
    (world.beginManual setting).1.offer.pending.length ≤ setting.config.manualChoiceCount := by
  cases hactive : (world.advance setting).2.life.isActive with
  | true =>
    rw [beginManual_of_active hactive]
    refine pending_gatherOffer (P := fun offered ↦ offered.length ≤ _) _ (Nat.zero_le _) ?_
    show (setting.catalog.drawCandidates ..).1.length ≤ _
    rw [Catalog.length_drawCandidates]
    exact (Opportunity.length_drawn_le_iff ..).2 fun hnone ↦ h hnone.1
  | false =>
    rw [beginManual_of_over hactive]
    exact Nat.zero_le _

end World

/-- **Settings that ask for something are kept to**: no session that is opened without open choices
has more of them than its settings ask for, whatever it is asked. -/
theorem Session.length_pending_le {R A G : Type} [Scalar R] [AchievementSink A] [SeededSource G]
    {setting : Setting R} (h : setting.config.manualChoiceCount ≠ 0) (world : World R A G)
    (calls : List Call) :
    ((idle setting world).play calls).2.pending.length ≤ setting.config.manualChoiceCount := by
  have hkept := play_induction
    (P := fun session : Session R A G ↦ session.setting.config.manualChoiceCount ≠ 0 →
      session.pending.length ≤ session.setting.config.manualChoiceCount)
    (fun _ c hsession ↦ pending_call
      (P := fun setting _ pending ↦ setting.config.manualChoiceCount ≠ 0 →
        pending.length ≤ setting.config.manualChoiceCount)
      (fun _ _ _ ↦ Nat.zero_le _) (fun _ world h ↦ world.length_pending_beginManual h)
      hsession c)
    (idle setting world) (fun _ ↦ Nat.zero_le _) calls
  rw [setting_play] at hkept
  exact hkept h

/-! ### The limit -/

namespace Catalog

variable {R G : Type} [Scalar R] [RandomSource G]

/-- **An offer keeps to the number that the settings ask for, unless they ask for nothing.** With
all settings, those that are refused among them, an offer has no more choices than they ask for, or
one; and it has more than they ask for exactly if they ask for nothing and a special choice comes
up. -/
theorem offers_keep_to_the_limit (catalog : Catalog R) (config : Config R) (life : Life R)
    (source : Counted G) :
    let offer := (catalog.drawCandidates config config.manualChoiceCount life source).1
    offer.length ≤ max config.manualChoiceCount 1 ∧
      (offer.length ≤ config.manualChoiceCount ↔
        ¬ (config.manualChoiceCount = 0 ∧
          Opportunity.SpecialDrawn catalog config life source)) := by
  intro offer
  have hlength : offer.length = _ := catalog.length_drawCandidates ..
  rw [hlength]
  refine ⟨?_, Opportunity.length_drawn_le_iff ..⟩
  have hle := Opportunity.length_drawn_le_max catalog config config.manualChoiceCount life source
  split at hle <;> omega

/-- A catalog of one event, a wish, with a choice that is special. -/
def wishCatalog : Catalog Float :=
  { Catalog.ofBase .empty with
    events := [⟨"wish", "Wish", "", [],
      [{ Choice.plain (some "fly") "Fly" with special := true }], [], none, false, false⟩] }

/-- The settings ask for no choices. -/
def askForNothing : Config Float := { Config.default with manualChoiceCount := 0 }

/-- Settings that ask for nothing are not refused, and yet a special choice is offered. -/
theorem wish_is_offered_unasked :
    askForNothing.violation?.isNone = true ∧
      askForNothing.manualChoiceCount <
        (wishCatalog.drawCandidates askForNothing askForNothing.manualChoiceCount (.fresh 50)
          (.fresh (⟨0, 0⟩ : Stepper))).1.length := by
  decide +kernel

end Catalog

end LifeStory
