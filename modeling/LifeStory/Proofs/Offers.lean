import LifeStory.Proofs.Course

/-!
# Offers

What a session offers fits the state that it is in: each offered choice belongs to an event that may
take place, and may be made (`Candidate.Fits`). An offer is drawn from the opportunities of the life
that it is made to, and whatever may change the life takes the offer back, so that every call keeps
what holds of offers when they are made (`Session.pending_call`).
-/

namespace LifeStory

/-- A choice that is offered of an event that may take place, and that may be made. -/
def Candidate.Fits {R : Type} [Scalar R] (candidate : Candidate R) (setting : Setting R)
    (life : Life R) : Prop :=
  ∃ event ∈ setting.catalog.eligible setting.config.showTestEvents life,
    candidate.origin = ⟨event.id, event.title, event.text⟩ ∧
      candidate.choice ∈ setting.catalog.available life event

/-- A choice that fits is authored for an event of the catalog. -/
theorem Candidate.Fits.authored {R : Type} [Scalar R] {candidate : Candidate R}
    {setting : Setting R} {life : Life R} (h : candidate.Fits setting life) :
    ∃ event ∈ setting.catalog.events, candidate.choice ∈ event.choices := by
  obtain ⟨event, hevent, -, hchoice⟩ := h
  exact ⟨event, (List.mem_filter.1 hevent).1, (List.mem_filter.1 hchoice).1⟩

/-! ### Drawing offers -/

namespace Opportunity

variable {R G : Type} [Scalar R] [RandomSource G]

theorem drawSpecial_subset (special : List (Opportunity R)) (source : Counted G) :
    (drawSpecial special source).1 ⊆ special := by
  intro o ho
  obtain ⟨index, -, hget⟩ := Option.bind_eq_some_iff.1 (Option.mem_toList.1 ho)
  exact List.mem_of_getElem? hget

theorem offerSpecial_subset (chance : R) (special : List (Opportunity R)) (source : Counted G) :
    (offerSpecial chance special source).1 ⊆ special := by
  rw [offerSpecial]
  split
  · exact List.nil_subset _
  · dsimp only
    split
    · exact drawSpecial_subset special _
    · exact List.nil_subset _

theorem drawOrdinary_subset (life : Life R) (n : Nat) (pool : List (Opportunity R))
    (source : Counted G) : (drawOrdinary life n pool source).1 ⊆ pool := by
  induction n generalizing pool source with
  | zero => exact List.nil_subset _
  | succ n ih =>
    by_cases hpool : pool = []
    · rw [hpool]
      exact List.nil_subset _
    cases hdrawn : (drawOne life pool source).1 with
    | none =>
      rw [drawOrdinary_of_none hpool hdrawn]
      exact List.nil_subset _
    | some index =>
      rw [drawOrdinary_of_some hpool hdrawn]
      intro o ho
      rcases List.mem_append.1 ho with hfirst | hmore
      · exact List.mem_of_getElem? (Option.mem_toList.1 hfirst)
      · exact List.eraseIdx_subset (ih _ _ hmore)

/-- Only opportunities of the life are drawn. -/
theorem drawn_subset (catalog : Catalog R) (config : Config R) (count : Nat) (life : Life R)
    (source : Counted G) :
    (drawn catalog config count life source).1 ⊆ all catalog config.showTestEvents life := by
  intro o ho
  rcases List.mem_append.1 ho with hspecial | hordinary
  · exact (List.mem_filter.1 (offerSpecial_subset _ _ _ hspecial)).1
  · exact (List.mem_filter.1 (drawOrdinary_subset _ _ _ _ hordinary)).1

omit [Scalar R] in
/-- A candidate is made of an opportunity. -/
theorem mem_toCandidates {candidate : Candidate R} {opportunities : List (Opportunity R)}
    {source : Counted G} (h : candidate ∈ (toCandidates opportunities source).1) :
    ∃ o ∈ opportunities, candidate.choice = o.choice ∧
      candidate.origin = ⟨o.event.id, o.event.title, o.event.text⟩ := by
  induction opportunities generalizing source with
  | nil => cases h
  | cons o rest ih =>
    rcases List.mem_cons.1 h with rfl | hrest
    · exact ⟨o, List.mem_cons_self, rfl, rfl⟩
    · obtain ⟨p, hp, hfields⟩ := ih hrest
      exact ⟨p, List.mem_cons_of_mem _ hp, hfields⟩

omit [RandomSource G] in
/-- An opportunity is a choice that is available in an event that may take place. -/
theorem mem_all {catalog : Catalog R} {showTests : Bool} {life : Life R} {o : Opportunity R} :
    o ∈ all catalog showTests life ↔
      o.event ∈ catalog.eligible showTests life ∧ o.choice ∈ catalog.available life o.event := by
  simp only [all, List.mem_flatMap, List.mem_map]
  constructor
  · rintro ⟨event, hevent, choice, hchoice, rfl⟩
    exact ⟨hevent, hchoice⟩
  · rintro ⟨hevent, hchoice⟩
    exact ⟨o.event, hevent, o.choice, hchoice, rfl⟩

end Opportunity

/-- Whatever is drawn for an offer fits. -/
theorem Catalog.fits_of_mem_drawCandidates {R G : Type} [Scalar R] [RandomSource G]
    {setting : Setting R} {count : Nat} {life : Life R} {source : Counted G}
    {candidate : Candidate R}
    (h : candidate ∈ (setting.catalog.drawCandidates setting.config count life source).1) :
    candidate.Fits setting life := by
  rw [drawCandidates_eq] at h
  obtain ⟨o, ho, hchoice, horigin⟩ := Opportunity.mem_toCandidates h
  obtain ⟨hevent, havailable⟩ := Opportunity.mem_all.1 (Opportunity.drawn_subset _ _ _ _ _ ho)
  exact ⟨o.event, hevent, horigin, hchoice ▸ havailable⟩

/-! ### Offers of worlds -/

namespace World

variable {R A G : Type} [Scalar R] [AchievementSink A] [RandomSource G] {setting : Setting R}

omit [AchievementSink A] in
/-- What is offered fits the life that it is offered to. -/
theorem fits_gatherOffer (world : World R A G) :
    ∀ candidate ∈ (world.gatherOffer setting).1.pending,
      candidate.Fits setting (world.gatherOffer setting).2.life := by
  cases hevents : (setting.catalog.eligible setting.config.showTestEvents world.life).isEmpty with
  | true =>
    rw [gatherOffer_of_no_event hevents]
    exact fun _ h ↦ absurd h List.not_mem_nil
  | false =>
    cases hoffered : (world.drawCandidates setting).1.isEmpty with
    | true =>
      rw [gatherOffer_of_no_choice hevents hoffered]
      exact fun _ h ↦ absurd h List.not_mem_nil
    | false =>
      rw [gatherOffer_of_choices hevents hoffered]
      exact fun _ h ↦ Catalog.fits_of_mem_drawCandidates h

/-- What a manual turn offers fits the life that it leaves. -/
theorem fits_beginManual (world : World R A G) :
    ∀ candidate ∈ (world.beginManual setting).1.offer.pending,
      candidate.Fits setting (world.beginManual setting).2.life := by
  cases hactive : (world.advance setting).2.life.isActive with
  | true =>
    rw [beginManual_of_active hactive]
    exact fits_gatherOffer (world.advance setting).2
  | false =>
    rw [beginManual_of_over hactive]
    exact fun _ h ↦ absurd h List.not_mem_nil

end World

/-! ### Offers of sessions -/

namespace Session

variable {R A G : Type} [Scalar R] {session : Session R A G}

section Pending

variable [AchievementSink A] {P : Setting R → Life R → List (Candidate R) → Prop}

/-- What holds of the offer, and of every empty one, holds of it after turns without a player. -/
theorem pending_runUntilOver [RandomSource G] (empty : ∀ setting life, P setting life [])
    (h : P session.setting session.life session.pending) (turns : Nat) :
    P (session.runUntilOver turns).2.setting (session.runUntilOver turns).2.life
      (session.runUntilOver turns).2.pending := by
  induction turns generalizing session with
  | zero => exact h
  | succ turns ih =>
    cases hactive : session.life.isActive with
    | true =>
      rw [runUntilOver_of_active hactive]
      exact ih (empty session.setting session.runTurn.2.life)
    | false =>
      rw [runUntilOver_of_over hactive]
      exact h

/-- What holds of no choices in any state, and of the choices that a turn offers in the state that
it leaves, holds after every call of the choices that are open then: whatever may change the life
takes them back. -/
theorem pending_call [SeededSource G] (empty : ∀ setting life, P setting life [])
    (offer : ∀ setting (world : World R A G), P setting (world.beginManual setting).2.life
      (world.beginManual setting).1.offer.pending)
    (h : P session.setting session.life session.pending) (c : Call) :
    P (session.call c).2.setting (session.call c).2.life (session.call c).2.pending := by
  match c with
  -- These take the offer back.
  | .move .runTurn | .move (.triggerEnding _) | .reset _ => exact empty _ _
  | .move (.runUntilOver turns) => exact pending_runUntilOver empty h turns
  | .move .beginManual => exact offer session.setting session.world
  | .move (.choose id) =>
    show P (session.choose id).2.setting (session.choose id).2.life (session.choose id).2.pending
    rcases session.choose_cases id with ⟨_, -, -, hchoose⟩ | ⟨_, hrefused⟩
    · rw [hchoose]
      exact empty _ _
    -- A refusal leaves the offer open, in the state that it was made in.
    · rw [hrefused]
      exact h
  | .move .timePasses =>
    show P session.timePasses.2.setting session.timePasses.2.life session.timePasses.2.pending
    rcases session.timePasses_cases with ⟨-, hpassed⟩ | hrefused
    · rw [hpassed]
      exact offer session.setting (session.world.note .system none timePassesLine)
    · rw [hrefused]
      exact empty _ _
  -- Other streams leave the life and the offer alone.
  | .move (.reseed _) => exact h

end Pending

/-- Whatever the session offers fits the state that it is in. -/
def Fit (session : Session R A G) : Prop :=
  ∀ candidate ∈ session.pending, candidate.Fits session.setting session.life

/-- A session that offers nothing is fit. -/
theorem fit_idle (setting : Setting R) (world : World R A G) : (idle setting world).Fit :=
  fun _ h ↦ absurd h List.not_mem_nil

/-- **Every call leaves an offer that fits.** -/
theorem Fit.call [AchievementSink A] [SeededSource G] (h : session.Fit) (c : Call) :
    (session.call c).2.Fit :=
  pending_call (P := fun setting life pending ↦
      ∀ candidate ∈ pending, candidate.Fits setting life)
    (fun _ _ _ hmem ↦ absurd hmem List.not_mem_nil)
    (fun _ world ↦ world.fits_beginManual) h c

theorem Fit.play [AchievementSink A] [SeededSource G] (h : session.Fit) (calls : List Call) :
    (session.play calls).2.Fit :=
  play_induction (fun _ c hfit ↦ hfit.call c) session h calls

/-- Directives that a catalog does not author are offered by no session that offers what fits. -/
theorem Fit.only {allowed : Directive R → Prop} (h : session.Fit)
    (hcatalog : session.setting.catalog.Only allowed) : session.Only allowed := by
  refine ⟨hcatalog, fun candidate hcandidate ↦ ?_⟩
  obtain ⟨event, hevent, hchoice⟩ := (h candidate hcandidate).authored
  exact hcatalog.choices event hevent candidate.choice hchoice

end Session

end LifeStory
