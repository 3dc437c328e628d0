import LifeStory.Proofs.StandingOffers

/-!
# Answers of the player

An answer is taken as a whole or not at all. It is taken if the run goes on and a choice is open
under the id that it names, and then no choice is open any more; else it is refused and changes
nothing (`Session.AllOrNothing`).

Choices are opened by turns of the player only. What one call does to them (`open_after_call`) adds
up over calls: those that are open are the ones that the latest turn of the player offered, unless
they were taken back (`open_after_play`), so that no offer is answered twice.
-/

namespace LifeStory

/-- The choices that an answer opens, if it is about a turn of the player. -/
def Answer.offer? {R : Type} : Answer R → Option (List (Candidate R))
  | .turn t => some t.offer.pending
  | _ => none

/-- The choices that the latest turn of the player opened, among answers in order. -/
def latestOffer? {R : Type} (answers : List (Answer R)) : Option (List (Candidate R)) :=
  (answers.filterMap Answer.offer?).getLast?

theorem latestOffer?_cons {R : Type} (answer : Answer R) (rest : List (Answer R)) :
    latestOffer? (answer :: rest) = (latestOffer? rest).or answer.offer? := by
  rw [latestOffer?, latestOffer?, List.filterMap_cons]
  cases answer.offer? with
  | none => exact Option.or_none.symm
  | some opened =>
    rw [List.getLast?_cons]
    cases (rest.filterMap Answer.offer?).getLast? <;> rfl

/-- Whether a call begins a turn of the player. -/
def Call.opens : Call → Bool
  | .move .beginManual | .move .timePasses => true
  | _ => false

namespace Session

variable {R A G : Type} [Scalar R] [AchievementSink A]

/-! ### One answer -/

section Choose

variable [RandomSource G] {session : Session R A G} {id : CandidateId}

/-- What becomes of an answer under an id. -/
structure AllOrNothing (session : Session R A G) (id : CandidateId) : Prop where
  taken_iff : (∃ report, (session.choose id).1 = .ok report) ↔
    session.life.phase = .active ∧ ∃ candidate ∈ session.pending, candidate.id = id
  /-- An answer that is taken leaves no choice open. -/
  used : ∀ report, (session.choose id).1 = .ok report → (session.choose id).2.pending = []
  /-- An answer that is refused changes nothing. -/
  refused : ∀ error, (session.choose id).1 = .error error → (session.choose id).2 = session ∧
    error = if session.life.phase = .active then .unknownCandidate id
      else .runNotActive session.life.phase

theorem choose_of_open (h : session.life.phase = .active)
    (hopen : ∃ candidate ∈ session.pending, candidate.id = id) :
    ∃ report, (session.choose id).1 = .ok report := by
  have hactive : session.life.isActive = true := decide_eq_true h
  have hfound : (session.pending.find? fun c ↦ c.id = id).isSome = true := by
    simpa [List.find?_isSome] using hopen
  obtain ⟨candidate, hfind⟩ := Option.isSome_iff_exists.1 hfound
  refine ⟨(session.world.resolve session.setting candidate).1, ?_⟩
  rw [choose, if_pos hactive, hfind]

/-- A choice that is refused changes nothing, and the error tells why. -/
theorem choose_refused {error : PlayError} (h : (session.choose id).1 = .error error) :
    (session.choose id).2 = session ∧
      error = if session.life.phase = .active then .unknownCandidate id
        else .runNotActive session.life.phase := by
  by_cases hphase : session.life.phase = .active
  · have hactive : session.life.isActive = true := decide_eq_true hphase
    rw [choose, if_pos hactive] at h ⊢
    rw [if_pos hphase]
    split at h
    · cases h
    · obtain rfl := Except.error.inj h
      exact ⟨rfl, rfl⟩
  · have hover : session.life.isActive = false := decide_eq_false hphase
    rw [choose, if_neg (ne_true_of_eq_false hover)] at h ⊢
    rw [if_neg hphase]
    obtain rfl := Except.error.inj h
    exact ⟨rfl, rfl⟩

theorem allOrNothing (session : Session R A G) (id : CandidateId) : session.AllOrNothing id where
  taken_iff := by
    constructor
    · rintro ⟨report, htaken⟩
      obtain ⟨hactive, candidate, hopen, hid, -⟩ := exists_of_choose_ok htaken
      exact ⟨hactive, candidate, hopen, hid⟩
    · rintro ⟨hactive, hopen⟩
      exact choose_of_open hactive hopen
  used report htaken := by
    obtain ⟨-, _, -, -, hchoose⟩ := exists_of_choose_ok htaken
    rw [hchoose]
    rfl
  refused _ := choose_refused

/-- Where no choice is open every answer is refused. -/
theorem choose_of_nothing_open (h : session.pending = []) (id : CandidateId) :
    ∃ error, (session.choose id).1 = .error error := by
  rcases session.choose_cases id with ⟨candidate, -, hfind, -⟩ | ⟨error, hrefused⟩
  · rw [h] at hfind
    cases hfind
  · exact ⟨error, congrArg Prod.fst hrefused⟩

end Choose

/-! ### Choices that are open over a run -/

variable [SeededSource G] {session : Session R A G}

theorem offer?_choose (session : Session R A G) (id : CandidateId) :
    (Answer.ofExcept Answer.report (session.choose id).1).offer? = none := by
  cases (session.choose id).1 <;> rfl

/-- A call that is about no turn of the player answers with no offer, and leaves open what was open
or nothing. -/
theorem call_of_not_opens (session : Session R A G) {c : Call} (h : c.opens = false) :
    (session.call c).1.offer? = none ∧
      ((session.call c).2.pending = [] ∨ (session.call c).2.pending = session.pending) := by
  match c with
  | .move .runTurn | .move (.triggerEnding _) | .reset _ => exact ⟨rfl, .inl rfl⟩
  | .move (.reseed _) => exact ⟨rfl, .inr rfl⟩
  | .move (.runUntilOver turns) =>
    exact ⟨rfl, pending_runUntilOver
      (P := fun _ _ pending ↦ pending = [] ∨ pending = session.pending)
      (fun _ _ ↦ .inl rfl) (.inr rfl) turns⟩
  | .move (.choose id) =>
    refine ⟨session.offer?_choose id, ?_⟩
    show (session.choose id).2.pending = [] ∨ (session.choose id).2.pending = session.pending
    rcases session.choose_cases id with ⟨_, -, -, hchoose⟩ | ⟨_, hrefused⟩
    · exact .inl (by rw [hchoose]; rfl)
    · exact .inr (by rw [hrefused])

/-- After a call the choices are open that it answers with, or those that were open before if it
answers with none, unless they were taken back. -/
theorem open_after_call (session : Session R A G) (c : Call) :
    (session.call c).2.pending = [] ∨
      some (session.call c).2.pending = (session.call c).1.offer?.or (some session.pending) := by
  cases hopens : c.opens with
  | false =>
    obtain ⟨hoffer, hopen⟩ := session.call_of_not_opens hopens
    rw [hoffer]
    exact hopen.imp_right (congrArg some)
  | true =>
    match c with
    | .move .beginManual => exact .inr rfl
    | .move .timePasses =>
      show session.timePasses.2.pending = [] ∨ some session.timePasses.2.pending =
        (Answer.ofExcept Answer.turn session.timePasses.1).offer?.or (some session.pending)
      rcases session.timePasses_cases with ⟨-, hpassed⟩ | hrefused
      · exact .inr (by rw [hpassed]; rfl)
      · exact .inl (by rw [hrefused]; rfl)

/-- Where nothing is open, nothing is open until the next turn of the player. -/
theorem pending_play_of_nothing_open (h : session.pending = []) (calls : List Call)
    (hcalls : ∀ c ∈ calls, c.opens = false) : (session.play calls).2.pending = [] := by
  induction calls generalizing session with
  | nil => exact h
  | cons c rest ih =>
    obtain ⟨hc, hrest⟩ := List.forall_mem_cons.1 hcalls
    refine ih ?_ hrest
    rcases (session.call_of_not_opens hc).2 with hnil | hkept
    · exact hnil
    · exact hkept.trans h

/-- Over calls, the choices are open that the latest turn of the player offered, or those that were
open before if there was none, unless they were taken back. -/
theorem open_after_play (session : Session R A G) (calls : List Call) :
    (session.play calls).2.pending = [] ∨
      some (session.play calls).2.pending =
        (latestOffer? (session.play calls).1).or (some session.pending) := by
  induction calls generalizing session with
  | nil => exact .inr rfl
  | cons c rest ih =>
    rw [play_cons, latestOffer?_cons]
    rcases ih (session.call c).2 with hnil | hlatest
    · exact .inl hnil
    cases hrest : latestOffer? ((session.call c).2.play rest).1 with
    | some opened =>
      rw [hrest] at hlatest
      exact .inr hlatest
    -- What is open at the end was open after the first call.
    | none =>
      rw [hrest] at hlatest
      have hkept := Option.some.inj hlatest
      rw [hkept]
      exact session.open_after_call c

/-- From a session without open choices on, none are open but those that the latest turn of the
player offered. -/
theorem open_after_play_of_nothing_open (h : session.pending = []) (calls : List Call) :
    (session.play calls).2.pending = [] ∨
      latestOffer? (session.play calls).1 = some (session.play calls).2.pending := by
  rcases session.open_after_play calls with hnil | hlatest
  · exact .inl hnil
  rw [h] at hlatest
  cases hlatestOffer : latestOffer? (session.play calls).1 with
  | some opened =>
    rw [hlatestOffer] at hlatest
    exact .inr hlatest.symm
  | none =>
    rw [hlatestOffer] at hlatest
    exact .inl (Option.some.inj hlatest)

/-! ### All or nothing, and once -/

theorem world_timePasses_of_error {error : PlayError} (h : session.timePasses.1 = .error error) :
    session.timePasses.2.world = session.world := by
  rcases session.timePasses_cases with ⟨-, hpassed⟩ | hrefused
  · rw [hpassed] at h
    cases h
  · rw [hrefused]
    rfl

/-- **Answers are taken as a whole or not at all, and once.** In any session:
* an answer is taken if the run goes on and its choice is open, and else refused, changing nothing;
* after an answer that was taken all others are refused until the next turn of the player;
* nothing is open after a turn without the player, after an ending that is asked for, and after the
  beginning of another run;
* time that may not pass changes nothing in the world.

And of a session that was opened without open choices and then asked anything, the choices that are
open are those that the latest turn of the player offered, if any are. -/
theorem answers_are_all_or_nothing (session : Session R A G) :
    (∀ id, session.AllOrNothing id) ∧
    (∀ id report, (session.choose id).1 = .ok report →
      ∀ calls : List Call, (∀ c ∈ calls, c.opens = false) →
        ∀ other, ∃ error, (((session.choose id).2.play calls).2.choose other).1 = .error error) ∧
    (session.runTurn.2.pending = [] ∧
      (∀ ending, (session.triggerEnding ending).2.pending = []) ∧
      ∀ talents, (session.reset talents).pending = []) ∧
    (∀ error, session.timePasses.1 = .error error →
      session.timePasses.2.world = session.world) ∧
    (session.pending = [] → ∀ calls : List Call,
      (session.play calls).2.pending = [] ∨
        latestOffer? (session.play calls).1 = some (session.play calls).2.pending) := by
  refine ⟨session.allOrNothing, fun id report htaken calls hcalls other ↦ ?_,
    ⟨rfl, fun _ ↦ rfl, fun _ ↦ rfl⟩, fun _ ↦ world_timePasses_of_error,
    open_after_play_of_nothing_open⟩
  have hused : (session.choose id).2.pending = [] := (session.allOrNothing id).used report htaken
  exact choose_of_nothing_open (pending_play_of_nothing_open hused calls hcalls) other

/-- On the road, a choice of the offer is taken when it is made first, and refused when it is made
again. -/
theorem road_answer_is_taken_once :
    let session : Session Float Ledger Xoshiro :=
      ((begin ⟨roadCatalog, .default⟩ 7 ⟨.empty, []⟩ []).play [.move .beginManual]).2
    ∃ candidate ∈ session.pending,
      (∃ report, (session.choose candidate.id).1 = .ok report) ∧
      (session.choose candidate.id).2.pending = [] ∧
      ∃ error, ((session.choose candidate.id).2.choose candidate.id).1 = .error error := by
  intro session
  have hopen : session.pending ≠ [] := by
    rw [← List.isEmpty_eq_false_iff]
    decide +kernel
  have hactive : session.life.phase = .active := by decide +kernel
  obtain ⟨candidate, hcandidate⟩ := List.exists_mem_of_ne_nil session.pending hopen
  obtain ⟨hanswers, honce, -⟩ := answers_are_all_or_nothing session
  have htaken := (hanswers candidate.id).taken_iff.2 ⟨hactive, candidate, hcandidate, rfl⟩
  obtain ⟨report, hreport⟩ := htaken
  exact ⟨candidate, hcandidate, ⟨report, hreport⟩, (hanswers candidate.id).used report hreport,
    honce candidate.id report hreport [] (fun _ h ↦ absurd h List.not_mem_nil) candidate.id⟩

end Session

end LifeStory
