import LifeStory.Session

/-!
# Calls as data

What the host of a run may ask of a session, and what it is told, as data: a `Move` goes on with the
run, and a `Call` is a move or the beginning of another run. `Session.play` answers a list of calls
in order; all that is said about sessions over time is said about it.

`Life.Reached` is the state of a run that was begun and went on by any calls, also when it was taken
out of its session meanwhile and went on in another one, with another setting, seed or sink.
-/

namespace LifeStory

/-- What goes on with a run. -/
inductive Move where
  | runTurn
  | runUntilOver (turns : Nat)
  | beginManual
  | choose (id : CandidateId)
  | timePasses
  | triggerEnding (ending : String)
  | reseed (seed : UInt64)

/-- What may be asked of a session. -/
inductive Call where
  | move (move : Move)
  /-- Begins another run with the given talents. -/
  | reset (talents : List String)

/-- What the host is told. -/
inductive Answer (R : Type) where
  | report (report : TurnReport R)
  | reports (reports : List (TurnReport R))
  | turn (turn : ManualTurn R)
  | refusal (error : PlayError)
  /-- Whether the run was not closed already. -/
  | closed (news : Bool)
  /-- Nothing. -/
  | done

namespace Answer

variable {R : Type}

/-- The reports on turns in an answer, in order. -/
def turnReports : Answer R → List (TurnReport R)
  | .report r => [r]
  | .reports rs => rs
  | .turn t => [t.report]
  | .refusal _ | .closed _ | .done => []

/-- The answer to a call that may be refused. -/
def ofExcept {α : Type} (told : α → Answer R) : Except PlayError α → Answer R
  | .ok a => told a
  | .error e => .refusal e

end Answer

namespace Session

variable {R A G : Type} [Scalar R] [AchievementSink A] [SeededSource G]

/-- Answers a move. -/
def move (session : Session R A G) : Move → Answer R × Session R A G
  | .runTurn => session.runTurn.map Answer.report id
  | .runUntilOver turns => (session.runUntilOver turns).map Answer.reports id
  | .beginManual => session.beginManual.map Answer.turn id
  | .choose candidate => (session.choose candidate).map (Answer.ofExcept Answer.report) id
  | .timePasses => session.timePasses.map (Answer.ofExcept Answer.turn) id
  | .triggerEnding ending => (session.triggerEnding ending).map Answer.closed id
  | .reseed seed => (.done, session.reseed seed)

/-- Answers a call. -/
def call (session : Session R A G) : Call → Answer R × Session R A G
  | .move m => session.move m
  | .reset talents => (.done, session.reset talents)

/-- Answers calls in order. -/
def play : Session R A G → List Call → List (Answer R) × Session R A G
  | session, [] => ([], session)
  | session, c :: rest =>
    let (answer, session) := session.call c
    let (answers, session) := session.play rest
    (answer :: answers, session)

/-- Answers moves in order. -/
def goOn (session : Session R A G) (moves : List Move) : List (Answer R) × Session R A G :=
  session.play (moves.map Call.move)

/-! ### Turns until the run is over -/

omit [SeededSource G] in
/-- A run that goes on plays a turn, and then the turns that are left. -/
theorem runUntilOver_of_active [RandomSource G] {session : Session R A G}
    (h : session.life.isActive = true) (turns : Nat) :
    session.runUntilOver (turns + 1) =
      (session.runTurn.1 :: (session.runTurn.2.runUntilOver turns).1,
        (session.runTurn.2.runUntilOver turns).2) := by
  rw [runUntilOver, if_pos h]

omit [SeededSource G] in
theorem runUntilOver_of_over [RandomSource G] {session : Session R A G}
    (h : session.life.isActive = false) (turns : Nat) :
    session.runUntilOver turns = ([], session) := by
  cases turns with
  | zero => rfl
  | succ turns => rw [runUntilOver, if_neg (ne_true_of_eq_false h)]

/-! ### Answers of the player -/

omit [SeededSource G] in
/-- An answer resolves a choice that is offered, or is refused and changes nothing. -/
theorem choose_cases [RandomSource G] (session : Session R A G) (id : CandidateId) :
    (∃ candidate, session.life.isActive = true ∧
      session.pending.find? (fun c ↦ c.id = id) = some candidate ∧
      session.choose id = (.ok (session.world.resolve session.setting candidate).1,
        session.moveOn (session.world.resolve session.setting candidate).2)) ∨
    ∃ error, session.choose id = (.error error, session) := by
  rw [choose]
  split
  · next hactive =>
    split
    · next candidate hfind => exact .inl ⟨candidate, hactive, hfind, rfl⟩
    · exact .inr ⟨_, rfl⟩
  · exact .inr ⟨_, rfl⟩

omit [SeededSource G] in
/-- An answer that is not refused makes a choice that is open in a run that goes on. -/
theorem exists_of_choose_ok [RandomSource G] {session : Session R A G} {id : CandidateId}
    {report : TurnReport R} (h : (session.choose id).1 = .ok report) :
    session.life.phase = .active ∧ ∃ candidate ∈ session.pending, candidate.id = id ∧
      session.choose id = (.ok (session.world.resolve session.setting candidate).1,
        session.moveOn (session.world.resolve session.setting candidate).2) := by
  rcases session.choose_cases id with ⟨candidate, hactive, hfind, hchoose⟩ | ⟨_, hrefused⟩
  · have hid : candidate.id = id := by simpa using List.find?_some hfind
    exact ⟨of_decide_eq_true hactive, candidate, List.mem_of_find?_eq_some hfind, hid, hchoose⟩
  · rw [hrefused] at h
    cases h

omit [SeededSource G] in
/-- Time passes over a run that goes on, and the next offer replaces the last one. -/
theorem timePasses_of_active [RandomSource G] {session : Session R A G}
    (h : session.life.isActive = true) :
    session.timePasses = (.ok (session.world.passTime session.setting).1,
      ⟨session.setting, (session.world.passTime session.setting).2,
        (session.world.passTime session.setting).1.offer.pending⟩) := by
  rw [timePasses, if_pos h]
  rfl

omit [SeededSource G] in
/-- Over a run that has ended no time passes, and the offer is withdrawn. -/
theorem timePasses_of_over [RandomSource G] {session : Session R A G}
    (h : session.life.isActive = false) :
    session.timePasses =
      (.error (.runNotActive session.life.phase), session.moveOn session.world) := by
  rw [timePasses, if_neg (ne_true_of_eq_false h)]

omit [SeededSource G] in
/-- Time passes in an active run; in another one the offer is taken back. -/
theorem timePasses_cases [RandomSource G] (session : Session R A G) :
    (session.life.isActive = true ∧
      session.timePasses = (.ok (session.world.passTime session.setting).1,
        ⟨session.setting, (session.world.passTime session.setting).2,
          (session.world.passTime session.setting).1.offer.pending⟩)) ∨
    session.timePasses =
      (.error (.runNotActive session.life.phase), session.moveOn session.world) := by
  cases hactive : session.life.isActive with
  | true => exact .inl ⟨rfl, timePasses_of_active hactive⟩
  | false => exact .inr (timePasses_of_over hactive)

/-! ### Settings -/

omit [SeededSource G] in
theorem setting_runUntilOver [RandomSource G] (session : Session R A G) (turns : Nat) :
    (session.runUntilOver turns).2.setting = session.setting := by
  induction turns generalizing session with
  | zero => rfl
  | succ turns ih =>
    cases hactive : session.life.isActive with
    | true =>
      rw [runUntilOver_of_active hactive]
      exact ih session.runTurn.2
    | false => rw [runUntilOver_of_over hactive]

/-- No call changes the setting. -/
theorem setting_call (session : Session R A G) (c : Call) :
    (session.call c).2.setting = session.setting := by
  match c with
  | .move (.runUntilOver turns) => exact session.setting_runUntilOver turns
  | .move (.choose id) =>
    show (session.choose id).2.setting = session.setting
    rcases session.choose_cases id with ⟨_, -, -, h⟩ | ⟨_, h⟩ <;> rw [h]
    rfl
  | .move .timePasses =>
    show session.timePasses.2.setting = session.setting
    rcases session.timePasses_cases with ⟨-, h⟩ | h <;> rw [h]
    rfl
  | .move .runTurn | .move .beginManual | .move (.triggerEnding _) | .move (.reseed _) | .reset _ =>
    rfl

/-! ### Runs of calls -/

theorem play_cons (session : Session R A G) (c : Call) (rest : List Call) :
    session.play (c :: rest) =
      ((session.call c).1 :: ((session.call c).2.play rest).1, ((session.call c).2.play rest).2) :=
  rfl

/-- Calls are answered one after the other: what comes later sees only the session that is left. -/
theorem play_append (session : Session R A G) (earlier later : List Call) :
    session.play (earlier ++ later) =
      ((session.play earlier).1 ++ ((session.play earlier).2.play later).1,
        ((session.play earlier).2.play later).2) := by
  induction earlier generalizing session with
  | nil => rfl
  | cons c rest ih => rw [List.cons_append, play_cons, ih, play_cons]; rfl

@[simp] theorem goOn_nil (session : Session R A G) : session.goOn [] = ([], session) := rfl

theorem goOn_cons (session : Session R A G) (m : Move) (rest : List Move) :
    session.goOn (m :: rest) =
      ((session.move m).1 :: ((session.move m).2.goOn rest).1, ((session.move m).2.goOn rest).2) :=
  rfl

/-- Moves may be made in two parts. -/
theorem goOn_append (session : Session R A G) (earlier later : List Move) :
    session.goOn (earlier ++ later) =
      ((session.goOn earlier).1 ++ ((session.goOn earlier).2.goOn later).1,
        ((session.goOn earlier).2.goOn later).2) := by
  rw [goOn, List.map_append, play_append]
  rfl

/-- What every call keeps is kept by any calls. -/
theorem play_induction {P : Session R A G → Prop}
    (step : ∀ session c, P session → P (session.call c).2)
    (session : Session R A G) (h : P session) (calls : List Call) :
    P (session.play calls).2 := by
  induction calls generalizing session with
  | nil => exact h
  | cons c rest ih => exact ih _ (step session c h)

/-- What is said of the answer to every call of a session of some kind is said of all answers to
calls, if calls leave sessions of the kind. -/
theorem forall_answers {P : Session R A G → Prop} {Q : Answer R → Prop}
    (keeps : ∀ session c, P session → P (session.call c).2)
    (answers : ∀ session c, P session → Q (session.call c).1) {session : Session R A G}
    (h : P session) (calls : List Call) : ∀ answer ∈ (session.play calls).1, Q answer := by
  induction calls generalizing session with
  | nil => exact fun _ hanswer ↦ absurd hanswer List.not_mem_nil
  | cons c rest ih => exact List.forall_mem_cons.2 ⟨answers session c h, ih (keeps session c h)⟩

/-- No call changes the setting of a session. -/
theorem setting_play (session : Session R A G) (calls : List Call) :
    (session.play calls).2.setting = session.setting :=
  play_induction (P := fun s ↦ s.setting = session.setting)
    (fun s c h ↦ (s.setting_call c).trans h) session rfl calls

/-- What every move keeps is kept by any moves. -/
theorem goOn_induction {P : Session R A G → Prop}
    (step : ∀ session m, P session → P (session.move m).2)
    (session : Session R A G) (h : P session) (moves : List Move) :
    P (session.goOn moves).2 := by
  induction moves generalizing session with
  | nil => exact h
  | cons m rest ih => exact ih _ (step session m h)

end Session

/-- A life that a run has reached: one that begins, or one that a call leaves of a life reached
before. -/
inductive Life.Reached {R : Type} (A G : Type) [Scalar R] [AchievementSink A] [SeededSource G] :
    Life R → Prop where
  | begun (catalog : Catalog R) (logCapacity : Nat) (talents : List String)
      (scene : Scene R A G) : Reached A G (scene.begin catalog logCapacity talents).life
  | called (session : Session R A G) (c : Call) (h : Reached A G session.life) :
      Reached A G (session.call c).2.life

end LifeStory
