import LifeStory.Proofs.Draws
import LifeStory.Proofs.Numbering
import LifeStory.Proofs.Offers
import LifeStory.Proofs.ReportDocuments
import LifeStory.Proofs.TurnCounter

/-!
# The counters of reports

Turns and lines are counted up to a largest number and no further. So the counters of a life that
are of their widths stay so in every change (`Life.Change.numbered`), and a report that is closed
with such a life has counters of their widths (`TurnReport.sized_close`). The position of a bucket
is below the number of the buckets of an authored choice (`Choice.bucket_resolve_lt`).

Together these bound the counters of every report that a call of a session answers with
(`Session.sized_call`).
-/

namespace LifeStory

/-! ### Lives -/

/-- The numbers of a log and of its lines are of their widths. -/
structure Log.Numbered (log : Log) : Prop where
  nextSeq : log.nextSeq ≤ maxSeq
  seq : ∀ e ∈ log.entries, e.seq ≤ maxSeq
  turn : ∀ e ∈ log.entries, e.turn ≤ Life.maxTurn

/-- A line of a turn that fits its field keeps the log numbered. -/
theorem Log.Numbered.push {log : Log} (h : log.Numbered) {turn : Nat} (hturn : turn ≤ Life.maxTurn)
    (kind : LogKind) (title : Option String) (text : String) :
    (log.push turn kind title text).Numbered := by
  have hentries : ∀ e ∈ (log.push turn kind title text).entries,
      e ∈ log.entries ∨ e = ⟨log.nextSeq, turn, kind, title, text⟩ := fun e he ↦
    (List.mem_append.1 he).imp List.mem_of_mem_drop List.mem_singleton.1
  refine ⟨succUpTo_le h.nextSeq, fun e he ↦ ?_, fun e he ↦ ?_⟩
  · rcases hentries e he with hold | rfl
    · exact h.seq e hold
    · exact h.nextSeq
  · rcases hentries e he with hold | rfl
    · exact h.turn e hold
    · exact hturn

namespace Life

/-- The turn counter of a life and the numbers of its log are of their widths. -/
structure Numbered {R : Type} (life : Life R) : Prop where
  turn : life.turn ≤ maxTurn
  log : life.log.Numbered

variable {R : Type} [Scalar R] {catalog : Catalog R} {allowed : Directive R → Prop}
  {life next : Life R}

theorem numbered_atBirth (catalog : Catalog R) (logCapacity : Nat) (talents : List (Talent R)) :
    (atBirth catalog logCapacity talents).Numbered := by
  have hempty : (Log.empty logCapacity).Numbered := ⟨Nat.zero_le _, nofun, nofun⟩
  exact ⟨Nat.zero_le _, (hempty.push (Nat.zero_le _) ..).push (Nat.zero_le _) ..⟩

/-- The turn counter does not get past its largest number. -/
theorem Change.turn_le_maxTurn (h : Change catalog allowed life next)
    (hturn : life.turn ≤ maxTurn) : next.turn ≤ maxTurn := by
  cases h with
  | grow aging => exact succUpTo_le hturn
  | settle => exact life.turn_settleDebt.symm ▸ hturn
  | obey directive _ obeyed => exact (kept_of_obey? obeyed).turn.symm ▸ hturn
  | wearStatuses | wearModifiers | note | stage | choose | die | close => exact hturn

/-- **Every change keeps counters of their widths.** -/
theorem Change.numbered (hchange : Change catalog allowed life next) (h : life.Numbered) :
    next.Numbered := by
  refine ⟨hchange.turn_le_maxTurn h.turn, ?_⟩
  rcases hchange.log_cases with hlog | ⟨kind, title, text, hlog⟩ <;> rw [hlog]
  · exact h.log
  · exact h.log.push h.turn kind title text

/-- A course keeps the lines numbered. -/
theorem Course.numbered (hcourse : Course catalog allowed life next) (h : life.Numbered) :
    next.Numbered :=
  hcourse.keeps (fun _ _ hchange ↦ hchange.numbered) h

/-- The counters of a run that begins are of their widths. -/
theorem numbered_begin {A G : Type} [AchievementSink A] [RandomSource G] (logCapacity : Nat)
    (talents : List String) (scene : Scene R A G) :
    (scene.begin catalog logCapacity talents).life.Numbered :=
  Scene.begin_induction (fun _ _ _ _ ↦ trivial) (numbered_atBirth catalog logCapacity)
    (fun _ _ h ↦ ⟨h.turn, h.log⟩) (fun _ _ hchange ↦ hchange.numbered) talents scene

end Life

/-! ### Reports -/

/-- A report that is closed with a life has the counters of the life. -/
theorem TurnReport.sized_close {R : Type} {life : Life R} (h : life.Numbered)
    {report : TurnReport R} (hbucket : ∀ position ∈ report.bucket, position ≤ Decimal.maxWord)
    (since : Nat) : (report.close life since).Sized where
  turn := h.turn
  bucket := hbucket
  lineNumbers e he := h.log.seq e (List.mem_of_mem_filter he)
  lineTurns e he := h.log.turn e (List.mem_of_mem_filter he)

/-- A report on nothing but the passing of time has no bucket. -/
theorem TurnReport.sized_close_absorb {R : Type} {life : Life R} (h : life.Numbered)
    (advance : Advance) (since : Nat) :
    ((blank.absorb advance).close life since : TurnReport R).Sized :=
  sized_close h (fun _ hposition ↦ absurd hposition (Option.not_mem_none _)) since

/-- The buckets of every authored choice can be counted in a word. -/
def Catalog.Countable {R : Type} (catalog : Catalog R) : Prop :=
  ∀ event ∈ catalog.events, ∀ choice ∈ event.choices, choice.results.length ≤ Decimal.maxWord

/-- The bucket that a choice turns out by is one of its buckets. -/
theorem Choice.bucket_resolve_lt {R G : Type} [Scalar R] [RandomSource G] (choice : Choice R)
    (source : Counted G) :
    ∀ position ∈ (choice.resolve source).1.bucket, position < choice.results.length := by
  by_cases hplain : choice.results = []
  · rw [resolve_of_plain hplain]
    nofun
  · obtain ⟨position, bucket, trace, hget, hresolve, -⟩ := resolve_of_buckets hplain source
    rw [hresolve]
    rintro _ ⟨⟩
    exact (List.getElem?_eq_some_iff.1 hget).1

namespace World

variable {R A G : Type} [Scalar R] [AchievementSink A] [RandomSource G] {setting : Setting R}
  {world : World R A G}

theorem bucket_make_le {choice : Choice R} (h : choice.results.length ≤ Decimal.maxWord)
    (report : TurnReport R) :
    ∀ position ∈ (world.make setting choice report).1.bucket, position ≤ Decimal.maxWord :=
  fun position hposition ↦
    Nat.le_trans (Nat.le_of_lt (choice.bucket_resolve_lt _ position hposition)) h

/-- The bucket that is reported is one of those that a machine word counts. -/
theorem bucket_happen_le (h : setting.catalog.Countable) {report : TurnReport R}
    (hnone : report.bucket = none) :
    ∀ position ∈ (world.happen setting report).1.bucket, position ≤ Decimal.maxWord := by
  have hblank : ∀ told : TurnReport R, told.bucket = report.bucket →
      ∀ position ∈ told.bucket, position ≤ Decimal.maxWord := by
    intro told htold position hposition
    rw [htold, hnone] at hposition
    cases hposition
  cases hevent : (world.drawEvent setting).1 with
  | none =>
    rw [happen_of_none hevent]
    exact hblank _ rfl
  | some event =>
    rw [happen_of_some hevent]
    cases hchoice : ((world.drawEvent setting).2.2.choosing setting event).1 with
    | none =>
      rw [liveThrough_of_none hchoice]
      exact hblank _ rfl
    | some choice =>
      rw [liveThrough_of_some hchoice]
      have hauthored : event ∈ setting.catalog.events :=
        List.mem_of_mem_filter (mem_of_drawEvent hevent)
      exact bucket_make_le
        (h event hauthored choice (List.mem_of_mem_filter (mem_of_choosing hchoice))) _

/-- The counters of a report on a turn without a player are of their widths. -/
theorem sized_runTurn (h : setting.catalog.Countable) (hlife : world.life.Numbered) :
    (world.runTurn setting).1.Sized := by
  have hlast : (world.runTurn setting).2.life.Numbered :=
    (runTurn_course setting.catalog.only_true world).numbered hlife
  cases hactive : (world.advance setting).2.life.isActive with
  | true =>
    rw [runTurn_of_active hactive] at hlast ⊢
    exact TurnReport.sized_close hlast (bucket_happen_le h rfl) _
  | false =>
    rw [runTurn_of_over hactive] at hlast ⊢
    exact TurnReport.sized_close_absorb hlast _ _

/-- The counters of a report on a turn of the player are of their widths. -/
theorem sized_beginManual (hlife : world.life.Numbered) :
    (world.beginManual setting).1.report.Sized :=
  TurnReport.sized_close_absorb
    ((beginManual_course setting.catalog.only_true world).numbered hlife)
    (world.advance setting).1 _

theorem sized_passTime (hlife : world.life.Numbered) :
    (world.passTime setting).1.report.Sized :=
  TurnReport.sized_close_absorb
    ((passTime_course setting.catalog.only_true world).numbered hlife)
    ((world.note .system none timePassesLine).advance setting).1 _

/-- The counters of a report on a choice of the player are of their widths. -/
theorem sized_resolve {candidate : Candidate R}
    (h : candidate.choice.results.length ≤ Decimal.maxWord) (hlife : world.life.Numbered) :
    (world.resolve setting candidate).1.Sized := by
  have hcourse : Life.Course setting.catalog (fun _ ↦ True) world.life
      (world.resolve setting candidate).2.life :=
    (stage_course candidate.origin world).trans (resolve_course (fun _ _ ↦ trivial) world)
  exact TurnReport.sized_close (hcourse.numbered hlife) (bucket_make_le h _) _

end World

/-! ### Sessions -/

namespace Session

variable {R A G : Type} [Scalar R] [AchievementSink A] {session : Session R A G}

theorem sized_runUntilOver [RandomSource G] (h : session.setting.catalog.Countable)
    (hlife : session.life.Numbered) (turns : Nat) :
    ∀ report ∈ (session.runUntilOver turns).1, report.Sized := by
  induction turns generalizing session with
  | zero => exact fun _ hreport ↦ absurd hreport List.not_mem_nil
  | succ turns ih =>
    cases hactive : session.life.isActive with
    | true =>
      rw [runUntilOver_of_active hactive]
      have hnext : session.runTurn.2.life.Numbered :=
        (World.runTurn_course session.setting.catalog.only_true session.world).numbered hlife
      exact List.forall_mem_cons.2 ⟨World.sized_runTurn h hlife, @ih session.runTurn.2 h hnext⟩
    | false =>
      rw [runUntilOver_of_over hactive]
      exact fun _ hreport ↦ absurd hreport List.not_mem_nil

variable [SeededSource G]

theorem numbered_call (h : session.life.Numbered) (c : Call) :
    (session.call c).2.life.Numbered := by
  cases c with
  | move m => exact (move_course session.only_true m).numbered h
  | reset talents => exact Life.numbered_begin _ talents session.world.scene

/-- **The counters of the reports on turns are of their widths**, whatever is asked. -/
theorem sized_call (h : session.setting.catalog.Countable) (hlife : session.life.Numbered)
    (hfit : session.Fit) (c : Call) :
    ∀ report ∈ (session.call c).1.turnReports, report.Sized := by
  match c with
  | .move .runTurn =>
    exact List.forall_mem_singleton.2 (World.sized_runTurn h hlife)
  | .move (.runUntilOver turns) => exact sized_runUntilOver h hlife turns
  | .move .beginManual =>
    exact List.forall_mem_singleton.2 (World.sized_beginManual hlife)
  | .move (.choose id) =>
    show ∀ report ∈ (Answer.ofExcept Answer.report (session.choose id).1).turnReports, report.Sized
    rcases session.choose_cases id with ⟨candidate, -, hfind, hchoose⟩ | ⟨_, hrefused⟩
    · obtain ⟨event, hevent, hchoice⟩ := (hfit candidate (List.mem_of_find?_eq_some hfind)).authored
      rw [hchoose]
      exact List.forall_mem_singleton.2
        (World.sized_resolve (h event hevent candidate.choice hchoice) hlife)
    · rw [hrefused]
      exact fun _ hreport ↦ absurd hreport List.not_mem_nil
  | .move .timePasses =>
    show ∀ report ∈ (Answer.ofExcept Answer.turn session.timePasses.1).turnReports, report.Sized
    rcases session.timePasses_cases with ⟨-, hpassed⟩ | hrefused
    · rw [hpassed]
      exact List.forall_mem_singleton.2 (World.sized_passTime hlife)
    · rw [hrefused]
      exact fun _ hreport ↦ absurd hreport List.not_mem_nil
  | .move (.triggerEnding _) | .move (.reseed _) | .reset _ =>
    exact fun _ hreport ↦ absurd hreport List.not_mem_nil

end Session

end LifeStory
