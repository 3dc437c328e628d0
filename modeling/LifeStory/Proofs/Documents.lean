import LifeStory.Proofs.Backfill
import LifeStory.Proofs.Hidden
import LifeStory.Proofs.ReportSizes

/-!
# Documents are read again as they are written

Content that was read from a document is written so that the same content is read again, and so are
the reports on runs of such content and the turns of the player, with what they offer
(`Session.documents_are_read_again`).

The choices that are offered are authored ones, so they are settled when the content is
(`Catalog.settled_assemble`). What is reported of draws may hold numbers that are not finite, which
documents cannot hold; a turn of the player reports no draws.
-/

namespace LifeStory

open Json

/-- What some value is read as. -/
def Json.Given {α : Type} (decode : Json → Option α) (a : α) : Prop :=
  ∃ j : Json, j.IsValue ∧ decode j = some a

/-! ### Catalogs of documents -/

namespace Catalog

/-- All events of content that was read from values are settled. -/
theorem settled_assemble {base : BaseContent Float} {packs : List (Pack Float)}
    (hbase : Given BaseContent.ofJson? base) (hpacks : ∀ pack ∈ packs, Given Pack.ofJson? pack) :
    ∀ event ∈ (assemble base packs).events, event.Settled := by
  intro event hevent
  rw [events_assemble] at hevent
  rcases List.mem_append.1 hevent with hown | hadded
  · obtain ⟨j, hj, hread⟩ := hbase
    exact (BaseContent.settled_of_ofJson? hj hread).events event hown
  · obtain ⟨pack, hpack, hmem⟩ := List.mem_flatMap.1 hadded
    obtain ⟨j, hj, hread⟩ := hpacks pack hpack
    exact (Pack.settled_of_ofJson? hj hread).events event hmem

end Catalog

/-! ### Answers -/

/-- The reports of an answer, if their numbers are finite, and the turn of the player that it may be
are read again as they are written. -/
structure Answer.ReadAgain (answer : Answer Float) : Prop where
  reports : ∀ report ∈ answer.turnReports, report.Finite →
    Reread TurnReport.ofJson? TurnReport.toJson report
  turn : ∀ turn, answer = .turn turn → Reread ManualTurn.ofJson? ManualTurn.toJson turn

namespace Session

section Answers

variable {R A G : Type} [Scalar R] [AchievementSink A] [SeededSource G] {session : Session R A G}

/-- A turn of the player reports no draws. -/
theorem traces_of_turn {c : Call} {turn : ManualTurn R} (h : (session.call c).1 = .turn turn) :
    turn.report.traces = [] := by
  match c with
  | .move .beginManual =>
    obtain rfl := Answer.turn.inj h
    rfl
  | .move .timePasses =>
    change Answer.ofExcept Answer.turn session.timePasses.1 = .turn turn at h
    rcases session.timePasses_cases with ⟨-, hpassed⟩ | hrefused
    · rw [hpassed] at h
      obtain rfl := Answer.turn.inj h
      rfl
    · rw [hrefused] at h
      cases h
  | .move (.choose id) =>
    change Answer.ofExcept Answer.report (session.choose id).1 = .turn turn at h
    rcases session.choose_cases id with ⟨_, -, -, hchoose⟩ | ⟨_, hrefused⟩
    · rw [hchoose] at h
      cases h
    · rw [hrefused] at h
      cases h
  | .move .runTurn | .move (.runUntilOver _) | .move (.triggerEnding _) | .move (.reseed _)
  | .reset _ => cases h

/-- What a turn of the player offers is authored. -/
theorem authored_of_turn (hfit : session.Fit) {c : Call} {turn : ManualTurn R}
    (h : (session.call c).1 = .turn turn) :
    ∀ candidate ∈ turn.offer.pending,
      ∃ event ∈ session.setting.catalog.events, candidate.choice ∈ event.choices := by
  have hoffer : (session.call c).1.offer? = some turn.offer.pending := by
    rw [h]
    rfl
  rw [← pending_call_of_offer hoffer, ← session.setting_call c]
  exact fun candidate hcandidate ↦ (hfit.call c candidate hcandidate).authored

end Answers

variable {A G : Type} [AchievementSink A] [SeededSource G]

theorem readAgain_call {session : Session Float A G}
    (hsettled : ∀ event ∈ session.setting.catalog.events, event.Settled)
    (hcount : session.setting.catalog.Countable) (hlife : session.life.Numbered)
    (hfit : session.Fit) (c : Call) : (session.call c).1.ReadAgain := by
  have hsized := sized_call hcount hlife hfit c
  refine ⟨fun report hreport hfinite ↦ TurnReport.reread (hsized report hreport) hfinite,
    fun turn hturn ↦ ManualTurn.reread ?_ ?_ fun candidate hcandidate ↦ ?_⟩
  · rw [hturn] at hsized
    exact hsized turn.report (List.mem_singleton_self _)
  · rw [TurnReport.Finite, traces_of_turn hturn]
    exact fun _ htrace ↦ absurd htrace List.not_mem_nil
  · obtain ⟨event, hevent, hchoice⟩ := authored_of_turn hfit hturn candidate hcandidate
    exact (hsettled event hevent).choices candidate.choice hchoice

/-- The sessions in which a run of a setting is opened: the run begins, or it goes on with a life
whose counters are of their widths. -/
inductive Opens (setting : Setting Float) : Session Float A G → Prop where
  | begins (seed : UInt64) (sink : A) (talents : List String) :
      Opens setting (begin setting seed sink talents)
  | goesOn (seed : UInt64) (sink : A) {life : Life Float} (h : life.Numbered) :
      Opens setting (ofLife setting seed sink life)

/-- A run is opened with counters of their widths, and without choices that are offered. -/
theorem Opens.idle {setting : Setting Float} {session : Session Float A G}
    (h : Opens setting session) :
    session.setting = setting ∧ session.life.Numbered ∧ session.Fit := by
  cases h with
  | begins seed sink talents =>
    exact ⟨rfl, Life.numbered_begin _ talents _, fit_idle setting _⟩
  | goesOn seed sink hlife => exact ⟨rfl, hlife, fit_idle setting _⟩

/-- **Documents are read again as they are written**, with their fields in the order in which they
are written or in key order: base content and packs that were read from a value; and, over content
that was read from values and has no more buckets to a choice than a word can count, each report on
a turn that any call of a session answers with, if its numbers are finite, and each turn of the
player with what it offers. -/
theorem documents_are_read_again (A G : Type) [AchievementSink A] [SeededSource G] :
    (∀ base, Given BaseContent.ofJson? base → Reread BaseContent.ofJson? BaseContent.toJson base) ∧
    (∀ pack, Given Pack.ofJson? pack → Reread Pack.ofJson? Pack.toJson pack) ∧
    ∀ base packs, Given BaseContent.ofJson? base → (∀ pack ∈ packs, Given Pack.ofJson? pack) →
      ∀ config switch, (Setting.ofContent base packs config switch).catalog.Countable →
        ∀ session : Session Float A G, Opens (Setting.ofContent base packs config switch) session →
          ∀ calls, ∀ answer ∈ (session.play calls).1, answer.ReadAgain := by
  refine ⟨?_, ?_, ?_⟩
  · rintro base ⟨j, hj, hread⟩
    exact BaseContent.reread (BaseContent.settled_of_ofJson? hj hread)
  · rintro pack ⟨j, hj, hread⟩
    exact Pack.reread (Pack.settled_of_ofJson? hj hread)
  · intro base packs hbase hpacks config switch hcount session hopens calls
    have hsettled := Catalog.settled_assemble hbase hpacks
    -- Every call leaves a session of the same setting, numbered and with an offer that fits.
    refine forall_answers
      (P := fun s ↦ s.setting = .ofContent base packs config switch ∧ s.life.Numbered ∧ s.Fit)
      (fun s c ⟨hsetting, hlife, hfit⟩ ↦
        ⟨(s.setting_call c).trans hsetting, numbered_call hlife c, hfit.call c⟩)
      (fun s c ⟨hsetting, hlife, hfit⟩ ↦ ?_) hopens.idle calls
    exact readAgain_call (hsetting ▸ hsettled) (hsetting ▸ hcount) hlife hfit c

/-- A way in which going on may turn out, with an outcome that nobody understands. -/
def restValue : Json := .object [("weight", .real 2.5), ("outcomes", .array [.string "rest"])]

/-- The choice to go on. -/
def goOnValue : Json := .object [("text", .string "Go on"), ("results", .array [restValue])]

/-- Base content of one event, a road, on which to go on. -/
def roadValue : Json :=
  .object [("events", .array [
    .object [("id", .string "road"), ("choices", .array [goOnValue])]])]

/-- A pack with a stat that is given nothing to begin with. -/
def strideValue : Json :=
  .object [("customStats", .array [.object [("id", .string "stride")]])]

/-- What the content of the road is read as. -/
def roadContent : BaseContent Float :=
  { BaseContent.empty with
    events := [⟨"road", "", "", [], [⟨none, "Go on", [], none, none, false, [],
      [⟨some 2.5, [.unknown (.string "rest")], none⟩], none⟩], [], none, false, false⟩] }

/-- What the pack is read as. -/
def stridePack : Pack Float := ⟨"", "", none, [], [], [], .empty, [⟨"stride", "", 0⟩], []⟩

/-- The content of the road and the pack are read again, and so are the report on a turn on the road
and the turn of a player after it. -/
theorem road_is_read_again :
    let setting := Setting.ofContent roadContent [stridePack] .default none
    let session : Session Float Ledger Xoshiro := begin setting 7 ⟨.empty, []⟩ []
    let report := session.runTurn.1
    let turn := session.runTurn.2.beginManual.1
    (Given BaseContent.ofJson? roadContent ∧ Given Pack.ofJson? stridePack ∧
      setting.catalog.Countable ∧ report.Finite) ∧
      (report.traces ≠ [] ∧ turn.offer.pending ≠ []) ∧
      Reread BaseContent.ofJson? BaseContent.toJson roadContent ∧
      Reread Pack.ofJson? Pack.toJson stridePack ∧
      Reread TurnReport.ofJson? TurnReport.toJson report ∧
      Reread ManualTurn.ofJson? ManualTurn.toJson turn := by
  intro setting session report turn
  have hweight : (2.5 : Float).isFinite = true := by decide +kernel
  have hrest : restValue.IsValue :=
    .object (by simp [IsValue.real hweight, IsValue.array, IsValue.string])
  have hgoOn : goOnValue.IsValue := .object (by simp [IsValue.array, IsValue.string, hrest])
  have hevent : IsValue (.object [("id", .string "road"), ("choices", .array [goOnValue])]) :=
    .object (by simp [IsValue.array, IsValue.string, hgoOn])
  have hroad : Given BaseContent.ofJson? roadContent :=
    ⟨roadValue, .object (by simp [IsValue.array, hevent]), rfl⟩
  have hstride : Given Pack.ofJson? stridePack :=
    ⟨strideValue, .object (by simp [IsValue.array, IsValue.string, IsValue.object]), rfl⟩
  have hcount : setting.catalog.Countable := by
    show ∀ event ∈ roadContent.events, _
    decide
  have hfinite : report.Finite := by decide +kernel
  have htraces : report.traces ≠ [] := by
    rw [← List.isEmpty_eq_false_iff]
    decide +kernel
  have hoffered : turn.offer.pending ≠ [] := by
    rw [← List.isEmpty_eq_false_iff]
    decide +kernel
  obtain ⟨hbases, hpacks, hruns⟩ := documents_are_read_again Ledger Xoshiro
  have hturns : ∀ opened : Session Float Ledger Xoshiro, Opens setting opened →
      (opened.runTurn.1.Finite → Reread TurnReport.ofJson? TurnReport.toJson opened.runTurn.1) ∧
        Reread ManualTurn.ofJson? ManualTurn.toJson opened.runTurn.2.beginManual.1 := by
    intro opened hopened
    obtain ⟨hreport, hturn⟩ := List.forall_mem_cons.1
      (hruns roadContent [stridePack] hroad (List.forall_mem_singleton.2 hstride) .default none
        hcount opened hopened [.move .runTurn, .move .beginManual])
    exact ⟨hreport.reports _ (List.mem_singleton_self _),
      (List.forall_mem_singleton.1 hturn).turn _ rfl⟩
  obtain ⟨hreport, hturn⟩ := hturns session (.begins 7 _ [])
  exact ⟨⟨hroad, hstride, hcount, hfinite⟩, ⟨htraces, hoffered⟩, hbases _ hroad,
    hpacks _ hstride, hreport hfinite, hturn⟩

end Session

end LifeStory
