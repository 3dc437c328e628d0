import LifeStory.Proofs.Backfill
import LifeStory.Proofs.Collections
import LifeStory.Proofs.Unlocking

/-!
# A fresh save goes on like the run that was saved

A run that goes on from a save is put together otherwise than one that begins: its life is loaded
and given the stats that packs have added, its streams are seeded from the seed and the turn, and
its ledger is empty. For a run that was saved as soon as it began, and is active, all of this comes
to the same.

Three facts carry this. Texts are drawn at the beginning for an ending alone, and no life is active
after an ending, so that the streams are still those of the seed (`Scene.text_begin_of_alive`). A
life has all custom stats of its catalog from the beginning on, so that there is nothing to add
(`Catalog.backfill_eq_self`). And nothing reads the ledger (`Session.play_eq_requests`): what is
unlocked already is the only thing in which the two runs differ (`Ledger.Ahead`).
-/

namespace LifeStory

/-! ### What an active life has drawn -/

namespace Scene

variable {R A G : Type} [Scalar R] [AchievementSink A] [RandomSource G] {catalog : Catalog R}

/-- A directive that leaves a life alive found it alive, and drew no text. -/
theorem text_applyDirective_of_alive (directive : Directive R) (scene : Scene R A G)
    (h : (scene.applyDirective catalog directive).2.life.alive = true) :
    scene.life.alive = true ∧ (scene.applyDirective catalog directive).2.text = scene.text := by
  rcases scene.applyDirective_cases catalog directive with ⟨ending, -, heq⟩ | ⟨id, -, heq⟩ | heq
  · rw [heq] at h ⊢
    rcases scene.triggerEnding_cases catalog ending with hrefused | ⟨-, _, _, _, hclosed⟩
    · rw [hrefused] at h ⊢
      exact ⟨h, rfl⟩
    · rw [hclosed] at h
      exact absurd h Bool.false_ne_true
  · rw [heq] at h ⊢
    exact ⟨h, rfl⟩
  · rw [heq] at h ⊢
    cases hobey : scene.life.obey? catalog directive with
    | none =>
      rw [hobey] at h
      exact ⟨h, rfl⟩
    | some next =>
      rw [hobey] at h
      exact ⟨(Life.kept_of_obey? hobey).alive.symm.trans h, rfl⟩

/-- A life that is alive when it has begun has drawn no text. -/
theorem text_begin_of_alive (logCapacity : Nat) (talents : List String) (scene : Scene R A G)
    (h : (scene.begin catalog logCapacity talents).life.alive = true) :
    (scene.begin catalog logCapacity talents).text = scene.text := by
  let Untold (s : Scene R A G) : Prop := s.life.alive = true → s.text = scene.text
  have hstep : ∀ directive s, Untold s → Untold (s.applyDirective catalog directive).2 := by
    intro directive s hs halive
    obtain ⟨hbefore, htext⟩ := s.text_applyDirective_of_alive directive halive
    exact htext.trans (hs hbefore)
  have hfold : ∀ (chosen : List (Talent R)) s, Untold s →
      Untold (chosen.foldl (receiveTalent catalog) s) := by
    intro chosen
    induction chosen with
    | nil => exact fun _ hs ↦ hs
    | cons talent rest ih =>
      exact fun s hs ↦ ih _ (applyAll_induction (fun directive _ ↦ hstep directive) hs)
  exact hfold _ _ (fun _ ↦ rfl) h

end Scene

/-! ### What a life that begins has -/

namespace Catalog

variable {R : Type} {catalog : Catalog R} {life : Life R}

/-- Nothing is added to a life that has all custom stats. -/
theorem backfill_eq_self
    (h : ∀ stat ∈ catalog.customStats, life.customStats.contains stat.id = true) :
    catalog.backfill life = life := by
  have hstats : ∀ (stats : List (CustomStat R)), stats ⊆ catalog.customStats →
      stats.foldl (fun map s ↦ if map.contains s.id then map else map.insert s.id s.initial)
        life.customStats = life.customStats := by
    intro stats
    induction stats with
    | nil => exact fun _ ↦ rfl
    | cons stat rest ih =>
      intro hsubset
      obtain ⟨hstat, hrest⟩ := List.cons_subset.1 hsubset
      rw [List.foldl_cons, if_pos (h stat hstat), ih hrest]
  rw [backfill, hstats _ (List.Subset.refl _)]

end Catalog

/-- A life that begins has all custom stats. -/
theorem Scene.backfill_begin {R A G : Type} [Scalar R] [AchievementSink A] [RandomSource G]
    (catalog : Catalog R) (logCapacity : Nat) (talents : List String) (scene : Scene R A G) :
    catalog.backfill (scene.begin catalog logCapacity talents).life =
      (scene.begin catalog logCapacity talents).life := by
  have hshape : (scene.begin catalog logCapacity talents).life.Shapely catalog :=
    begin_induction (fun _ _ _ _ ↦ trivial) (Life.shapely_atBirth catalog logCapacity)
      (fun _ _ h ↦ ⟨h.inventory, h.tags, h.statuses, h.customStats, h.multipliers⟩)
      (fun _ _ hchange ↦ hchange.shapely) talents scene
  exact Catalog.backfill_eq_self fun stat hstat ↦
    (hshape.customStats stat.id).2 ⟨stat, hstat, rfl⟩

/-! ### Ledgers of which one has a lead -/

namespace Ledger

variable {lead : List String} {first second : Ledger}

/-- The first ledger lists the given names, and then those of the second that are not among them. -/
structure Ahead (lead : List String) (first second : Ledger) : Prop where
  known : first.known = second.known
  unlocked : first.unlocked = lead ++ second.unlocked.filter (· ∉ lead)

theorem Ahead.unlock (h : Ahead lead first second) (id : String) :
    Ahead lead (first.unlock id) (second.unlock id) where
  known := by rw [known_unlock, known_unlock, h.known]
  unlocked := by
    have hlisted : id ∈ first.unlocked ↔ id ∈ lead ∨ id ∈ second.unlocked := by
      rw [h.unlocked, List.mem_append, List.mem_filter]
      by_cases hlead : id ∈ lead <;> simp [hlead]
    rcases second.unlock_cases id with ⟨hrefused, hsecond⟩ | ⟨⟨hid, hnew, hknown⟩, hsecond⟩
    · -- What the second ledger refuses the first refuses as well.
      have hfirst : first.unlock id = first := by
        rw [Ledger.unlock, if_pos]
        rw [hlisted, h.known]
        exact hrefused.imp_right (Or.imp_left .inr)
      rw [hfirst, hsecond, h.unlocked]
    · rw [hsecond, List.filter_append]
      by_cases hlead : id ∈ lead
      · have hfirst : first.unlock id = first := by
          rw [Ledger.unlock, if_pos (.inr (.inl (hlisted.2 (.inl hlead))))]
        rw [hfirst, h.unlocked]
        simp [hlead]
      · have hfirst : first.unlock id = { first with unlocked := first.unlocked ++ [id] } := by
          rw [Ledger.unlock, if_neg]
          rw [hlisted, h.known]
          rintro (hempty | (hmem | hmem) | hunknown)
          · exact hid hempty
          · exact hlead hmem
          · exact hnew hmem
          · exact hunknown hknown
        rw [hfirst, h.unlocked]
        simp [hlead]

/-- The same requests leave the lead as it is. -/
theorem Ahead.unlockAll (h : Ahead lead first second) (ids : List String) :
    Ahead lead (first.unlockAll ids) (second.unlockAll ids) := by
  induction ids generalizing first second with
  | nil => exact h
  | cons id rest ih => exact ih (h.unlock id)

end Ledger

/-! ### Runs that go on -/

namespace Setting

variable {R G : Type} [Scalar R] [SeededSource G] (setting : Setting R) (seed : UInt64)
  (talents : List String)

/-- The life of a run that begins is loaded as it is. -/
theorem backfill_newLife :
    setting.catalog.backfill (setting.newLife G seed talents) = setting.newLife G seed talents :=
  Scene.backfill_begin setting.catalog setting.config.logCapacity talents _

/-- A run that goes on from the beginning of a run differs from it in the sink at most, if it is
active. -/
theorem sinkless_resume (h : (setting.newLife G seed talents).alive = true) :
    (setting.resume seed (setting.newLife G seed talents) : Session R Ledger G).sinkless =
      (Session.beginWithLedger setting seed talents : Session R Ledger G).sinkless := by
  let scene : Scene R Ledger G :=
    ⟨Life.fresh Life.defaultLogCapacity, .ofCatalog setting.catalog, (Streams.ofSeed seed).text⟩
  have hturn : (setting.newLife G seed talents).turn = 0 :=
    scene.turn_begin setting.config.logCapacity talents
  have hseed : resumeSeed seed (setting.newLife G seed talents).turn = seed := by
    rw [hturn, resumeSeed, if_pos rfl]
  have htext := scene.text_begin_of_alive setting.config.logCapacity talents h
  have hstreams :
      (Session.beginWithLedger setting seed talents : Session R Ledger G).world.streams =
        Streams.ofSeed seed :=
    congrArg (fun text ↦ { Streams.ofSeed (G := G) seed with text := text }) htext
  rw [resume, hseed, Session.sinkless, Session.sinkless, Session.mapSink, Session.mapSink,
    World.mapSink, World.mapSink, hstreams]
  rfl

end Setting

namespace Session

variable {R G : Type} [Scalar R] [SeededSource G] {first second : Session R Ledger G}

/-- Sessions that differ in their ledgers at most answer any calls alike, and differ in their
ledgers at most afterwards; a ledger keeps the lead that it has. -/
theorem play_of_sinkless (h : first.sinkless = second.sinkless) {lead : List String}
    (hlead : first.world.sink.Ahead lead second.world.sink) (calls : List Call) :
    (first.play calls).1 = (second.play calls).1 ∧
      (first.play calls).2.sinkless = (second.play calls).2.sinkless ∧
      (first.play calls).2.world.sink.Ahead lead (second.play calls).2.world.sink := by
  have hrequesting : first.requesting = second.requesting :=
    congrArg (fun s : Session R Unit G ↦ s.mapSink fun _ ↦ Requests.none) h
  rw [first.play_eq_requests, second.play_eq_requests, hrequesting]
  exact ⟨rfl, rfl, hlead.unlockAll _⟩

/-- **To resume a fresh save is to go on.** If a run that begins is active, and a slot holds its
life, then the run that goes on from the slot with the same seed and the run that was saved answer
any calls alike, and are left with the same life, the same offer and the same streams, the numbers
of their draws among them. Their ledgers list the same achievements, but for those that the talents
unlocked and that the ledger of the run that was saved lists first. -/
theorem resuming_is_going_on (setting : Setting R) (seed : UInt64) (talents : List String)
    {saves : StringMap (Life R)} {slot : String} :
    let saved : Session R Ledger G := beginWithLedger setting seed talents
    saved.life.phase = .active → saves.get? slot = some saved.life →
      ∃ loaded, setting.load? saves slot = some loaded ∧
        ∀ calls : List Call,
          let resumed : Session R Ledger G := setting.resume seed loaded
          let lead := saved.world.sink.unlocked
          (resumed.play calls).1 = (saved.play calls).1 ∧
          (resumed.play calls).2.sinkless = (saved.play calls).2.sinkless ∧
          (resumed.play calls).2.world.streams.drawCounts =
            (saved.play calls).2.world.streams.drawCounts ∧
          (saved.play calls).2.world.sink.unlocked =
            lead ++ (resumed.play calls).2.world.sink.unlocked.filter (· ∉ lead) := by
  intro saved hactive hsaved
  have halive : saved.life.alive = true := Life.isActive_iff.1 (decide_eq_true hactive)
  have hsame := setting.sinkless_resume seed talents halive
  refine ⟨saved.life, ?_, fun calls ↦ ?_⟩
  · rw [Setting.load?, hsaved, Option.map_some]
    exact congrArg some (setting.backfill_newLife seed talents)
  · intro resumed lead
    have hlead : saved.world.sink.Ahead lead resumed.world.sink := by
      have hbegun := congrArg (fun s : Session R Ledger G ↦ s.world.sink)
        (begin_eq_requests setting seed (Ledger.ofCatalog setting.catalog) talents)
      have hsink : saved.world.sink = Requests.unlockAll _ _ := hbegun
      refine ⟨?_, (List.append_nil _).symm⟩
      rw [hsink]
      exact Ledger.known_unlockAll _ _
    obtain ⟨hanswers, hafter, hledgers⟩ := play_of_sinkless hsame.symm hlead calls
    exact ⟨hanswers.symm, hafter.symm,
      congrArg (fun s ↦ s.world.streams.drawCounts) hafter.symm, hledgers.unlocked⟩

/-- A talent that unlocks an achievement. -/
def fortuneCatalog : Catalog Float :=
  { Catalog.ofBase .empty with
    talents := [⟨"fortune", "Fortune", "", [.unlockAchievement "born_lucky"]⟩]
    achievements := [⟨"born_lucky", "Born lucky", "", false, []⟩] }

/-- A child of fortune is saved as soon as its run begins. When the run goes on from the save, what
fortune unlocked is all that its ledger lacks. -/
theorem child_of_fortune_goes_on :
    let setting : Setting Float := ⟨fortuneCatalog, .default⟩
    let saved : Session Float Ledger Xoshiro := beginWithLedger setting 7 ["fortune"]
    let saves : StringMap (Life Float) := StringMap.empty.insert "one" saved.life
    saved.life.phase = .active ∧ saves.get? "one" = some saved.life ∧
      saved.world.sink.unlocked = ["born_lucky"] ∧
      ∃ loaded, setting.load? saves "one" = some loaded ∧
        ((setting.resume 7 loaded : Session Float Ledger Xoshiro).play
          [.move .runTurn, .move .beginManual]).1 =
            (saved.play [.move .runTurn, .move .beginManual]).1 := by
  intro setting saved saves
  have hactive : saved.life.phase = .active := by decide +kernel
  have hsaved : saves.get? "one" = some saved.life := StringMap.get?_insert_self _ _ _
  have hunlocked : saved.world.sink.unlocked = ["born_lucky"] := by decide +kernel
  obtain ⟨loaded, hload, hgoes⟩ := resuming_is_going_on setting 7 ["fortune"] hactive hsaved
  exact ⟨hactive, hsaved, hunlocked, loaded, hload, (hgoes [.move .runTurn, .move .beginManual]).1⟩

end Session

end LifeStory
