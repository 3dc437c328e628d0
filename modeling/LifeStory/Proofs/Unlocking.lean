import LifeStory.Proofs.Rewards
import LifeStory.Proofs.Sinks

/-!
# A ledger and a set take down the same achievements

A ledger keeps a list of the achievements that were unlocked, without the empty name, without names
that its catalog does not know and without repetitions; a set of names takes any name but the empty
one. They stay in step over whole runs: the list has exactly those names of the set that the catalog
knows (`Ledger.InStep`), whatever directives, talents, status effects and endings report, in
whatever order and how often.

Nothing reads a sink (`Session.play_mapSink`), so that two runs which differ in the kind of their
sink are translations of one run with requests (`Session.play_eq_requests`). It is left to follow
one list of requests through both sinks (`Ledger.InStep.unlockAll`).
-/

namespace LifeStory

/-! ### Requests of a ledger and of a set -/

namespace Ledger

variable {ledger : Ledger} {set : StringSet} {id : String}

/-- The ledger lists, once each, the names of the set that it knows. -/
structure InStep (ledger : Ledger) (set : StringSet) : Prop where
  mem_iff : ∀ id, id ∈ ledger.unlocked ↔
    set.contains id = true ∧ ledger.known.contains id = true
  nodup : ledger.unlocked.Nodup
  nameless : "" ∉ ledger.unlocked

theorem inStep_empty (known : StringSet) : InStep ⟨known, []⟩ StringMap.empty where
  mem_iff _ := ⟨fun h ↦ absurd h List.not_mem_nil, fun h ↦ absurd h.1 Bool.false_ne_true⟩
  nodup := .nil
  nameless := List.not_mem_nil

/-- What is unlocked is unlocked already, or is named, known and new. -/
theorem unlock_cases (ledger : Ledger) (id : String) :
    (id = "" ∨ id ∈ ledger.unlocked ∨ ¬ ledger.known.contains id = true) ∧
      ledger.unlock id = ledger ∨
    (id ≠ "" ∧ id ∉ ledger.unlocked ∧ ledger.known.contains id = true) ∧
      ledger.unlock id = { ledger with unlocked := ledger.unlocked ++ [id] } := by
  rw [unlock]
  split
  · next hrefused => exact .inl ⟨hrefused, rfl⟩
  · next htaken =>
    rw [not_or, not_or, Decidable.not_not] at htaken
    exact .inr ⟨htaken, rfl⟩

theorem isPrefix_unlock (ledger : Ledger) (id : String) :
    ledger.unlocked <+: (ledger.unlock id).unlocked := by
  rcases ledger.unlock_cases id with ⟨-, h⟩ | ⟨-, h⟩
  · exact h.symm ▸ List.prefix_rfl
  · exact h.symm ▸ List.prefix_append _ _

/-- What is unlocked meanwhile comes last. -/
theorem isPrefix_unlockAll (ledger : Ledger) (ids : List String) :
    ledger.unlocked <+: (ledger.unlockAll ids).unlocked := by
  induction ids generalizing ledger with
  | nil => exact List.prefix_rfl
  | cons id rest ih => exact (ledger.isPrefix_unlock id).trans (ih _)

/-- The name that is unlocked next is listed if it is named and known. -/
theorem mem_unlock_iff (hid : id ≠ "") (other : String) :
    other ∈ (ledger.unlock id).unlocked ↔
      other ∈ ledger.unlocked ∨ other = id ∧ ledger.known.contains id = true := by
  rcases ledger.unlock_cases id with ⟨hrefused, h⟩ | ⟨⟨-, -, hknown⟩, h⟩ <;> rw [h]
  · refine ⟨.inl, ?_⟩
    rintro (hlisted | ⟨rfl, hknown⟩)
    · exact hlisted
    · rcases hrefused with hempty | hlisted | hunknown
      · exact absurd hempty hid
      · exact hlisted
      · exact absurd hknown hunknown
  · rw [List.mem_append, List.mem_singleton, and_iff_left hknown]

/-- A request keeps ledger and set in step. -/
theorem InStep.unlock (h : ledger.InStep set) (id : String) :
    (ledger.unlock id).InStep (AchievementSink.unlock set id) where
  mem_iff other := by
    by_cases hid : id = ""
    · rw [hid, Ledger.unlock, if_pos (.inl rfl)]
      exact h.mem_iff other
    · have hset : AchievementSink.unlock set id = set.add id := if_neg hid
      rw [mem_unlock_iff hid, h.mem_iff, hset, known_unlock, StringSet.contains_add]
      constructor
      · rintro (⟨hnamed, hknown⟩ | ⟨rfl, hknown⟩)
        · exact ⟨.inr hnamed, hknown⟩
        · exact ⟨.inl rfl, hknown⟩
      · rintro ⟨rfl | hnamed, hknown⟩
        · exact .inr ⟨rfl, hknown⟩
        · exact .inl ⟨hnamed, hknown⟩
  nodup := by
    rcases ledger.unlock_cases id with ⟨-, heq⟩ | ⟨⟨-, hnew, -⟩, heq⟩ <;> rw [heq]
    · exact h.nodup
    · refine List.nodup_append.2 ⟨h.nodup, List.pairwise_singleton _ id, ?_⟩
      rintro listed hlisted _ hid rfl
      exact hnew (List.mem_singleton.1 hid ▸ hlisted)
  nameless := by
    rcases ledger.unlock_cases id with ⟨-, heq⟩ | ⟨⟨hid, -, -⟩, heq⟩ <;> rw [heq]
    · exact h.nameless
    · rw [List.mem_append, List.mem_singleton]
      rintro (hlisted | hempty)
      · exact h.nameless hlisted
      · exact hid hempty.symm

/-- Requests keep ledger and set in step. -/
theorem InStep.unlockAll (h : ledger.InStep set) (ids : List String) :
    (ledger.unlockAll ids).InStep (ids.foldl AchievementSink.unlock set) := by
  induction ids generalizing ledger set with
  | nil => exact h
  | cons id rest ih => exact ih (h.unlock id)

/-- A ledger knows the achievements of its catalog. -/
theorem contains_known_ofCatalog_iff {R : Type} {catalog : Catalog R} :
    (ofCatalog catalog).known.contains id = true ↔ ∃ a ∈ catalog.achievements, a.id = id := by
  show (StringSet.ofNames _).contains id = true ↔ _
  rw [StringSet.ofNames, StringSet.contains_foldl_add_iff, List.mem_map, or_iff_left]
  exact Bool.false_ne_true

end Ledger

/-! ### Sessions with any sink -/

namespace Session

variable {R A G : Type} [Scalar R] [AchievementSink A] [SeededSource G]

/-- The session without its sink. -/
def sinkless (session : Session R A G) : Session R Unit G := session.mapSink fun _ ↦ ()

/-- The session with a sink that takes down requests, and has none yet. -/
def requesting (session : Session R A G) : Session R Requests G :=
  session.mapSink fun _ ↦ .none

/-- Calls are answered as if only requests were taken down, and then these are made. -/
theorem play_eq_requests (session : Session R A G) (calls : List Call) :
    session.play calls = ((session.requesting.play calls).1,
      (session.requesting.play calls).2.mapSink (Requests.unlockAll session.world.sink)) :=
  session.requesting.play_mapSink (Requests.hom_unlockAll session.world.sink) calls

/-- All that calls do to a sink is to make requests of it. -/
theorem exists_requests_play (session : Session R A G) (calls : List Call) :
    ∃ requests, (session.play calls).2.world.sink =
      Requests.unlockAll session.world.sink requests :=
  ⟨_, congrArg (fun p ↦ p.2.world.sink) (session.play_eq_requests calls)⟩

/-- A run begins as if only requests were taken down. -/
theorem begin_eq_requests (setting : Setting R) (seed : UInt64) (sink : A) (talents : List String) :
    (begin setting seed sink talents : Session R A G) =
      (begin setting seed Requests.none talents).mapSink (Requests.unlockAll sink) :=
  reset_mapSink (Requests.hom_unlockAll sink)
    (ofLife setting seed Requests.none (Life.fresh Life.defaultLogCapacity)) talents

/-- **A ledger and a set take down the same achievements.** A run with the ledger of its catalog and
a run with an empty set of names answer any calls alike, and leave the same but for their sinks;
then the ledger has unlocked exactly the names of the set that are those of achievements of the
catalog. It never unlocks a name twice or the empty name, and each further call at most appends to
what is unlocked. -/
theorem sinks_agree (setting : Setting R) (seed : UInt64) (talents : List String)
    (calls : List Call) :
    let withLedger := (beginWithLedger setting seed talents : Session R Ledger G).play calls
    let withSet :=
      (begin setting seed (StringMap.empty : StringSet) talents : Session R StringSet G).play calls
    let ledger := withLedger.2.world.sink
    withLedger.1 = withSet.1 ∧ withLedger.2.sinkless = withSet.2.sinkless ∧
      (∀ id, id ∈ ledger.unlocked ↔ withSet.2.world.sink.contains id = true ∧
        ∃ a ∈ setting.catalog.achievements, a.id = id) ∧
      ledger.unlocked.Nodup ∧ "" ∉ ledger.unlocked ∧
      ∀ c : Call, ledger.unlocked <+: (withLedger.2.call c).2.world.sink.unlocked := by
  intro withLedger withSet ledger
  -- Both runs are the same run with requests, which are made of either sink.
  let requested : Session R Requests G := begin setting seed .none talents
  let requests := (requested.play calls).2.world.sink
  let fresh := Ledger.ofCatalog setting.catalog
  have hledger : withLedger = ((requested.play calls).1,
      (requested.play calls).2.mapSink (Requests.unlockAll fresh)) := by
    show (beginWithLedger _ _ _ : Session R Ledger G).play calls = _
    rw [beginWithLedger, begin_eq_requests, play_mapSink (Requests.hom_unlockAll _)]
  have hset : withSet = ((requested.play calls).1,
      (requested.play calls).2.mapSink (Requests.unlockAll (StringMap.empty : StringSet))) := by
    show (begin _ _ _ _ : Session R StringSet G).play calls = _
    rw [begin_eq_requests, play_mapSink (Requests.hom_unlockAll _)]
  have hstep : ledger.InStep withSet.2.world.sink := by
    show withLedger.2.world.sink.InStep _
    rw [hledger, hset]
    exact (Ledger.inStep_empty fresh.known).unlockAll requests.ids
  have hknown : ledger.known = fresh.known := by
    show withLedger.2.world.sink.known = _
    rw [hledger]
    exact fresh.known_unlockAll requests.ids
  refine ⟨by rw [hledger, hset], by rw [hledger, hset]; rfl, fun id ↦ ?_, hstep.nodup,
    hstep.nameless, fun c ↦ ?_⟩
  · rw [hstep.mem_iff, hknown, Ledger.contains_known_ofCatalog_iff]
  · obtain ⟨more, hmore⟩ := withLedger.2.exists_requests_play [c]
    have happended : (withLedger.2.call c).2.world.sink = Requests.unlockAll ledger more := hmore
    rw [happended]
    exact ledger.isPrefix_unlockAll more.ids

end Session

end LifeStory
