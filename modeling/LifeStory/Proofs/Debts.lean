import LifeStory.Proofs.Durations
import LifeStory.Proofs.Stories
import LifeStory.Scalar.Float
import Mathlib.Data.List.Chain

/-!
# Debt is entered and cleared alternately

Being in debt is a status effect like others: it wears out, and then the debt rule would speak again
of a debt that was never cleared. It is begun for longer than a life, though. As long as the catalog
leaves it alone, what is left of it and the turns that have passed add up to no less than that
(`Life.Stands`), so in fewer turns it does not run out. Until then the life is in debt exactly when
an entry is the last that the debt rule said.

Only the status effects with the id of the debt matter here, and acts change none of them
(`Life.Act.filter_statuses`). A turn is looked at in two steps: what the debt rule says
(`Life.Stands.settle`), and the effects that act and wear out then (`Scene.stands_tickStatuses`).
-/

namespace LifeStory

/-! ### Alternating debts -/

/-- Debt is entered first, and then cleared and entered in turn. -/
structure Alternate (debts : List DebtChange) : Prop where
  chain : debts.IsChain (· ≠ ·)
  first : ∀ change ∈ debts.head?, change = .entered

namespace Alternate

variable {debts : List DebtChange}

theorem nil : Alternate [] := ⟨.nil, fun _ h ↦ nomatch h⟩

/-- The next change is another one than the last, and an entry if there is none yet. -/
theorem concat (h : Alternate debts) {change : DebtChange}
    (hlast : ∀ last ∈ debts.getLast?, last ≠ change) (hfirst : debts = [] → change = .entered) :
    Alternate (debts ++ [change]) := by
  refine ⟨h.chain.append (.singleton change) fun last hmem next hnext ↦ ?_, fun first hmem ↦ ?_⟩
  · obtain rfl : change = next := by simpa using hnext
    exact hlast last hmem
  · cases debts with
    | nil =>
      obtain rfl : change = first := by simpa using hmem
      exact hfirst rfl
    | cons head rest => exact h.first first hmem

end Alternate

/-! ### Directives -/

/-- A directive neither begins nor ends a status effect. -/
def Directive.SparesStatus {R : Type} (id : String) (directive : Directive R) : Prop :=
  (∀ duration, directive ≠ .addStatus id duration) ∧ directive ≠ .removeStatus id

/-- Nothing that the catalog authors begins or ends a status effect. -/
structure Catalog.SparesStatus {R : Type} (catalog : Catalog R) (id : String) : Prop where
  only : catalog.Only (·.SparesStatus id)
  talents : ∀ talent ∈ catalog.talents, ∀ directive ∈ talent.effects, directive.SparesStatus id

namespace Life

variable {R : Type} [Scalar R] {catalog : Catalog R} {life next : Life R} {id : String}

/-- **What is in force under an id** that directives leave alone stays as it is in acts. -/
theorem Act.filter_statuses (h : Act catalog (·.SparesStatus id) life next) :
    next.statuses.filter (fun s ↦ s.id = id) = life.statuses.filter (fun s ↦ s.id = id) := by
  cases h with
  | obey directive hspares obeyed =>
    rw [statuses_of_obey? obeyed]
    cases hchange : directive.statusChange? catalog life with
    | none => rfl
    | some change =>
      cases change with
      | begun other left =>
        obtain ⟨-, duration, rfl, -⟩ := of_statusChange?_begun hchange
        have hne : other ≠ id := fun heq ↦ hspares.1 duration (heq ▸ rfl)
        show List.filter _ (life.statuses ++ [⟨other, left⟩]) = _
        simp [hne]
      | ended other =>
        obtain rfl := of_statusChange?_ended hchange
        have hne : other ≠ id := fun heq ↦ hspares.2 (heq ▸ rfl)
        show List.filter _ (life.statuses.filter (·.id ≠ other)) = _
        rw [List.filter_filter]
        refine List.filter_congr fun s _ ↦ ?_
        by_cases hid : s.id = id <;> simp [hid, hne.symm]
  | note | die | close => rfl

theorem Acts.filter_statuses (h : Acts catalog (·.SparesStatus id) life next) :
    next.statuses.filter (fun s ↦ s.id = id) = life.statuses.filter (fun s ↦ s.id = id) :=
  h.keeps (P := fun l ↦ l.statuses.filter (fun s ↦ s.id = id) =
    life.statuses.filter (fun s ↦ s.id = id)) (fun _ _ hact hl ↦ hact.filter_statuses.trans hl) rfl

omit [Scalar R] in
theorem hasStatus_eq_false_iff :
    life.hasStatus id = false ↔ life.statuses.filter (fun s ↦ s.id = id) = [] := by
  simp [hasStatus, List.filter_eq_nil_iff]

end Life

/-! ### How the debt stands -/

namespace Life

variable {R : Type}

/-- How the debt of a life stands when so many turns have passed, by what the debt rule said. -/
inductive Stands (turns : Nat) (debts : List DebtChange) (life : Life R) : Prop where
  | free (hlast : debts.getLast? ≠ some .entered) (hfree : life.hasStatus debtStatus = false)
  /-- The debt wears out by a turn in every turn at most. -/
  | owing (left : Int) (hlast : debts.getLast? = some .entered)
      (hforce : InForce debtStatus left life.statuses) (hleft : debtDuration ≤ left + turns)

variable {life next : Life R} {turns : Nat} {debts : List DebtChange}

/-- A life owes something exactly if the last change of its debt entered one. -/
theorem Stands.owes_iff (h : Stands turns debts life) :
    life.hasStatus debtStatus = true ↔ debts.getLast? = some .entered := by
  cases h with
  | free hlast hfree => exact iff_of_false (ne_true_of_eq_false hfree) hlast
  | owing left hlast hforce => exact iff_of_true (hasStatus_iff.2 hforce.mem_ids) hlast

/-- Only the status effects with the id of the debt matter. -/
theorem Stands.of_filter_eq (h : Stands turns debts life)
    (heq : next.statuses.filter (fun s ↦ s.id = debtStatus) =
      life.statuses.filter (fun s ↦ s.id = debtStatus)) : Stands turns debts next := by
  cases h with
  | free hlast hfree =>
    exact .free hlast (hasStatus_eq_false_iff.2 (heq.trans (hasStatus_eq_false_iff.1 hfree)))
  | owing left hlast hforce hleft => exact .owing left hlast (heq.trans hforce) hleft

variable [Scalar R]

/-- **What the debt rule says goes on with the alternation**, and is how the debt stands then. -/
theorem Stands.settle (h : Stands turns debts life) (halternate : Alternate debts) :
    Alternate (debts ++ life.settleDebt.1.toList) ∧
      Stands turns (debts ++ life.settleDebt.1.toList) life.settleDebt.2 := by
  rcases life.settleDebt_speaks with ⟨hfree, hspoke, hsettled⟩ | ⟨howes, hspoke, hsettled⟩ |
    ⟨hspoke, hsame⟩
  · have hlast : debts.getLast? ≠ some .entered := fun hentered ↦
      ne_true_of_eq_false hfree (h.owes_iff.2 hentered)
    have hnot : debtStatus ∉ life.statuses.map ActiveStatus.id := fun hmem ↦
      ne_true_of_eq_false hfree (hasStatus_iff.2 hmem)
    rw [hspoke]
    refine ⟨halternate.concat (fun last hmem heq ↦ hlast (heq ▸ hmem)) fun _ ↦ rfl,
      .owing debtDuration (by simp) ?_ (by omega)⟩
    rw [hsettled]
    exact .begin hnot debtDuration
  · have hlast : debts.getLast? = some .entered := h.owes_iff.1 howes
    rw [hspoke]
    refine ⟨halternate.concat (fun last hmem ↦ ?_) fun hnil ↦ ?_, .free (by simp) ?_⟩
    · obtain rfl : DebtChange.entered = last := Option.some.inj (hlast.symm.trans hmem)
      decide
    · rw [hnil] at hlast
      cases hlast
    · rw [hasStatus_eq_false_iff, hsettled, List.filter_filter]
      simp
  · rw [hspoke, hsame, Option.toList_none, List.append_nil]
    exact ⟨halternate, h⟩

end Life

/-! ### Turns -/

namespace Scene

variable {R A G : Type} [Scalar R] [AchievementSink A] [RandomSource G] {catalog : Catalog R}
  {scene : Scene R A G} {turns : Nat} {debts : List DebtChange}

/-- An effect that is not in force once the debt rule has spoken, and that no directive begins, is
not in force after the turn. -/
theorem hasStatus_tickStatuses_eq_false {id : String} (honly : catalog.Only (·.SparesStatus id))
    (h : scene.settled.life.hasStatus id = false) :
    (scene.tickStatuses catalog).2.life.hasStatus id = false := by
  let outcomes := scene.effectOutcomes catalog
  have hspares : ∀ directive ∈ outcomes, directive.SparesStatus id :=
    honly.outcomesOf (scene.tickStatuses catalog).1.ticked
  have hacted : (scene.settled.applyAll catalog outcomes).2.life.statuses.filter
      (fun s ↦ s.id = id) = scene.settled.life.statuses.filter (fun s ↦ s.id = id) :=
    (scene.settled.applyAll_acts hspares).filter_statuses
  have hworn : (scene.settled.wornAfter catalog (scene.effectOutcomes catalog)).filter
      (fun s ↦ s.id = id) = [] := by
    rw [wornAfter, filter_wornBy, hacted, Life.hasStatus_eq_false_iff.1 h]
    rfl
  rw [Life.hasStatus_eq_false_iff, statuses_tickStatuses, List.filter_comm, hworn]
  rfl

/-- **What acts and wears out after the debt rule has spoken** leaves the debt as it stands, as long
as fewer turns have passed than it lasts. -/
theorem stands_tickStatuses (honly : catalog.Only (·.SparesStatus debtStatus))
    (h : scene.settled.life.Stands turns debts) (hshort : (turns : Int) + 1 < debtDuration) :
    (scene.tickStatuses catalog).2.life.Stands (turns + 1) debts := by
  cases h with
  | free hlast hfree => exact .free hlast (hasStatus_tickStatuses_eq_false honly hfree)
  | owing left hlast hforce hleft =>
    have hnever := honly.mono fun _ h ↦ h.2
    refine .owing (left - 1) hlast (inForce_tickStatuses hnever hforce (by omega)) ?_
    push_cast
    omega

end Scene

/-! ### Stories -/

namespace Life

variable {R A G : Type} [Scalar R] [AchievementSink A] [RandomSource G] {setting : Setting R}
  {told : Happenings} {life next : Life R}

/-- How the debt stands after what was told, in fewer turns than a debt lasts. -/
def Owing (told : Happenings) (life : Life R) : Prop :=
  (told.turns : Int) < debtDuration → Alternate told.debts ∧ Stands told.turns told.debts life

theorem Beat.owing (honly : setting.catalog.Only (·.SparesStatus debtStatus)) {more : Happenings}
    (beat : Beat A G setting (·.SparesStatus debtStatus) more life next) (h : Owing told life) :
    Owing (told ++ more) next := by
  intro hshort
  rw [Happenings.turns_append] at hshort
  obtain ⟨halternate, hstands⟩ := h (by omega)
  cases beat with
  | act hact =>
    rw [Happenings.append_nothing]
    exact ⟨halternate, hstands.of_filter_eq hact.filter_statuses⟩
  | pass scene =>
    let older := scene.mapLife (·.grownOlder setting.config.aging)
    have holder : older.life.Stands told.turns told.debts := hstands.of_filter_eq rfl
    obtain ⟨hnext, hsettled⟩ := holder.settle halternate
    have hturns : ((told.turns + 1 : Nat) : Int) < debtDuration := hshort
    have hticked : (older.tickStatuses setting.catalog).2.life.Stands (told.turns + 1) _ :=
      Scene.stands_tickStatuses honly hsettled (by omega)
    -- Modifiers that wear out and thresholds leave alone what is in force.
    have hkept : Acts setting.catalog (·.SparesStatus debtStatus) (scene.aged setting).life
        (scene.passTurn setting).2.life :=
      Scene.enforceThresholds_acts setting.config.thresholds (scene.aged setting)
    exact ⟨hnext, hticked.of_filter_eq hkept.filter_statuses⟩
  | stage | choose =>
    show Alternate (told.debts ++ []) ∧ Stands _ (told.debts ++ []) _
    rw [List.append_nil]
    exact ⟨halternate, hstands.of_filter_eq rfl⟩

theorem Story.owing (honly : setting.catalog.Only (·.SparesStatus debtStatus)) {more : Happenings}
    (story : Story A G setting (·.SparesStatus debtStatus) more life next) (h : Owing told life) :
    Owing (told ++ more) next :=
  story.keeps (fun _ _ _ _ beat h ↦ beat.owing honly h) h

end Life

/-! ### Runs -/

namespace Session

variable {R A G : Type} [Scalar R] [AchievementSink A] [SeededSource G]

/-- **Debt is entered and cleared alternately.** If nothing that the catalog authors begins or ends
the debt status, then in a run from its beginning, over fewer turns than the debt status lasts, the
debt changes that are reported alternate, beginning with an entry; and the life is in debt exactly
when the last of them is an entry. -/
theorem debt_is_entered_and_cleared_alternately {session : Session R A G}
    (h : session.setting.catalog.SparesStatus debtStatus) (talents : List String)
    (moves : List Move) (hshort : (session.reset talents).turnsIn moves < 9999) :
    let played := (session.reset talents).goOn moves
    let debts := (played.1.flatMap Answer.turnReports).filterMap TurnReport.debt
    debts.IsChain (· ≠ ·) ∧ (∀ first ∈ debts.head?, first = .entered) ∧
      (played.2.life.hasStatus debtStatus = true ↔ debts.getLast? = some .entered) := by
  intro played debts
  have hbegun : (session.reset talents).life.hasStatus debtStatus = false :=
    Scene.begin_keeps (P := fun life ↦ life.hasStatus debtStatus = false) h.talents
      (fun _ ↦ rfl) (fun _ _ h ↦ h)
      (fun _ _ hact hfree ↦ Life.hasStatus_eq_false_iff.2
        (hact.filter_statuses.trans (Life.hasStatus_eq_false_iff.1 hfree)))
      talents session.world.scene
  have howing : Life.Owing .nothing (session.reset talents).life := fun _ ↦
    ⟨.nil, .free (by simp [Happenings.nothing]) hbegun⟩
  have hfit : (session.reset talents).Fit := fit_idle _ _
  have honly : (session.reset talents).setting.catalog.Only (·.SparesStatus debtStatus) := h.only
  have hstory := goOn_story honly hfit moves
  have hend := hstory.owing h.only howing
  rw [Happenings.nothing_append] at hend
  have hturns : ((session.reset talents).turnsIn moves : Int) < debtDuration := by
    rw [debtDuration]
    omega
  obtain ⟨halternate, hstands⟩ := hend hturns
  exact ⟨halternate.chain, halternate.first, hstands.owes_iff⟩

/-- An event in which money comes to an amount. -/
def windfall (id : String) (debt : Presence) (amount : Float) : Event Float :=
  ⟨id, "", "", [.status debt], [{ Choice.plain none "Play" with
    outcomes := [.setStat "money" amount] }], [], none, false, false⟩

/-- A catalog of one game, which is lost by who has no debt, and won by who has. -/
def gamblingCatalog : Catalog Float :=
  { Catalog.ofBase .empty with
    events := [windfall "loss" ⟨none, some debtStatus⟩ (-100.0),
      windfall "win" ⟨some debtStatus, none⟩ 500.0] }

/-- Who plays four times was in debt, was out of it, and is in debt again. -/
theorem gambler_is_in_debt_again :
    let session : Session Float Ledger Xoshiro :=
      idle ⟨gamblingCatalog, .default⟩ ⟨Life.fresh 50, ⟨.empty, []⟩, .ofSeed 7⟩
    let moves := [Move.runUntilOver 4]
    gamblingCatalog.SparesStatus debtStatus ∧ (session.reset []).turnsIn moves < 9999 ∧
      ((session.reset []).goOn moves).2.life.hasStatus debtStatus = true := by
  intro session moves
  have hspares : gamblingCatalog.SparesStatus debtStatus := by
    refine ⟨⟨?_, fun id effect heffect ↦ ?_⟩, fun _ h ↦ ?_⟩
    · simp [gamblingCatalog, windfall, Choice.plain, Choice.allOutcomes, Directive.SparesStatus]
    · cases heffect
    · cases h
  obtain ⟨hturns, hdebts⟩ : (session.reset []).turnsIn moves < 9999 ∧
      (((session.reset []).goOn moves).1.flatMap Answer.turnReports).filterMap TurnReport.debt =
        [.entered, .cleared, .entered] := by
    decide +kernel
  have hspared : session.setting.catalog.SparesStatus debtStatus := hspares
  have hstands := debt_is_entered_and_cleared_alternately hspared [] moves hturns
  refine ⟨hspares, hturns, hstands.2.2.2 ?_⟩
  rw [hdebts]
  rfl

end Session

end LifeStory
