import LifeStory.Beginning
import LifeStory.Proofs.Calls
import LifeStory.Proofs.Turns
import Mathlib.Logic.Relation

/-!
# Acts

Most of what a turn does to a life is done without time passing, and without an event or a choice
being taken down: a directive changes the life, a line is written, the life dies, or an ending
closes it. These are the acts (`Life.Act`). The directives of a list act one after the other, a
choice that is told and taken down comes to nothing but acts (`World.make_acts`), and so does the
search for an offer (`World.gatherOffer_acts`).

Acts are taken under a condition on directives that whatever the catalog authors has to meet
(`Catalog.Only`), so that the directives which a catalog does not contain are known not to occur.

A turn that passes is more than acts: the life grows older, the debt rule speaks, and status effects
and modifiers wear out. What all of this keeps, a turn keeps (`Scene.passTurn_keeps`).
-/

namespace LifeStory

open Relation

/-! ### Authored directives -/

/-- All directives of choices and status effects meet a condition. -/
structure Catalog.Only {R : Type} (catalog : Catalog R) (allowed : Directive R → Prop) : Prop where
  choices : ∀ event ∈ catalog.events, ∀ choice ∈ event.choices, ∀ directive ∈ choice.allOutcomes,
    allowed directive
  effects : ∀ id effect, catalog.statusEffect? id = some effect → ∀ directive ∈ effect.outcomes,
    allowed directive

/-- Every catalog meets the condition that nothing is asked of directives. -/
theorem Catalog.only_true {R : Type} (catalog : Catalog R) : catalog.Only fun _ ↦ True :=
  ⟨fun _ _ _ _ _ _ ↦ trivial, fun _ _ _ _ _ ↦ trivial⟩

/-- A wider condition is met by whatever meets the narrower one. -/
theorem Catalog.Only.mono {R : Type} {catalog : Catalog R} {allowed wider : Directive R → Prop}
    (h : catalog.Only allowed) (himp : ∀ directive, allowed directive → wider directive) :
    catalog.Only wider where
  choices event hevent choice hchoice directive hmem :=
    himp directive (h.choices event hevent choice hchoice directive hmem)
  effects id effect heffect directive hmem :=
    himp directive (h.effects id effect heffect directive hmem)

namespace Life

variable {R : Type} [Scalar R]

/-! ### Single acts -/

/-- A single act on a life, under a catalog and a condition on directives. -/
inductive Act (catalog : Catalog R) (allowed : Directive R → Prop) : Life R → Life R → Prop where
  | obey {life next : Life R} (directive : Directive R) (h : allowed directive)
      (obeyed : life.obey? catalog directive = some next) : Act catalog allowed life next
  /-- Writes a line that tells of no ending. -/
  | note (life : Life R) (kind : LogKind) (title : Option String) (text : String)
      (h : kind ≠ .ending) : Act catalog allowed life (life.note kind title text)
  | die (life : Life R) (cause : DeathCause) (h : life.isActive) :
      Act catalog allowed life
        ({ life with alive := false, endReason := some cause.name }.note .ending none
          (overMark ++ " " ++ cause.message))
  | close (life : Life R) (ending : String) (title : Option String) (text : String)
      (h : life.phase ≠ .ended) :
      Act catalog allowed life ((Scene.closed ending life).note .ending title text)

/-- A sequence of single acts. -/
abbrev Acts (catalog : Catalog R) (allowed : Directive R → Prop) : Life R → Life R → Prop :=
  ReflTransGen (Act catalog allowed)

/-- What every act keeps is kept by acts. -/
theorem Acts.keeps {catalog : Catalog R} {allowed : Directive R → Prop} {P : Life R → Prop}
    (act : ∀ life next, Act catalog allowed life next → P life → P next)
    {life next : Life R} (h : Acts catalog allowed life next) (hlife : P life) : P next := by
  induction h with
  | refl => exact hlife
  | tail _ last ih => exact act _ _ last ih

end Life

open Life (Act Acts)

/-! ### Scenes -/

namespace Scene

variable {R A G : Type} [Scalar R] [AchievementSink A] [RandomSource G] {catalog : Catalog R}
  {allowed : Directive R → Prop}

theorem triggerEnding_acts (id : String) (scene : Scene R A G) :
    Acts catalog allowed scene.life (scene.triggerEnding catalog id).2.life := by
  rcases scene.triggerEnding_cases catalog id with hsame | ⟨hphase, title, text, _, htrigger⟩
  · rw [hsame]
  · rw [htrigger]
    exact .single (.close scene.life id title text hphase)

/-- A directive that is allowed is done by acts. -/
theorem applyDirective_acts {directive : Directive R} (h : allowed directive)
    (scene : Scene R A G) :
    Acts catalog allowed scene.life (scene.applyDirective catalog directive).2.life := by
  rcases scene.applyDirective_cases catalog directive with
    ⟨ending, rfl, happly⟩ | ⟨id, rfl, happly⟩ | happly
  · rw [happly]
    exact scene.triggerEnding_acts ending
  · rw [happly]
  · rw [happly]
    cases hobey : scene.life.obey? catalog directive with
    | none => exact .refl
    | some next => exact .single (.obey directive h hobey)

/-- Directives that are allowed are done by acts, one after the other. -/
theorem applyAll_acts {outcomes : List (Directive R)} (h : ∀ d ∈ outcomes, allowed d)
    (scene : Scene R A G) :
    Acts catalog allowed scene.life (scene.applyAll catalog outcomes).2.life :=
  applyAll_induction (P := fun s ↦ Acts catalog allowed scene.life s.life)
    (fun d hd s hs ↦ hs.trans (s.applyDirective_acts (h d hd))) .refl

theorem actStatuses_acts (h : catalog.Only allowed) (active removed : List String)
    (scene : Scene R A G) :
    Acts catalog allowed scene.life (scene.actStatuses catalog active removed).2.2.life :=
  actStatuses_induction (P := fun s ↦ Acts catalog allowed scene.life s.life)
    (fun id effect heffect d hd s hs ↦
      hs.trans (s.applyDirective_acts (h.effects id effect heffect d hd))) .refl active removed

omit [RandomSource G] in
/-- A death is an act, and to enforce thresholds does nothing else. -/
theorem enforceThresholds_acts (thresholds : Thresholds R) (scene : Scene R A G) :
    Acts catalog allowed scene.life (scene.enforceThresholds catalog thresholds).2.life := by
  rcases scene.enforceThresholds_cases catalog thresholds with
    ⟨cause, hactive, -, henforce⟩ | ⟨-, henforce⟩
  · rw [henforce]
    exact .single (.die scene.life cause hactive)
  · rw [henforce]

/-! ### Time -/

section Time

variable {P : Life R → Prop} {setting : Setting R}

/-- What is kept by the debt rule, by acts, and by effects that wear out, is kept while status
effects act. -/
theorem tickStatuses_keeps (honly : catalog.Only allowed)
    (settle : ∀ life, P life → P life.settleDebt.2)
    (act : ∀ life next, Act catalog allowed life next → P life → P next)
    (wear : ∀ life active removed, P life → P (life.wearStatuses active removed).2)
    {scene : Scene R A G} (h : P scene.life) : P (scene.tickStatuses catalog).2.life := by
  let settled : Scene R A G := { scene with life := scene.life.settleDebt.2 }
  let active := settled.life.statuses.map ActiveStatus.id
  have hacted : P (settled.actStatuses catalog active []).2.2.life :=
    (settled.actStatuses_acts honly active []).keeps act (settle _ h)
  exact wear _ active _ hacted

/-- What an older life has, and the debt rule, acts, and effects and modifiers that wear out keep,
a life has when the thresholds are enforced. -/
theorem aged_keeps (honly : setting.catalog.Only allowed)
    (settle : ∀ life, P life → P life.settleDebt.2)
    (act : ∀ life next, Act setting.catalog allowed life next → P life → P next)
    (wearStatuses : ∀ life active removed, P life → P (life.wearStatuses active removed).2)
    (wearModifiers : ∀ life, P life → P life.wearModifiers.2)
    {scene : Scene R A G} (h : P (scene.life.grownOlder setting.config.aging)) :
    P (scene.aged setting).life := by
  let older := scene.mapLife (·.grownOlder setting.config.aging)
  have hticked : P (older.tickStatuses setting.catalog).2.life :=
    tickStatuses_keeps honly settle act wearStatuses h
  exact wearModifiers _ hticked

/-- What an older life has, and the debt rule, acts, and effects and modifiers that wear out keep,
a life has when a turn has passed. -/
theorem passTurn_keeps (honly : setting.catalog.Only allowed)
    (settle : ∀ life, P life → P life.settleDebt.2)
    (act : ∀ life next, Act setting.catalog allowed life next → P life → P next)
    (wearStatuses : ∀ life active removed, P life → P (life.wearStatuses active removed).2)
    (wearModifiers : ∀ life, P life → P life.wearModifiers.2)
    {scene : Scene R A G} (h : P (scene.life.grownOlder setting.config.aging)) :
    P (scene.passTurn setting).2.life := by
  rw [passTurn_eq]
  exact (enforceThresholds_acts setting.config.thresholds (scene.aged setting)).keeps act
    (aged_keeps honly settle act wearStatuses wearModifiers h)

end Time

end Scene

/-! ### Worlds -/

namespace World

variable {R A G : Type} [Scalar R] [AchievementSink A] [RandomSource G] {setting : Setting R}
  {allowed : Directive R → Prop}

omit [AchievementSink A] in
theorem tellFeedback_acts (feedback : Option String) (world : World R A G) :
    Acts setting.catalog allowed world.life (world.tellFeedback feedback).life := by
  cases feedback with
  | none => exact .refl
  | some template => exact .single (.note world.life .feedback none _ (by decide))

theorem applyResult_acts {outcomes : List (Directive R)} (h : ∀ d ∈ outcomes, allowed d)
    (world : World R A G) :
    Acts setting.catalog allowed world.life (world.applyResult setting outcomes).2.life :=
  (world.scene.applyAll_acts h).trans
    (Scene.enforceThresholds_acts setting.config.thresholds _)

/-- Once a choice is taken down, making it comes to acts. -/
theorem make_acts {choice : Choice R} (h : ∀ d ∈ choice.allOutcomes, allowed d)
    (report : TurnReport R) (world : World R A G) :
    Acts setting.catalog allowed
      { world.life with chosen := choice.id.elim world.life.chosen world.life.chosen.add }
      (world.make setting choice report).2.life := by
  have hdrawn : ∀ d ∈ (world.making choice).1.outcomes, allowed d := fun d hd ↦
    h d (choice.outcomes_resolve _ hd)
  have htold : Acts setting.catalog allowed
      { world.life with chosen := choice.id.elim world.life.chosen world.life.chosen.add }
      (world.making choice).2.life := .single (.note _ .choice none _ (by decide))
  have hfeedback : Acts setting.catalog allowed (world.making choice).2.life
      ((world.making choice).2.tellFeedback (world.making choice).1.feedback).life :=
    tellFeedback_acts _ _
  exact (htold.trans hfeedback).trans (applyResult_acts hdrawn _)

omit [AchievementSink A] in
theorem gatherOffer_acts (world : World R A G) :
    Acts setting.catalog allowed world.life (world.gatherOffer setting).2.life := by
  cases hevents : (setting.catalog.eligible setting.config.showTestEvents world.life).isEmpty with
  | true =>
    rw [gatherOffer_of_no_event hevents]
    exact .single (.note world.life .system none _ (by decide))
  | false =>
    cases hoffered : (world.drawCandidates setting).1.isEmpty with
    | true =>
      rw [gatherOffer_of_no_choice hevents hoffered]
      exact .single (.note world.life .system none _ (by decide))
    | false =>
      rw [gatherOffer_of_choices hevents hoffered]
      exact .refl

end World

/-! ### Lives that begin -/

/-- What a life begins with before it receives talents. -/
def Life.atBirth {R : Type} [Scalar R] (catalog : Catalog R) (logCapacity : Nat)
    (talents : List (Talent R)) : Life R :=
  (({ Life.fresh logCapacity with customStats := catalog.initialStats }.note .system none
    resetLine).note .system none (talentLine (talents.map Talent.name)))

/-- What a life has at birth, and keeps whenever it receives a talent and in every act that its
talents may make, it has when it begins. -/
theorem Scene.begin_keeps {R A G : Type} [Scalar R] [AchievementSink A] [RandomSource G]
    {catalog : Catalog R} {allowed : Directive R → Prop} {logCapacity : Nat} {P : Life R → Prop}
    (authored : ∀ talent ∈ catalog.talents, ∀ directive ∈ talent.effects, allowed directive)
    (birth : ∀ talents, P (.atBirth catalog logCapacity talents))
    (receive : ∀ life talents, P life → P { life with talents := talents })
    (act : ∀ life next, Act catalog allowed life next → P life → P next)
    (talents : List String) (scene : Scene R A G) :
    P (scene.begin catalog logCapacity talents).life := by
  have hfold : ∀ (chosen : List (Talent R)) (s : Scene R A G), chosen ⊆ catalog.talents →
      P s.life → P (chosen.foldl (receiveTalent catalog) s).life := by
    intro chosen
    induction chosen with
    | nil => exact fun _ _ h ↦ h
    | cons talent rest ih =>
      intro s hchosen h
      obtain ⟨htalent, hrest⟩ := List.cons_subset.1 hchosen
      refine ih _ hrest (Acts.keeps act (applyAll_acts (authored talent htalent) _) ?_)
      exact receive s.life _ h
  have hknown : talents.filterMap catalog.talent? ⊆ catalog.talents := by
    intro talent htalent
    obtain ⟨id, -, hfind⟩ := List.mem_filterMap.1 htalent
    exact List.mem_of_find?_eq_some hfind
  exact hfold _ _ hknown (birth (talents.filterMap catalog.talent?))

end LifeStory
