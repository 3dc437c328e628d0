import LifeStory.Proofs.Offers
import LifeStory.Proofs.Phases
import LifeStory.Scalar.Float

/-!
# Rewards at the end

Achievements are unlocked at the very moment at which a life passes away or an ending closes it, if
the life meets their conditions then. A death comes last in what changes a life. An ending need not:
the directives after it in the same list still act, and so do the status effects and talents after
the one that asked for it. What the life comes to meet through them is not rewarded
(`Session.door_leaves_keeper_unrewarded`).

Where endings come last in the content (`Catalog.EndsLast`) the rewards are those that the life
deserves as it is left. Two facts carry this. Whatever still acts after an ending then changes
nothing that a condition asks about (`Life.inSight`); and whatever acts before it acts on a life
that goes on, so that the ledger has only to know the achievements meanwhile (`Ledger.Waits`).
-/

namespace LifeStory

/-! ### What conditions see -/

/-- A life without all that no condition asks about. -/
def Life.inSight {R : Type} (life : Life R) : Life R :=
  { life with
    alive := true, ended := false, multipliers := .empty, unlocked := .empty, tagOdds := .empty,
    eventModifiers := [], log := .empty 0 }

section Sight

variable {R : Type} [Scalar R] {life later : Life R}

/-- Conditions see no more of a life than what is in sight. -/
theorem Condition.holds_inSight (life : Life R) (c : Condition R) :
    c.holds life.inSight = c.holds life := by
  cases c <;> rfl

/-- Lives that look alike meet the same achievements. -/
theorem Achievement.isMetBy_of_inSight (h : later.inSight = life.inSight) (a : Achievement R) :
    a.isMetBy later = a.isMetBy life := by
  have hconditions : Condition.holds later = Condition.holds life := by
    funext c
    rw [← Condition.holds_inSight later, h, Condition.holds_inSight life]
  rw [isMetBy, isMetBy, allHold, allHold, hconditions]

end Sight

namespace Directive

variable {R : Type}

/-- Whether a directive closes the run. -/
def closes : Directive R → Bool
  | triggerEnding _ => true
  | _ => false

/-- Whether no condition sees what a directive does to a life that is closed. -/
def unseen : Directive R → Bool
  | addMultiplier .. | unlockEvent _ | modifyTagProbability .. | modifyEventWeight ..
  | triggerEnding _ | unlockAchievement _ | unknown _ => true
  | _ => false

/-- Whether no condition sees what comes after the first ending of a list. -/
def endsLast : List (Directive R) → Bool
  | [] => true
  | directive :: rest => if directive.closes then rest.all unseen else endsLast rest

/-- A directive that is unseen leaves all that is in sight as it was. -/
theorem inSight_of_obey? [Scalar R] {catalog : Catalog R} {directive : Directive R}
    {life next : Life R} (h : directive.unseen = true)
    (obeyed : life.obey? catalog directive = some next) : next.inSight = life.inSight := by
  cases Life.obeys_of_obey? obeyed with
  | addMultiplier | unlockEvent | modifyTagProbability | modifyEventWeight => rfl
  | _ => cases h

end Directive

/-- No condition sees what comes after an ending in a list that the choice may come to. -/
structure Choice.EndsLast {R : Type} (choice : Choice R) : Prop where
  outcomes : choice.results.isEmpty = true → Directive.endsLast choice.outcomes = true
  buckets : ∀ bucket ∈ choice.results, Directive.endsLast bucket.outcomes = true

/-- Content whose endings come last: those of choices as far as conditions see, and there are none
in status effects and talents. -/
structure Catalog.EndsLast {R : Type} (catalog : Catalog R) : Prop where
  choices : ∀ event ∈ catalog.events, ∀ choice ∈ event.choices, choice.EndsLast
  effects : ∀ id effect, catalog.statusEffect? id = some effect →
    ∀ directive ∈ effect.outcomes, directive.closes = false
  talents : ∀ talent ∈ catalog.talents, ∀ directive ∈ talent.effects, directive.closes = false

/-! ### Ledgers -/

namespace Ledger

variable {R : Type} {ledger : Ledger} {id : String}

/-- To unlock an achievement does not teach the ledger any other. -/
theorem known_unlock (ledger : Ledger) (id : String) : (ledger.unlock id).known = ledger.known := by
  rw [unlock]
  split <;> rfl

/-- Nothing is locked again. -/
theorem subset_unlock (ledger : Ledger) (id : String) :
    ledger.unlocked ⊆ (ledger.unlock id).unlocked := by
  rw [unlock]
  split
  · exact List.Subset.refl _
  · exact List.subset_append_left ..

/-- An achievement that the ledger knows is unlocked when it is asked for, if it has a name. -/
theorem mem_unlock (hid : id ≠ "") (hknown : ledger.known.contains id = true) :
    id ∈ (ledger.unlock id).unlocked := by
  rw [unlock]
  split
  · next hrefused =>
    rcases hrefused with hempty | hunlocked | hunknown
    · exact absurd hempty hid
    · exact hunlocked
    · exact absurd hknown hunknown
  · exact List.mem_append_right _ List.mem_cons_self

theorem known_unlockAll (ledger : Ledger) (ids : List String) :
    (ledger.unlockAll ids).known = ledger.known := by
  induction ids generalizing ledger with
  | nil => rfl
  | cons id rest ih => exact (ih _).trans (ledger.known_unlock id)

/-- What is unlocked stays unlocked. -/
theorem subset_unlockAll (ledger : Ledger) (ids : List String) :
    ledger.unlocked ⊆ (ledger.unlockAll ids).unlocked := by
  induction ids generalizing ledger with
  | nil => exact List.Subset.refl _
  | cons id rest ih => exact List.Subset.trans (ledger.subset_unlock id) (ih _)

/-- Of many achievements each is unlocked that the ledger knows. -/
theorem mem_unlockAll {ids : List String} (hmem : id ∈ ids) (hid : id ≠ "")
    (hknown : ledger.known.contains id = true) : id ∈ (ledger.unlockAll ids).unlocked := by
  induction ids generalizing ledger with
  | nil => cases hmem
  | cons first rest ih =>
    rcases List.mem_cons.1 hmem with rfl | hrest
    · exact subset_unlockAll _ rest (mem_unlock hid hknown)
    · refine ih hrest ?_
      rwa [known_unlock]

variable [Scalar R] {catalog : Catalog R} {life later : Life R}

/-- The ledger knows the achievements of the catalog. -/
def Knows (catalog : Catalog R) (ledger : Ledger) : Prop :=
  ∀ a ∈ catalog.achievements, ledger.known.contains a.id = true

omit [Scalar R] in
theorem Knows.of_known {other : Ledger} (h : ledger.Knows catalog)
    (hknown : other.known = ledger.known) : other.Knows catalog := by
  intro a ha
  rw [hknown]
  exact h a ha

omit [Scalar R] in
/-- A ledger that is made for a catalog knows its achievements. -/
theorem knows_ofCatalog (catalog : Catalog R) : (ofCatalog catalog).Knows catalog :=
  fun _ ha ↦ StringSet.contains_foldl_add_iff.2 (.inl (List.mem_map_of_mem ha))

/-- The achievements that a life meets are unlocked, apart from one without a name. -/
def Rewards (catalog : Catalog R) (life : Life R) (ledger : Ledger) : Prop :=
  ∀ a ∈ catalog.achievements, a.id ≠ "" → a.isMetBy life = true → a.id ∈ ledger.unlocked

/-- A ledger that is ready for the end of a life which goes on. -/
structure Waits (catalog : Catalog R) (life : Life R) (ledger : Ledger) : Prop where
  alive : life.alive = true
  knows : ledger.Knows catalog

/-- A ledger that has rewarded a life as it is, if it is over. -/
structure Fair (catalog : Catalog R) (life : Life R) (ledger : Ledger) : Prop where
  knows : ledger.Knows catalog
  rewards : life.isActive = false → ledger.Rewards catalog life

/-- A life that goes on is not rewarded yet. -/
theorem Waits.fair (h : ledger.Waits catalog life) : ledger.Fair catalog life where
  knows := h.knows
  rewards hover := by
    rw [Life.isActive_iff.2 h.alive] at hover
    cases hover

/-- A ledger that has been fair is ready for the end of a life that goes on. -/
theorem Fair.waits (h : ledger.Fair catalog life) (hactive : life.isActive = true) :
    ledger.Waits catalog life :=
  ⟨Life.isActive_iff.1 hactive, h.knows⟩

/-- To unlock one achievement more takes away no reward. -/
theorem Fair.unlock (h : ledger.Fair catalog life) (id : String) :
    (ledger.unlock id).Fair catalog life where
  knows := h.knows.of_known (ledger.known_unlock id)
  rewards hover a ha hid hmet := ledger.subset_unlock id (h.rewards hover a ha hid hmet)

/-- What no condition sees deserves no other rewards. -/
theorem Fair.of_inSight (h : ledger.Fair catalog life) (hphase : later.phase = life.phase)
    (hsight : later.inSight = life.inSight) : ledger.Fair catalog later where
  knows := h.knows
  rewards hover a ha hid hmet := by
    rw [Life.isActive, hphase] at hover
    rw [Achievement.isMetBy_of_inSight hsight] at hmet
    exact h.rewards hover a ha hid hmet

theorem Fair.note (h : ledger.Fair catalog life) (kind : LogKind) (title : Option String)
    (text : String) : ledger.Fair catalog (life.note kind title text) :=
  h.of_inSight rfl rfl

/-- **A report of achievements rewards the life as it is.** -/
theorem fair_reportAchievements (h : ledger.Knows catalog) (life : Life R) :
    (catalog.reportAchievements life ledger).Fair catalog life := by
  have hreport : catalog.reportAchievements life ledger =
      ledger.unlockAll ((catalog.metAchievements life).map Achievement.id) := by
    rw [unlockAll, List.foldl_map]
    rfl
  rw [hreport]
  refine ⟨h.of_known (ledger.known_unlockAll _), fun _ a ha hid hmet ↦ ?_⟩
  have hmem : a ∈ catalog.metAchievements life := List.mem_filter.2 ⟨ha, hmet⟩
  exact mem_unlockAll (List.mem_map_of_mem hmem) hid (h a ha)

end Ledger

/-! ### Scenes -/

namespace Scene

variable {R G : Type} [Scalar R] [RandomSource G] {catalog : Catalog R} {scene : Scene R Ledger G}

/-- The ledger of a scene is ready for the end of its life. -/
abbrev Waits (catalog : Catalog R) (scene : Scene R Ledger G) : Prop :=
  scene.sink.Waits catalog scene.life

/-- The ledger of a scene has rewarded its life if it is over. -/
abbrev Fair (catalog : Catalog R) (scene : Scene R Ledger G) : Prop :=
  scene.sink.Fair catalog scene.life

/-- **An ending rewards the life that it closes**, and one that is refused leaves the rewards as
they are. -/
theorem Fair.triggerEnding (h : scene.Fair catalog) (ending : String) :
    (scene.triggerEnding catalog ending).2.Fair catalog := by
  rcases scene.triggerEnding_cases catalog ending with hsame | ⟨-, _, _, _, htrigger⟩
  · rwa [hsame]
  · rw [htrigger]
    exact Ledger.fair_reportAchievements h.knows _

omit [RandomSource G] in
/-- A death rewards the life that it ends. -/
theorem Fair.enforceThresholds (h : scene.Fair catalog) (thresholds : Thresholds R) :
    (scene.enforceThresholds catalog thresholds).2.Fair catalog := by
  rcases scene.enforceThresholds_cases catalog thresholds with
    ⟨cause, -, -, henforce⟩ | ⟨-, henforce⟩ <;> rw [henforce]
  · exact Ledger.fair_reportAchievements h.knows _
  · exact h

/-- A life goes on after a directive that does not close it. -/
theorem Waits.applyDirective {directive : Directive R} (h : scene.Waits catalog)
    (hcloses : directive.closes = false) :
    (scene.applyDirective catalog directive).2.Waits catalog := by
  rcases scene.applyDirective_cases catalog directive with
    ⟨ending, rfl, -⟩ | ⟨id, -, happly⟩ | happly
  · cases hcloses
  · rw [happly]
    exact ⟨h.alive, h.knows.of_known (scene.sink.known_unlock id)⟩
  · rw [happly]
    cases hobey : scene.life.obey? catalog directive with
    | none => exact h
    | some next => exact ⟨(Life.kept_of_obey? hobey).alive.trans h.alive, h.knows⟩

/-- After a directive that no condition sees the same rewards are deserved. -/
theorem Fair.applyDirective {directive : Directive R} (h : scene.Fair catalog)
    (hunseen : directive.unseen = true) :
    (scene.applyDirective catalog directive).2.Fair catalog := by
  rcases scene.applyDirective_cases catalog directive with
    ⟨ending, -, happly⟩ | ⟨id, -, happly⟩ | happly <;> rw [happly]
  · exact h.triggerEnding ending
  · exact h.unlock id
  · cases hobey : scene.life.obey? catalog directive with
    | none => exact h
    -- The life may be closed already: what is done to it then is out of sight.
    | some next =>
      have hkept := Life.kept_of_obey? hobey
      have hphase : next.phase = scene.life.phase := Life.phase_of_same hkept.alive hkept.ended
      exact h.of_inSight hphase (Directive.inSight_of_obey? hunseen hobey)

/-- **A list whose ending comes last is rewarded as it leaves the life.** -/
theorem Waits.applyFrom {outcomes : List (Directive R)} (h : scene.Waits catalog)
    (hends : Directive.endsLast outcomes = true) (tally : Tally) :
    (scene.applyFrom catalog outcomes tally).2.Fair catalog := by
  induction outcomes generalizing scene tally with
  | nil => exact h.fair
  | cons directive rest ih =>
    rw [Directive.endsLast] at hends
    split at hends
    -- From the ending on nothing is seen any more.
    · next hcloses =>
      have hrest : ∀ d ∈ rest, d.unseen = true := List.all_eq_true.1 hends
      have hunseen : directive.unseen = true := by
        cases directive <;> first | rfl | cases hcloses
      have hclosed : (scene.applyDirective catalog directive).2.Fair catalog :=
        Fair.applyDirective h.fair hunseen
      exact applyFrom_induction (P := Fair catalog) (fun d hd _ hs ↦ hs.applyDirective (hrest d hd))
        hclosed _
    · next hopen =>
      exact ih (Waits.applyDirective h (Bool.eq_false_iff.2 hopen)) hends _

/-- Directives of which none closes a life leave it going on. -/
theorem Waits.applyAll {outcomes : List (Directive R)} (h : scene.Waits catalog)
    (hends : ∀ d ∈ outcomes, d.closes = false) :
    (scene.applyAll catalog outcomes).2.Waits catalog :=
  applyAll_induction (P := Waits catalog) (fun d hd _ hs ↦ hs.applyDirective (hends d hd)) h

/-- Until the thresholds are enforced nothing closes a life, if the status effects leave it open. -/
theorem Waits.aged {setting : Setting R} (h : scene.Waits setting.catalog)
    (hends : setting.catalog.EndsLast) : (scene.aged setting).Waits setting.catalog :=
  aged_induction (P := Waits setting.catalog)
    (fun _ _ halive _ hs ↦ ⟨halive.trans hs.alive, hs.knows⟩)
    (fun id effect heffect d hd _ hs ↦ hs.applyDirective (hends.effects id effect heffect d hd)) h

/-- A run with talents that do not close it begins. -/
theorem waits_begin (scene : Scene R Ledger G) (h : scene.sink.Knows catalog)
    (hends : catalog.EndsLast) (logCapacity : Nat) (talents : List String) :
    (scene.begin catalog logCapacity talents).Waits catalog := by
  have hfold : ∀ (chosen : List (Talent R)) (s : Scene R Ledger G),
      (∀ t ∈ chosen, t ∈ catalog.talents) → s.Waits catalog →
        (chosen.foldl (receiveTalent catalog) s).Waits catalog := by
    intro chosen
    induction chosen with
    | nil => exact fun _ _ hs ↦ hs
    | cons talent rest ih =>
      intro s hchosen hs
      obtain ⟨htalent, hrest⟩ := List.forall_mem_cons.1 hchosen
      exact ih _ hrest (Waits.applyAll ⟨hs.alive, hs.knows⟩ (hends.talents talent htalent))
  -- The talents that are found are the catalog's.
  refine hfold _ _ (fun talent htalent ↦ ?_) ⟨rfl, h⟩
  obtain ⟨id, -, hid⟩ := List.mem_filterMap.1 htalent
  exact List.mem_of_find?_eq_some hid

end Scene

/-! ### Turns -/

namespace World

variable {R G : Type} [Scalar R] [RandomSource G] {setting : Setting R} {world : World R Ledger G}

/-- The ledger of a world is ready for the end of its life. -/
abbrev Waits (catalog : Catalog R) (world : World R Ledger G) : Prop := world.scene.Waits catalog

/-- The ledger of a world has rewarded its life if it is over. -/
abbrev Fair (catalog : Catalog R) (world : World R Ledger G) : Prop := world.scene.Fair catalog

omit [RandomSource G] in
theorem Fair.note (h : world.Fair setting.catalog) (kind : LogKind) (title : Option String)
    (text : String) : (world.note kind title text).Fair setting.catalog :=
  Ledger.Fair.note h kind title text

/-- A turn that passes is rewarded if it ends the run. -/
theorem Fair.advance (h : world.Fair setting.catalog) (hends : setting.catalog.EndsLast) :
    (world.advance setting).2.Fair setting.catalog := by
  cases hactive : world.life.isActive with
  | false => rwa [advance_of_over hactive]
  | true =>
    have hwaits : world.scene.Waits setting.catalog := h.waits hactive
    have haged : (world.scene.aged setting).Waits setting.catalog := hwaits.aged hends
    rw [advance_of_active hactive, onScene, Scene.passTurn_eq]
    exact Scene.Fair.enforceThresholds haged.fair setting.config.thresholds

theorem Waits.tellFeedback (h : world.Waits setting.catalog) (feedback : Option String) :
    (world.tellFeedback feedback).Waits setting.catalog := by
  cases feedback <;> exact ⟨h.alive, h.knows⟩

/-- A choice that is made is rewarded for what it leaves, if it ends the run. -/
theorem Waits.make {choice : Choice R} (h : world.Waits setting.catalog) (hends : choice.EndsLast)
    (report : TurnReport R) :
    (world.make setting choice report).2.Fair setting.catalog := by
  have hmaking : (world.making choice).2.Waits setting.catalog := ⟨h.alive, h.knows⟩
  have htold := hmaking.tellFeedback (world.making choice).1.feedback
  have hmay : choice.MayComeTo (world.making choice).1.outcomes := choice.mayComeTo_resolve _
  have hlast : Directive.endsLast (world.making choice).1.outcomes = true := by
    rcases hmay with ⟨hplain, houtcomes⟩ | ⟨bucket, hbucket, houtcomes⟩ <;> rw [houtcomes]
    · exact hends.outcomes (List.isEmpty_iff.2 hplain)
    · exact hends.buckets bucket hbucket
  have happlied := htold.applyFrom hlast .zero
  rw [make_eq]
  exact Scene.Fair.enforceThresholds happlied setting.config.thresholds

/-- An event that is lived through is rewarded for what it leaves. -/
theorem Waits.liveThrough {event : Event R} (h : world.Waits setting.catalog)
    (hends : ∀ choice ∈ event.choices, choice.EndsLast) (report : TurnReport R) :
    (world.liveThrough setting event report).2.Fair setting.catalog := by
  have hchoosing : (world.choosing setting event).2.2.Waits setting.catalog := ⟨h.alive, h.knows⟩
  cases hchoice : (world.choosing setting event).1 with
  | some choice =>
    have hmem : choice ∈ event.choices := (List.mem_filter.1 (mem_of_choosing hchoice)).1
    rw [liveThrough_of_some hchoice]
    exact hchoosing.make (hends choice hmem) _
  | none =>
    rw [liveThrough_of_none hchoice]
    exact Fair.note hchoosing.fair _ _ _

theorem Waits.happen (h : world.Waits setting.catalog) (hends : setting.catalog.EndsLast)
    (report : TurnReport R) : (world.happen setting report).2.Fair setting.catalog := by
  have hdrawn : (world.drawEvent setting).2.2.Waits setting.catalog := ⟨h.alive, h.knows⟩
  cases hevent : (world.drawEvent setting).1 with
  | some event =>
    have hmem : event ∈ setting.catalog.events := (List.mem_filter.1 (mem_of_drawEvent hevent)).1
    rw [happen_of_some hevent]
    exact hdrawn.liveThrough (hends.choices event hmem) _
  | none =>
    rw [happen_of_none hevent]
    exact Fair.note hdrawn.fair _ _ _

/-- **A turn is rewarded for what it leaves.** -/
theorem Fair.runTurn (h : world.Fair setting.catalog) (hends : setting.catalog.EndsLast) :
    (world.runTurn setting).2.Fair setting.catalog := by
  have hadvance : (world.advance setting).2.Fair setting.catalog := h.advance hends
  cases hactive : (world.advance setting).2.life.isActive with
  | true =>
    have hwaits : (world.advance setting).2.Waits setting.catalog := hadvance.waits hactive
    rw [runTurn_of_active hactive]
    exact hwaits.happen hends _
  | false =>
    rw [runTurn_of_over hactive]
    exact hadvance

/-- Offers leave what is rewarded as it is. -/
theorem Fair.gatherOffer (h : world.Fair setting.catalog) :
    (world.gatherOffer setting).2.Fair setting.catalog := by
  cases hevents : (setting.catalog.eligible setting.config.showTestEvents world.life).isEmpty with
  | true =>
    rw [gatherOffer_of_no_event hevents]
    exact Fair.note h _ _ _
  | false =>
    have hdrawn : (world.drawCandidates setting).2.Fair setting.catalog := h
    cases hoffered : (world.drawCandidates setting).1.isEmpty with
    | true =>
      rw [gatherOffer_of_no_choice hevents hoffered]
      exact Fair.note hdrawn _ _ _
    | false =>
      rw [gatherOffer_of_choices hevents hoffered]
      exact hdrawn

/-- A manual turn that begins is rewarded if it ends the run. -/
theorem Fair.beginManual (h : world.Fair setting.catalog) (hends : setting.catalog.EndsLast) :
    (world.beginManual setting).2.Fair setting.catalog := by
  have hadvance : (world.advance setting).2.Fair setting.catalog := h.advance hends
  cases hactive : (world.advance setting).2.life.isActive with
  | true =>
    rw [beginManual_of_active hactive]
    exact hadvance.gatherOffer
  | false =>
    rw [beginManual_of_over hactive]
    exact hadvance

/-- A candidate that is resolved is rewarded for what it leaves. -/
theorem Waits.resolve {candidate : Candidate R} (h : world.Waits setting.catalog)
    (hends : candidate.choice.EndsLast) :
    (world.resolve setting candidate).2.Fair setting.catalog := by
  have hstaged : (world.stage candidate.origin).Waits setting.catalog := ⟨h.alive, h.knows⟩
  exact hstaged.make hends { TurnReport.blank with event := some candidate.origin.id }

theorem Fair.passTime (h : world.Fair setting.catalog) (hends : setting.catalog.EndsLast) :
    (world.passTime setting).2.Fair setting.catalog := by
  have hnoted : (world.note .system none timePassesLine).Fair setting.catalog := Fair.note h _ _ _
  exact hnoted.beginManual hends

end World

/-! ### Sessions -/

namespace Session

variable {R G : Type} [Scalar R] [SeededSource G] {session : Session R Ledger G}

/-- The ledger of a session has rewarded its life if it is over. -/
abbrev Fair (session : Session R Ledger G) : Prop := session.world.Fair session.setting.catalog

/-- However many turns are played, the run is rewarded for what they leave. -/
theorem Fair.runUntilOver (h : session.Fair) (hends : session.setting.catalog.EndsLast)
    (turns : Nat) : (session.runUntilOver turns).2.Fair := by
  induction turns generalizing session with
  | zero => exact h
  | succ turns ih =>
    cases hactive : session.life.isActive with
    | true =>
      have hturn : session.runTurn.2.Fair := World.Fair.runTurn h hends
      rw [runUntilOver_of_active hactive]
      exact ih hturn hends
    | false =>
      rw [runUntilOver_of_over hactive]
      exact h

/-- **Every move leaves a life rewarded as it is, or goes on with it.** -/
theorem Fair.move (h : session.Fair) (hends : session.setting.catalog.EndsLast)
    (hfit : session.Fit) (m : Move) : (session.move m).2.Fair := by
  cases m with
  | runTurn => exact World.Fair.runTurn h hends
  | runUntilOver turns => exact Fair.runUntilOver h hends turns
  | beginManual => exact World.Fair.beginManual h hends
  | choose id =>
    show (session.choose id).2.Fair
    rcases session.choose_cases id with ⟨candidate, hactive, hfind, hchoose⟩ | ⟨_, hrefused⟩
    · have hwaits : session.world.Waits session.setting.catalog := h.waits hactive
      -- The offer fits, hence the choice is one of the catalog's.
      obtain ⟨event, hevent, hchoice⟩ := (hfit candidate (List.mem_of_find?_eq_some hfind)).authored
      rw [hchoose]
      exact World.Waits.resolve hwaits (hends.choices event hevent candidate.choice hchoice)
    · rw [hrefused]
      exact h
  | timePasses =>
    show session.timePasses.2.Fair
    rcases session.timePasses_cases with ⟨-, hpassed⟩ | hrefused
    · rw [hpassed]
      exact World.Fair.passTime h hends
    · rw [hrefused]
      exact h
  | triggerEnding ending => exact Scene.Fair.triggerEnding h ending
  | reseed seed => exact h

/-- **However a session goes on**, where endings come last, its run is rewarded for what is left of
it once it is over. -/
theorem Fair.goOn (h : session.Fair) (hends : session.setting.catalog.EndsLast)
    (hfit : session.Fit) (moves : List Move) : (session.goOn moves).2.Fair := by
  have hall := goOn_induction
    (P := fun s ↦ s.setting = session.setting ∧ s.Fit ∧ s.Fair)
    (fun s m ⟨hsetting, hsfit, hfair⟩ ↦
      ⟨(s.setting_call (.move m)).trans hsetting, hsfit.call (.move m),
        hfair.move (hsetting ▸ hends) hsfit m⟩)
    session ⟨rfl, hfit, h⟩ moves
  exact hall.2.2

/-- **Rewards fit the end**, where endings come last in the content. Of a run that begins with a
ledger for the achievements of the catalog and goes on in any way, once it is over each achievement
that has a name and conditions, which all hold in the life as it is, is unlocked. -/
theorem rewards_fit_the_end (setting : Setting R) (hends : setting.catalog.EndsLast) (seed : UInt64)
    (talents : List String) (moves : List Move) :
    let session := ((beginWithLedger setting seed talents : Session R Ledger G).goOn moves).2
    session.life.phase ≠ .active → ∀ a ∈ setting.catalog.achievements,
      a.id ≠ "" → a.conditions ≠ [] → allHold session.life a.conditions = true →
        a.id ∈ session.world.sink.unlocked := by
  intro session hover a ha hid hconditions hhold
  -- The run begins with a ledger that waits for its end, and each move keeps the ledger fair.
  let first : Session R Ledger G := beginWithLedger setting seed talents
  have hwaits : first.world.Waits setting.catalog :=
    Scene.waits_begin _ (Ledger.knows_ofCatalog setting.catalog) hends _ _
  have hfirst : first.Fair := hwaits.fair
  have hfair : session.Fair := hfirst.goOn hends (fit_idle _ _) moves
  have hsetting : session.setting = setting := setting_play first _
  have hmet : a.isMetBy session.life = true := by
    rw [Achievement.isMetBy, hhold, Bool.and_true, Bool.not_eq_true', List.isEmpty_eq_false_iff]
    exact hconditions
  rw [Fair, hsetting] at hfair
  exact hfair.rewards (decide_eq_false hover) a ha hid hmet

/-- An achievement for those who keep the key. -/
def keeper : Achievement Float :=
  ⟨"keeper", "Keeper", "", false, [.inventory ⟨some "key", none⟩]⟩

/-- A catalog of a door, with one choice, which has the given outcomes. -/
def doorCatalog (outcomes : List (Directive Float)) : Catalog Float :=
  { Catalog.ofBase .empty with
    events := [⟨"door", "Door", "", [],
      [{ Choice.plain (some "in") "Go in" with outcomes := outcomes }], [], none, false, false⟩]
    achievements := [keeper] }

/-- Who takes the key before going home is rewarded for it. -/
theorem door_rewards_keeper :
    let setting : Setting Float :=
      ⟨doorCatalog [.addItem "key", .triggerEnding "home"], .default⟩
    let session : Session Float Ledger Xoshiro :=
      ((beginWithLedger setting 7 []).goOn [.runTurn]).2
    session.life.phase = .ended ∧ keeper.id ∈ session.world.sink.unlocked := by
  intro setting session
  have hends : setting.catalog.EndsLast := by
    refine ⟨fun event hevent choice hchoice ↦ ?_, fun id effect heffect ↦ ?_, fun _ h ↦ ?_⟩
    · obtain rfl := List.mem_singleton.1 hevent
      obtain rfl := List.mem_singleton.1 hchoice
      exact ⟨fun _ ↦ rfl, fun _ h ↦ absurd h List.not_mem_nil⟩
    · cases heffect
    · cases h
  obtain ⟨hended, hkeeps⟩ : session.life.phase = .ended ∧
      allHold session.life keeper.conditions = true := by
    decide +kernel
  have hover : session.life.phase ≠ .active := by
    rw [hended]
    decide
  have hrewarded : keeper.id ∈ session.world.sink.unlocked :=
    rewards_fit_the_end (G := Xoshiro) setting hends 7 [] [.runTurn] hover keeper
      List.mem_cons_self (by decide) (List.cons_ne_nil _ _) hkeeps
  exact ⟨hended, hrewarded⟩

/-- Who takes the key after the ending of the same choice is not rewarded for it: the run is over,
and its life meets the achievement, which stays locked. -/
theorem door_leaves_keeper_unrewarded :
    let setting : Setting Float :=
      ⟨doorCatalog [.triggerEnding "home", .addItem "key"], .default⟩
    let session : Session Float Ledger Xoshiro :=
      ((beginWithLedger setting 7 []).goOn [.runTurn]).2
    session.life.phase = .ended ∧ keeper ∈ setting.catalog.achievements ∧
      keeper.conditions ≠ [] ∧ allHold session.life keeper.conditions = true ∧
      session.world.sink.unlocked = [] := by
  intro setting session
  obtain ⟨hended, hkeeps, hlocked⟩ : session.life.phase = .ended ∧
      allHold session.life keeper.conditions = true ∧ session.world.sink.unlocked = [] := by
    decide +kernel
  exact ⟨hended, List.mem_cons_self, List.cons_ne_nil _ _, hkeeps, hlocked⟩

end Session

end LifeStory
