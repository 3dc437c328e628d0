import LifeStory.Proofs.Wordless

/-!
# Scenes that differ in words

Two scenes are alike when their lives and their sinks are the same but for words
(`Scene.Alike`); the sources that texts are drawn from may be any. A line that is written keeps them
alike whatever its words, and what decides about a life does not look at its lines, so that all that
acts on scenes, directives and the passing of time, answers the same and keeps them alike.
-/

namespace LifeStory

/-! ### Lives -/

namespace Life

variable {R : Type} {a b : Life R}

/-- Alike lives stay alike when different words are written. -/
theorem note_alike (h : a.wordless = b.wordless) (kind : LogKind)
    (title title' : Option String) (text text' : String) :
    (a.note kind title text).wordless = (b.note kind title' text').wordless := by
  rw [note_wordless, note_wordless, h]

variable [Scalar R]

/-- A directive asks for the same change of a life without words. -/
theorem obey?_wordless (catalog : Catalog R) (life : Life R) (directive : Directive R) :
    life.wordless.obey? catalog.wordless directive =
      (life.obey? catalog directive).map wordless := by
  have hcatalog : life.wordless.obey? catalog.wordless directive =
      life.wordless.obey? catalog directive := by
    cases directive <;> rfl
  rw [hcatalog]
  exact obey?_relog catalog Log.wordless life directive

/-- What is owed is settled alike by lives that differ in words. -/
theorem settleDebt_alike (h : a.wordless = b.wordless) :
    a.settleDebt.1 = b.settleDebt.1 ∧ a.settleDebt.2.wordless = b.settleDebt.2.wordless := by
  have hmoney : a.stats.money = b.stats.money :=
    eq_of_alike (fun life ↦ life.stats.money) (fun _ ↦ rfl) h
  have howes : a.hasStatus debtStatus = b.hasStatus debtStatus :=
    eq_of_alike (hasStatus · debtStatus) (fun _ ↦ rfl) h
  have hindebted := congrArg (fun life : Life R ↦
    { life with statuses := life.statuses ++ [(⟨debtStatus, debtDuration⟩ : ActiveStatus)] }) h
  have hfree := congrArg (fun life : Life R ↦
    { life with statuses := life.statuses.filter (·.id ≠ debtStatus) }) h
  rw [settleDebt, settleDebt]
  dsimp only
  rw [hmoney, howes]
  split
  · exact ⟨rfl, note_alike hindebted _ _ _ _ _⟩
  · split
    · exact ⟨rfl, note_alike hfree _ _ _ _ _⟩
    · exact ⟨rfl, h⟩

omit [Scalar R] in
/-- The same status effects wear off. -/
theorem wearStatuses_alike (h : a.wordless = b.wordless) (active removed : List String) :
    (a.wearStatuses active removed).1 = (b.wearStatuses active removed).1 ∧
      (a.wearStatuses active removed).2.wordless = (b.wearStatuses active removed).2.wordless :=
  ⟨eq_of_alike (fun life ↦ (life.wearStatuses active removed).1) (fun _ ↦ rfl) h,
    congrArg (fun life : Life R ↦ (life.wearStatuses active removed).2) h⟩

omit [Scalar R] in
/-- As many modifiers wear off. -/
theorem wearModifiers_alike (h : a.wordless = b.wordless) :
    a.wearModifiers.1 = b.wearModifiers.1 ∧
      a.wearModifiers.2.wordless = b.wearModifiers.2.wordless :=
  ⟨eq_of_alike (fun life ↦ life.wearModifiers.1) (fun _ ↦ rfl) h,
    congrArg (fun life : Life R ↦ life.wearModifiers.2) h⟩

end Life

/-! ### Scenes -/

/-- Two scenes that differ in words alone. -/
structure Scene.Alike {R A G : Type} (s t : Scene R A G) : Prop where
  life : s.life.wordless = t.life.wordless
  sink : s.sink = t.sink

namespace Scene

variable {R A G : Type} {α : Type} {c d : Catalog R} {s t : Scene R A G}

/-- The same answer, with scenes that differ in words alone. -/
def AlikeWith (p q : α × Scene R A G) : Prop := p.1 = q.1 ∧ p.2.Alike q.2

namespace Alike

/-- Scenes stay alike when their lives are set to lives that differ in words. -/
theorem setLife (h : s.Alike t) {a b : Life R} (hlife : a.wordless = b.wordless) :
    Alike { s with life := a } { t with life := b } :=
  ⟨hlife, h.sink⟩

/-- A change of lives that commutes with `wordless` keeps scenes alike. -/
theorem mapLife {f : Life R → Life R} (hf : ∀ life, (f life).wordless = f life.wordless)
    (h : s.Alike t) : (s.mapLife f).Alike (t.mapLife f) :=
  ⟨(hf s.life).trans ((congrArg f h.life).trans (hf t.life).symm), h.sink⟩

/-- Changes that differ in words are accepted alike. -/
theorem accept (h : s.Alike t) {changed changed' : Option (Life R)}
    (hchanged : changed.map Life.wordless = changed'.map Life.wordless) :
    AlikeWith (s.accept changed) (t.accept changed') := by
  cases changed with
  | none =>
    obtain rfl := Option.map_eq_none_iff.1 hchanged.symm
    exact ⟨rfl, h⟩
  | some life =>
    obtain ⟨life', rfl, hlife⟩ := Option.map_eq_some_iff.1 hchanged.symm
    exact ⟨rfl, hlife.symm, h.sink⟩

variable [Scalar R] [AchievementSink A] [RandomSource G]

omit [RandomSource G] in
/-- The same achievements are reported, for their conditions have no words in them. -/
theorem reportAchievements (hc : c.wordless = d.wordless) (h : s.Alike t) :
    (s.reportAchievements c).Alike (t.reportAchievements d) := by
  refine ⟨h.life, ?_⟩
  show c.wordless.reportAchievements s.life.wordless s.sink =
    d.wordless.reportAchievements t.life.wordless t.sink
  rw [hc, h.life, h.sink]

omit [AchievementSink A] in
/-- An ending is told in whatever words, and leaves the scenes alike. -/
theorem tellEnding (h : s.Alike t) (id : String) :
    (s.tellEnding c id).Alike (t.tellEnding d id) := by
  obtain ⟨title, text, source, hs⟩ := tellEnding_eq c id s
  obtain ⟨title', text', source', ht⟩ := tellEnding_eq d id t
  rw [hs, ht]
  exact ⟨Life.note_alike h.life _ _ _ _ _, h.sink⟩

/-- An ending is refused or triggered alike. -/
theorem triggerEnding (hc : c.wordless = d.wordless) (h : s.Alike t) (id : String) :
    AlikeWith (s.triggerEnding c id) (t.triggerEnding d id) := by
  have hphase : s.life.phase = t.life.phase :=
    Life.eq_of_alike Life.phase (fun _ ↦ rfl) h.life
  by_cases hended : s.life.phase = .ended
  · rw [triggerEnding_of_ended hended, triggerEnding_of_ended (hphase ▸ hended)]
    exact ⟨rfl, h⟩
  · rw [triggerEnding_of_not_ended hended, triggerEnding_of_not_ended (hphase ▸ hended)]
    have hclosed := h.mapLife (f := closed id) fun _ ↦ rfl
    exact ⟨rfl, (hclosed.tellEnding id).reportAchievements hc⟩

omit [RandomSource G] in
theorem passAway (hc : c.wordless = d.wordless) (h : s.Alike t) (cause : DeathCause) :
    (s.passAway c cause).Alike (t.passAway d cause) := by
  refine reportAchievements hc ⟨?_, h.sink⟩
  exact Life.note_alike
    (congrArg (fun life ↦ { life with alive := false, endReason := some cause.name }) h.life) ..

omit [RandomSource G] in
/-- The same threshold is enforced, with the same cause of death. -/
theorem enforceThresholds (hc : c.wordless = d.wordless) (h : s.Alike t)
    (thresholds : Thresholds R) :
    AlikeWith (s.enforceThresholds c thresholds) (t.enforceThresholds d thresholds) := by
  have hactive : s.life.isActive = t.life.isActive :=
    Life.eq_of_alike Life.isActive (fun _ ↦ rfl) h.life
  have hbreach : s.life.breach? thresholds = t.life.breach? thresholds :=
    Life.eq_of_alike (Life.breach? · thresholds) (fun _ ↦ rfl) h.life
  rw [Scene.enforceThresholds, Scene.enforceThresholds, hactive, hbreach]
  split
  · split
    · next cause _ => exact ⟨rfl, h.passAway hc cause⟩
    · exact ⟨rfl, h⟩
  · exact ⟨rfl, h⟩

/-! ### Directives -/

/-- **A directive is obeyed alike** whatever the words of the catalog and of the life. -/
theorem applyDirective (hc : c.wordless = d.wordless) (h : s.Alike t) (directive : Directive R) :
    AlikeWith (s.applyDirective c directive) (t.applyDirective d directive) := by
  have hobey : (s.life.obey? c directive).map Life.wordless =
      (t.life.obey? d directive).map Life.wordless := by
    rw [← Life.obey?_wordless, ← Life.obey?_wordless, hc, h.life]
  cases directive with
  | triggerEnding ending => exact h.triggerEnding hc ending
  | unlockAchievement id =>
    exact ⟨rfl, h.life, congrArg (AchievementSink.unlock · id) h.sink⟩
  | _ => exact h.accept hobey

/-- A list of directives gives the same tally, and keeps the scenes alike, step by step. -/
theorem applyFrom (hc : c.wordless = d.wordless) (h : s.Alike t)
    (outcomes : List (Directive R)) (tally : Tally) :
    AlikeWith (s.applyFrom c outcomes tally) (t.applyFrom d outcomes tally) := by
  induction outcomes generalizing s t tally with
  | nil => exact ⟨rfl, h⟩
  | cons directive rest ih =>
    obtain ⟨happlied, hnext⟩ := h.applyDirective hc directive
    rw [Scene.applyFrom, Scene.applyFrom]
    dsimp only
    rw [happlied]
    exact ih hnext _

theorem applyAll (hc : c.wordless = d.wordless) (h : s.Alike t)
    (outcomes : List (Directive R)) :
    AlikeWith (s.applyAll c outcomes) (t.applyAll d outcomes) :=
  h.applyFrom hc outcomes .zero

/-! ### The passing of time -/

/-- The outcomes of status effects are applied alike, and remove the same effects. -/
theorem actStatuses (hc : c.wordless = d.wordless) (h : s.Alike t)
    (active removed : List String) :
    (s.actStatuses c active removed).1 = (t.actStatuses d active removed).1 ∧
      AlikeWith (s.actStatuses c active removed).2 (t.actStatuses d active removed).2 := by
  induction active generalizing s t removed with
  | nil => exact ⟨rfl, rfl, h⟩
  | cons id rest ih =>
    have hstatus : s.life.hasStatus id = t.life.hasStatus id :=
      Life.eq_of_alike (Life.hasStatus · id) (fun _ ↦ rfl) h.life
    have heffect : c.statusEffect? id = d.statusEffect? id :=
      Catalog.eq_of_alike (Catalog.statusEffect? · id) (fun _ ↦ rfl) hc
    -- Both scenes pass over the same effects, and the others act on alike scenes.
    rw [Scene.actStatuses, Scene.actStatuses, hstatus, heffect]
    split
    · exact ih h removed
    · split
      · exact ih h removed
      · next effect _ =>
        obtain ⟨htally, hnext⟩ := h.applyAll hc effect.outcomes
        dsimp only
        rw [htally]
        obtain ⟨hticked, hrest⟩ := ih hnext (removed ++ (t.applyAll d effect.outcomes).1.removed)
        exact ⟨congrArg (id :: ·) hticked, hrest⟩

/-- A tick of the status effects is the same but for the lines that are written. -/
theorem tickStatuses (hc : c.wordless = d.wordless) (h : s.Alike t) :
    AlikeWith (s.tickStatuses c) (t.tickStatuses d) := by
  obtain ⟨hdebt, hsettled⟩ := Life.settleDebt_alike h.life
  have hactive : s.life.settleDebt.2.statuses = t.life.settleDebt.2.statuses :=
    Life.eq_of_alike Life.statuses (fun _ ↦ rfl) hsettled
  obtain ⟨hticked, hremoved, hacted⟩ :=
    (h.setLife hsettled).actStatuses hc (t.life.settleDebt.2.statuses.map ActiveStatus.id) []
  obtain ⟨hexpired, hworn⟩ := Life.wearStatuses_alike hacted.life
    (t.life.settleDebt.2.statuses.map ActiveStatus.id)
    (Scene.actStatuses d (t.life.settleDebt.2.statuses.map ActiveStatus.id) []
      { t with life := t.life.settleDebt.2 }).2.1
  rw [Scene.tickStatuses, Scene.tickStatuses]
  dsimp only
  rw [hdebt, hactive, hticked, hremoved, hexpired]
  exact ⟨rfl, hworn, hacted.sink⟩

/-- **A turn passes alike** where the settings differ in the words of the catalog. -/
theorem passTurn {setting setting' : Setting R}
    (hc : setting.catalog.wordless = setting'.catalog.wordless)
    (hconfig : setting.config = setting'.config) (h : s.Alike t) :
    AlikeWith (s.passTurn setting) (t.passTurn setting') := by
  have haged := h.mapLife (f := fun life ↦ life.grownOlder setting.config.aging) fun _ ↦ rfl
  obtain ⟨hstatus, hticked⟩ := haged.tickStatuses hc
  obtain ⟨hexpired, hworn⟩ := Life.wearModifiers_alike hticked.life
  obtain ⟨hdeath, hlast⟩ :=
    (hticked.setLife hworn).enforceThresholds hc setting.config.thresholds
  rw [Scene.passTurn, Scene.passTurn, ← hconfig]
  dsimp only
  rw [hstatus, hexpired, hdeath]
  exact ⟨rfl, hlast⟩

/-! ### The beginning -/

theorem begin (hc : c.wordless = d.wordless) (h : s.Alike t) (capacity : Nat)
    (talents : List String) : (s.begin c capacity talents).Alike (t.begin d capacity talents) := by
  have hreceive : ∀ (chosen : List (Talent R)) (s t : Scene R A G), s.Alike t →
      (chosen.foldl (receiveTalent c) s).Alike (chosen.foldl (receiveTalent d) t) := by
    intro chosen
    induction chosen with
    | nil => exact fun _ _ h ↦ h
    | cons talent rest ih =>
      intro s t h
      have hgiven := h.mapLife (f := fun life ↦
        { life with talents := life.talents ++ [⟨talent.id, talent.name⟩] }) fun _ ↦ rfl
      exact ih _ _ (hgiven.applyAll hc talent.effects).2
  have htalent : c.talent? = d.talent? := Catalog.eq_of_alike Catalog.talent? (fun _ ↦ rfl) hc
  have hstats : c.initialStats = d.initialStats :=
    Catalog.eq_of_alike Catalog.initialStats (fun _ ↦ rfl) hc
  -- Both lives begin with the same lines, before any talent is given.
  rw [Scene.begin, Scene.begin]
  dsimp only
  rw [htalent, hstats]
  exact hreceive _ _ _ ⟨rfl, h.sink⟩

end Alike

end Scene

end LifeStory
