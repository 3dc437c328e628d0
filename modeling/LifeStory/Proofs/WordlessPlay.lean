import LifeStory.Proofs.Wording
import LifeStory.Scalar.Float

/-!
# Words never matter

Two sessions are alike when they differ in words, and in the source that texts are drawn from, alone
(`Session.Alike`). Alike sessions give answers that differ in words alone, and stay alike, whatever
they are asked: no turn hands a text, or a draw from the text source, on to anything but a line.
-/

namespace LifeStory

/-! ### Worlds -/

/-- Two settings that differ in words alone. -/
structure Setting.Alike {R : Type} (s t : Setting R) : Prop where
  catalog : s.catalog.wordless = t.catalog.wordless
  config : s.config = t.config

/-- Two worlds that differ in words, and in the source that texts are drawn from, alone. -/
structure World.Alike {R A G : Type} (w v : World R A G) : Prop where
  life : w.life.wordless = v.life.wordless
  sink : w.sink = v.sink
  seed : w.streams.seed = v.streams.seed
  events : w.streams.events = v.streams.events
  choices : w.streams.choices = v.streams.choices
  results : w.streams.results = v.streams.results

namespace World

variable {R A G : Type} {α : Type} {setting setting' : Setting R} {w v : World R A G}

/-- The same answer, with worlds that differ in words alone. -/
def AlikeWith (p q : α × World R A G) : Prop := p.1 = q.1 ∧ p.2.Alike q.2

/-- Reports and worlds that differ in words alone. -/
def AlikeReport (p q : TurnReport R × World R A G) : Prop :=
  p.1.wordless = q.1.wordless ∧ p.2.Alike q.2

namespace Alike

theorem scene (h : w.Alike v) : w.scene.Alike v.scene := ⟨h.life, h.sink⟩

/-- Worlds stay alike when their scenes are set to alike scenes. -/
theorem setScene (h : w.Alike v) {s t : Scene R A G} (hscene : s.Alike t) :
    (w.setScene s).Alike (v.setScene t) :=
  ⟨hscene.life, hscene.sink, h.seed, h.events, h.choices, h.results⟩

/-- What keeps scenes alike keeps worlds alike. -/
theorem onScene (h : w.Alike v) {act act' : Scene R A G → α × Scene R A G}
    (hact : Scene.AlikeWith (act w.scene) (act' v.scene)) :
    AlikeWith (w.onScene act) (v.onScene act') :=
  ⟨hact.1, h.setScene hact.2⟩

/-- Worlds stay alike when their lives are set to lives that differ in words. -/
theorem setLife (h : w.Alike v) {a b : Life R} (hlife : a.wordless = b.wordless) :
    Alike { w with life := a } { v with life := b } :=
  ⟨hlife, h.sink, h.seed, h.events, h.choices, h.results⟩

/-- A change of lives that commutes with `wordless` keeps worlds alike. -/
theorem mapLife {f : Life R → Life R} (hf : ∀ life, (f life).wordless = f life.wordless)
    (h : w.Alike v) : (w.mapLife f).Alike (v.mapLife f) :=
  h.setLife ((hf w.life).trans ((congrArg f h.life).trans (hf v.life).symm))

/-- A note keeps worlds alike whatever its words. -/
theorem note (h : w.Alike v) (kind : LogKind) (title title' : Option String)
    (text text' : String) : (w.note kind title text).Alike (v.note kind title' text') :=
  h.setLife (Life.note_alike h.life _ _ _ _ _)

theorem nextSeq (h : w.Alike v) : w.life.log.nextSeq = v.life.log.nextSeq :=
  Life.eq_of_alike (fun life ↦ life.log.nextSeq) (fun _ ↦ rfl) h.life

theorem isActive (h : w.Alike v) : w.life.isActive = v.life.isActive :=
  Life.eq_of_alike Life.isActive (fun _ ↦ rfl) h.life

/-- Reports stay alike when they are closed with alike lives. -/
theorem close (h : w.Alike v) {report report' : TurnReport R}
    (hreport : report.wordless = report'.wordless) (since : Nat) :
    (report.close w.life since).wordless = (report'.close v.life since).wordless := by
  rw [TurnReport.close_wordless, TurnReport.close_wordless, hreport, h.life]

/-- The lines since a point of the log differ in words alone. -/
theorem since (h : w.Alike v) (seq : Nat) :
    (w.life.log.since seq).map LogEntry.wordless =
      (v.life.log.since seq).map LogEntry.wordless := by
  have hlog : w.life.log.wordless = v.life.log.wordless := by
    show w.life.wordless.log = v.life.wordless.log
    rw [h.life]
  rw [← Log.since_wordless, ← Log.since_wordless, hlog]

variable [Scalar R] [RandomSource G]

/-- Rendering draws from the source of the texts alone. -/
theorem render (h : w.Alike v) (template template' : String) :
    (w.render template).2.Alike (v.render template').2 :=
  ⟨h.life, h.sink, h.seed, h.events, h.choices, h.results⟩

/-! ### Events and choices -/

/-- An event is staged in whatever words, if it has the same name. -/
theorem stage (h : w.Alike v) {origin origin' : Origin} (hid : origin.id = origin'.id) :
    (w.stage origin).Alike (v.stage origin') := by
  have hnote := ((h.render origin.title origin'.title).render origin.text origin'.text).note .event
    (Life.titleIfAny (w.render origin.title).1) (Life.titleIfAny (v.render origin'.title).1)
    ((w.render origin.title).2.render origin.text).1
    ((v.render origin'.title).2.render origin'.text).1
  rw [World.stage, World.stage, hid]
  exact hnote.mapLife (f := fun life ↦
    { life with triggered := life.triggered.add origin'.id }) fun _ ↦ rfl

/-- A choice is told in whatever words, if it has the same name. -/
theorem tellChoice (h : w.Alike v) {choice choice' : Choice R} (hid : choice.id = choice'.id) :
    (w.tellChoice choice).Alike (v.tellChoice choice') := by
  have hchosen := h.mapLife (f := fun life ↦
    { life with chosen := choice'.id.elim life.chosen life.chosen.add }) fun _ ↦ rfl
  rw [World.tellChoice, World.tellChoice, hid]
  exact (hchosen.render choice.text choice'.text).note .choice _ _ _ _

/-- Whether feedback is told depends on whether there is any, not on what it says. -/
theorem tellFeedback (h : w.Alike v) {feedback feedback' : Option String}
    (hfeedback : feedback.map (fun _ ↦ "") = feedback'.map fun _ ↦ "") :
    (w.tellFeedback feedback).Alike (v.tellFeedback feedback') := by
  cases feedback with
  | none =>
    obtain rfl := Option.map_eq_none_iff.1 hfeedback.symm
    exact h
  | some template =>
    obtain ⟨template', rfl, -⟩ := Option.map_eq_some_iff.1 hfeedback.symm
    exact (h.render template template').note .feedback _ _ _ _

/-- A choice resolves alike, and is told in its own words. -/
theorem making (h : w.Alike v) {choice choice' : Choice R}
    (hchoice : choice.wordless = choice'.wordless) :
    (w.making choice).1.wordless = (v.making choice').1.wordless ∧
      (w.making choice).2.Alike (v.making choice').2 := by
  have htold : (w.tellChoice choice).Alike (v.tellChoice choice') :=
    h.tellChoice (Choice.id_of_alike hchoice)
  obtain ⟨hresolution, hsource⟩ :=
    Choice.resolve_alike hchoice (w.tellChoice choice).streams.results
  rw [World.making, World.making, World.drawResult, World.drawResult, ← htold.results]
  exact ⟨hresolution, htold.life, htold.sink, htold.seed, htold.events, htold.choices, hsource⟩

variable [AchievementSink A]

/-- **Time passes alike**: the same is reported of it, and the worlds stay alike. -/
theorem advance (hs : setting.Alike setting') (h : w.Alike v) :
    AlikeWith (w.advance setting) (v.advance setting') := by
  have hactive := h.isActive
  cases hw : w.life.isActive with
  | true =>
    rw [advance_of_active hw, advance_of_active (hactive ▸ hw)]
    exact h.onScene (h.scene.passTurn hs.catalog hs.config)
  | false =>
    rw [advance_of_over hw, advance_of_over (hactive ▸ hw)]
    exact ⟨rfl, h⟩

/-- The outcomes of a result are counted alike. -/
theorem applyResult (hs : setting.Alike setting') (h : w.Alike v)
    (outcomes : List (Directive R)) :
    AlikeWith (w.applyResult setting outcomes) (v.applyResult setting' outcomes) := by
  have happly := (h.scene.applyAll hs.catalog outcomes).2.enforceThresholds hs.catalog
    setting.config.thresholds
  refine h.onScene ?_
  rw [← hs.config]
  exact happly

/-- A choice is made alike, up to the report of it. -/
theorem made (hs : setting.Alike setting') (h : w.Alike v) {choice choice' : Choice R}
    (hchoice : choice.wordless = choice'.wordless) :
    AlikeWith (w.made setting choice) (v.made setting' choice') := by
  obtain ⟨hresolution, hmaking⟩ := h.making hchoice
  obtain ⟨hfeedback, houtcomes, -, -⟩ := Resolution.mk.inj hresolution
  rw [World.made, World.made, houtcomes]
  exact (hmaking.tellFeedback hfeedback).applyResult hs _

/-- The reports of choices that differ in words differ in words alone. -/
theorem make (hs : setting.Alike setting') (h : w.Alike v) {choice choice' : Choice R}
    (hchoice : choice.wordless = choice'.wordless) {report report' : TurnReport R}
    (hreport : report.wordless = report'.wordless) :
    AlikeReport (w.make setting choice report) (v.make setting' choice' report') := by
  obtain ⟨hdeath, hlast⟩ := h.made hs hchoice
  refine ⟨?_, hlast⟩
  rw [make_eq, make_eq, TurnReport.resolved_wordless, TurnReport.resolved_wordless, hreport,
    (h.making hchoice).1, hdeath, Choice.id_of_alike hchoice]

/-! ### Turns without a player -/

omit [AchievementSink A] in
/-- Events that differ in words are drawn, from the same stream. -/
theorem drawEvent (hs : setting.Alike setting') (h : w.Alike v) :
    (w.drawEvent setting).1.map Event.wordless = (v.drawEvent setting').1.map Event.wordless ∧
      AlikeWith (w.drawEvent setting).2 (v.drawEvent setting').2 := by
  obtain ⟨hevent, hrest⟩ := Catalog.drawEvent_alike hs.catalog h.life setting.config.showTestEvents
    w.streams.events
  obtain ⟨htrace, hsource⟩ := Prod.ext_iff.1 hrest
  rw [World.drawEvent, World.drawEvent, ← hs.config, ← h.events]
  exact ⟨hevent, htrace, h.life, h.sink, h.seed, hsource, h.choices, h.results⟩

omit [AchievementSink A] in
/-- Choices that differ in words are drawn, from the same stream. -/
theorem drawChoice (hs : setting.Alike setting') (h : w.Alike v) {event event' : Event R}
    (hevent : event.wordless = event'.wordless) :
    (w.drawChoice setting event).1.map Choice.wordless =
        (v.drawChoice setting' event').1.map Choice.wordless ∧
      AlikeWith (w.drawChoice setting event).2 (v.drawChoice setting' event').2 := by
  have hchoices : (setting.catalog.available w.life event).map Choice.wordless =
      (setting'.catalog.available v.life event').map Choice.wordless := by
    rw [← Catalog.available_wordless, ← Catalog.available_wordless, hs.catalog, hevent, h.life]
  obtain ⟨hchoice, hrest⟩ := Choice.draw_alike h.life setting.config.choiceChaos hchoices
    w.streams.choices
  obtain ⟨htrace, hsource⟩ := Prod.ext_iff.1 hrest
  rw [World.drawChoice, World.drawChoice, ← hs.config, ← h.choices]
  exact ⟨hchoice, htrace, h.life, h.sink, h.seed, h.events, hsource, h.results⟩

omit [AchievementSink A] in
/-- What is chosen in an event differs in words alone. -/
theorem choosing (hs : setting.Alike setting') (h : w.Alike v) {event event' : Event R}
    (hevent : event.wordless = event'.wordless) :
    (w.choosing setting event).1.map Choice.wordless =
        (v.choosing setting' event').1.map Choice.wordless ∧
      AlikeWith (w.choosing setting event).2 (v.choosing setting' event').2 :=
  (h.stage (Event.id_of_alike hevent)).drawChoice hs hevent

/-- An event is lived through alike. -/
theorem liveThrough (hs : setting.Alike setting') (h : w.Alike v) {event event' : Event R}
    (hevent : event.wordless = event'.wordless) {report report' : TurnReport R}
    (hreport : report.wordless = report'.wordless) :
    AlikeReport (w.liveThrough setting event report) (v.liveThrough setting' event' report') := by
  obtain ⟨hchoice, htrace, hchosen⟩ := h.choosing hs hevent
  have hstaging : (w.staging setting event report).wordless =
      (v.staging setting' event' report').wordless := by
    rw [World.staging, World.staging, Event.id_of_alike hevent, htrace]
    exact congrArg (fun r : TurnReport R ↦
      { r with
        event := some event'.id
        traces := r.traces ++ [(v.choosing setting' event').2.1] }) hreport
  -- A choice is made in both worlds or in none.
  cases hw : (w.choosing setting event).1 with
  | some choice =>
    rw [hw] at hchoice
    obtain ⟨choice', hv, hchoice'⟩ := Option.map_eq_some_iff.1 hchoice.symm
    rw [liveThrough_of_some hw, liveThrough_of_some hv]
    exact hchosen.make hs hchoice'.symm hstaging
  | none =>
    rw [hw] at hchoice
    have hv := Option.map_eq_none_iff.1 hchoice.symm
    rw [liveThrough_of_none hw, liveThrough_of_none hv]
    exact ⟨hstaging, hchosen.note .system _ _ _ _⟩

/-- Whatever happens in a turn, happens alike. -/
theorem happen (hs : setting.Alike setting') (h : w.Alike v) {report report' : TurnReport R}
    (hreport : report.wordless = report'.wordless) :
    AlikeReport (w.happen setting report) (v.happen setting' report') := by
  obtain ⟨hevent, htrace, hdrawn⟩ := h.drawEvent hs
  have hreport' := congrArg (fun r : TurnReport R ↦
    { r with traces := r.traces ++ [(v.drawEvent setting').2.1] }) hreport
  rw [← htrace] at hreport'
  cases hw : (w.drawEvent setting).1 with
  | some event =>
    rw [hw] at hevent
    obtain ⟨event', hv, hevent'⟩ := Option.map_eq_some_iff.1 hevent.symm
    rw [happen_of_some hw, happen_of_some hv, ← htrace]
    exact hdrawn.liveThrough hs hevent'.symm hreport'
  | none =>
    rw [hw] at hevent
    have hv := Option.map_eq_none_iff.1 hevent.symm
    rw [happen_of_none hw, happen_of_none hv, ← htrace]
    exact ⟨hreport', hdrawn.note .system _ _ _ _⟩

/-- **A turn gives reports that differ in words alone**, and keeps the worlds alike. -/
theorem runTurn (hs : setting.Alike setting') (h : w.Alike v) :
    AlikeReport (w.runTurn setting) (v.runTurn setting') := by
  obtain ⟨hadvance, hadvanced⟩ := h.advance hs
  have hactive := hadvanced.isActive
  cases hw : (w.advance setting).2.life.isActive with
  | true =>
    rw [runTurn_of_active hw, runTurn_of_active (hactive ▸ hw), hadvance, h.nextSeq]
    have hblank : (TurnReport.blank.absorb (v.advance setting').1 : TurnReport R).wordless =
      (TurnReport.blank.absorb (v.advance setting').1).wordless := rfl
    obtain ⟨hreport, hplayed⟩ := hadvanced.happen hs hblank
    exact ⟨hplayed.close hreport _, hplayed⟩
  | false =>
    rw [runTurn_of_over hw, runTurn_of_over (hactive ▸ hw), hadvance, h.nextSeq]
    exact ⟨hadvanced.close rfl _, hadvanced⟩

/-! ### Turns of a player -/

omit [AchievementSink A] in
/-- Candidates that differ in words are offered, under the same names. -/
theorem drawCandidates (hs : setting.Alike setting') (h : w.Alike v) :
    (w.drawCandidates setting).1.map Candidate.wordless =
        (v.drawCandidates setting').1.map Candidate.wordless ∧
      (w.drawCandidates setting).2.Alike (v.drawCandidates setting').2 := by
  obtain ⟨hoffered, hsource⟩ := Catalog.drawCandidates_alike hs.catalog h.life setting.config
    setting.config.manualChoiceCount w.streams.choices
  rw [World.drawCandidates, World.drawCandidates, ← hs.config, ← h.choices]
  exact ⟨hoffered, h.life, h.sink, h.seed, h.events, hsource, h.results⟩

omit [AchievementSink A] in
theorem gatherOffer (hs : setting.Alike setting') (h : w.Alike v) :
    (w.gatherOffer setting).1.wordless = (v.gatherOffer setting').1.wordless ∧
      (w.gatherOffer setting).2.Alike (v.gatherOffer setting').2 := by
  have hevents : (setting.catalog.eligible setting.config.showTestEvents w.life).isEmpty =
      (setting'.catalog.eligible setting'.config.showTestEvents v.life).isEmpty := by
    rw [← List.isEmpty_map (f := Event.wordless), ← Catalog.eligible_wordless, hs.catalog,
      hs.config, h.life, Catalog.eligible_wordless, List.isEmpty_map]
  obtain ⟨hoffered, hdrawn⟩ := h.drawCandidates hs
  have hnone : (w.drawCandidates setting).1.isEmpty = (v.drawCandidates setting').1.isEmpty := by
    rw [← List.isEmpty_map (f := Candidate.wordless), hoffered, List.isEmpty_map]
  cases hw : (setting.catalog.eligible setting.config.showTestEvents w.life).isEmpty with
  | true =>
    rw [gatherOffer_of_no_event hw, gatherOffer_of_no_event (hevents ▸ hw)]
    exact ⟨rfl, h.note .system _ _ _ _⟩
  | false =>
    cases hw' : (w.drawCandidates setting).1.isEmpty with
    | true =>
      rw [gatherOffer_of_no_choice hw hw', gatherOffer_of_no_choice (hevents ▸ hw) (hnone ▸ hw')]
      exact ⟨rfl, hdrawn.note .system _ _ _ _⟩
    | false =>
      rw [gatherOffer_of_choices hw hw', gatherOffer_of_choices (hevents ▸ hw) (hnone ▸ hw')]
      exact ⟨congrArg Offer.candidates hoffered, hdrawn⟩

/-- A manual turn begins alike. -/
theorem beginManual (hs : setting.Alike setting') (h : w.Alike v) :
    (w.beginManual setting).1.wordless = (v.beginManual setting').1.wordless ∧
      (w.beginManual setting).2.Alike (v.beginManual setting').2 := by
  obtain ⟨hadvance, hadvanced⟩ := h.advance hs
  have hactive := hadvanced.isActive
  cases hw : (w.advance setting).2.life.isActive with
  | true =>
    rw [beginManual_of_active hw, beginManual_of_active (hactive ▸ hw), hadvance, h.nextSeq]
    obtain ⟨hoffer, hoffered⟩ := hadvanced.gatherOffer hs
    refine ⟨?_, hoffered⟩
    rw [ManualTurn.wordless, ManualTurn.wordless, hoffered.close rfl, hoffer]
  | false =>
    rw [beginManual_of_over hw, beginManual_of_over (hactive ▸ hw), hadvance, h.nextSeq]
    refine ⟨?_, hadvanced⟩
    rw [ManualTurn.wordless, ManualTurn.wordless, hadvanced.close rfl]

/-- Candidates that differ in words are resolved alike. -/
theorem resolve (hs : setting.Alike setting') (h : w.Alike v) {candidate candidate' : Candidate R}
    (hcandidate : candidate.wordless = candidate'.wordless) :
    AlikeReport (w.resolve setting candidate) (v.resolve setting' candidate') := by
  obtain ⟨-, hchoice, horigin⟩ := Candidate.mk.inj hcandidate
  have hid : candidate.origin.id = candidate'.origin.id := by
    show candidate.origin.wordless.id = candidate'.origin.wordless.id
    rw [horigin]
  have hreport : ({ TurnReport.blank with event := some candidate.origin.id } :
      TurnReport R).wordless =
        ({ TurnReport.blank with event := some candidate'.origin.id } : TurnReport R).wordless := by
    rw [hid]
  obtain ⟨hmade, hlast⟩ := (h.stage hid).make hs hchoice hreport
  rw [World.resolve, World.resolve, h.nextSeq]
  exact ⟨hlast.close hmade _, hlast⟩

theorem passTime (hs : setting.Alike setting') (h : w.Alike v) :
    (w.passTime setting).1.wordless = (v.passTime setting').1.wordless ∧
      (w.passTime setting).2.Alike (v.passTime setting').2 := by
  obtain ⟨hturn, hlast⟩ := (h.note .system none none timePassesLine timePassesLine).beginManual hs
  obtain ⟨hreport, hoffer⟩ := ManualTurn.mk.inj hturn
  refine ⟨?_, hlast⟩
  rw [World.passTime, World.passTime, h.nextSeq]
  dsimp only
  rw [ManualTurn.wordless, ManualTurn.wordless]
  dsimp only
  rw [hoffer, TurnReport.quote_alike hreport (hlast.since _)]

end Alike

end World

/-! ### Sessions -/

/-- Two sessions that differ in words, and in the source that texts are drawn from, alone. -/
structure Session.Alike {R A G : Type} (s t : Session R A G) : Prop where
  setting : s.setting.Alike t.setting
  world : s.world.Alike t.world
  pending : s.pending.map Candidate.wordless = t.pending.map Candidate.wordless

namespace Session

variable {R A G : Type} {s t : Session R A G}

/-- Answers and sessions that differ in words alone. -/
def AlikeAnswer (p q : Answer R × Session R A G) : Prop :=
  p.1.wordless = q.1.wordless ∧ p.2.Alike q.2

namespace Alike

/-- What keeps worlds alike keeps sessions alike that take their offers back. -/
theorem moveOn (h : s.Alike t) {w v : World R A G} (hworld : w.Alike v) :
    (s.moveOn w).Alike (t.moveOn v) :=
  ⟨h.setting, hworld, rfl⟩

variable [Scalar R] [AchievementSink A]

theorem runTurn [RandomSource G] (h : s.Alike t) :
    s.runTurn.1.wordless = t.runTurn.1.wordless ∧ s.runTurn.2.Alike t.runTurn.2 :=
  have hworld := h.world.runTurn h.setting
  ⟨hworld.1, h.moveOn hworld.2⟩

theorem runUntilOver [RandomSource G] (h : s.Alike t) (turns : Nat) :
    (s.runUntilOver turns).1.map TurnReport.wordless =
        (t.runUntilOver turns).1.map TurnReport.wordless ∧
      (s.runUntilOver turns).2.Alike (t.runUntilOver turns).2 := by
  induction turns generalizing s t with
  | zero => exact ⟨rfl, h⟩
  | succ turns ih =>
    have hactive : s.life.isActive = t.life.isActive := h.world.isActive
    cases hs : s.life.isActive with
    | true =>
      obtain ⟨hfirst, hnext⟩ := h.runTurn
      obtain ⟨hrest, hlast⟩ := ih hnext
      rw [runUntilOver_of_active hs, runUntilOver_of_active (hactive ▸ hs)]
      refine ⟨?_, hlast⟩
      rw [List.map_cons, List.map_cons, hfirst, hrest]
    | false =>
      rw [runUntilOver_of_over hs, runUntilOver_of_over (hactive ▸ hs)]
      exact ⟨rfl, h⟩

omit [Scalar R] [AchievementSink A] in
/-- What opens alike offers keeps sessions alike. -/
theorem openOffer (h : s.Alike t) {turn turn' : ManualTurn R}
    (hturn : turn.wordless = turn'.wordless) {w v : World R A G} (hworld : w.Alike v) :
    (s.openOffer turn w).2.Alike (t.openOffer turn' v).2 := by
  obtain ⟨-, hoffer⟩ := ManualTurn.mk.inj hturn
  refine ⟨h.setting, hworld, ?_⟩
  show turn.offer.pending.map Candidate.wordless = turn'.offer.pending.map Candidate.wordless
  rw [← Offer.pending_wordless, ← Offer.pending_wordless, hoffer]

theorem choose [RandomSource G] (h : s.Alike t) (id : CandidateId) :
    ((Answer.ofExcept Answer.report (s.choose id).1).wordless =
        (Answer.ofExcept Answer.report (t.choose id).1).wordless) ∧
      (s.choose id).2.Alike (t.choose id).2 := by
  have hactive : s.life.isActive = t.life.isActive := h.world.isActive
  have hphase : s.life.phase = t.life.phase :=
    Life.eq_of_alike Life.phase (fun _ ↦ rfl) h.world.life
  have hfind : (s.pending.find? fun c ↦ c.id = id).map Candidate.wordless =
      (t.pending.find? fun c ↦ c.id = id).map Candidate.wordless := by
    have := congrArg (List.find? fun c ↦ c.id = id) h.pending
    rwa [List.find?_map, List.find?_map] at this
  rw [Session.choose, Session.choose, hactive, hphase]
  split
  · cases hs : s.pending.find? fun c ↦ c.id = id with
    | none =>
      rw [hs] at hfind
      have ht := Option.map_eq_none_iff.1 hfind.symm
      rw [ht]
      exact ⟨rfl, h⟩
    | some candidate =>
      rw [hs] at hfind
      obtain ⟨candidate', ht, hcandidate⟩ := Option.map_eq_some_iff.1 hfind.symm
      obtain ⟨hreport, hworld⟩ := h.world.resolve h.setting hcandidate.symm
      rw [ht]
      exact ⟨congrArg Answer.report hreport, h.moveOn hworld⟩
  · exact ⟨rfl, h⟩

theorem timePasses [RandomSource G] (h : s.Alike t) :
    ((Answer.ofExcept Answer.turn s.timePasses.1).wordless =
        (Answer.ofExcept Answer.turn t.timePasses.1).wordless) ∧
      s.timePasses.2.Alike t.timePasses.2 := by
  have hactive : s.life.isActive = t.life.isActive := h.world.isActive
  have hphase : s.life.phase = t.life.phase :=
    Life.eq_of_alike Life.phase (fun _ ↦ rfl) h.world.life
  rw [Session.timePasses, Session.timePasses, hactive, hphase]
  split
  · obtain ⟨hturn, hworld⟩ := h.world.passTime h.setting
    exact ⟨congrArg Answer.turn hturn, h.openOffer hturn hworld⟩
  · exact ⟨rfl, h.moveOn h.world⟩

theorem reset [RandomSource G] (h : s.Alike t) (talents : List String) :
    (s.reset talents).Alike (t.reset talents) := by
  have hbegun := h.world.scene.begin h.setting.catalog s.setting.config.logCapacity talents
  rw [Session.reset, Session.reset, ← h.setting.config]
  exact h.moveOn (h.world.setScene hbegun)

variable [SeededSource G]

/-- **Alike sessions answer every call alike.** -/
theorem call (h : s.Alike t) (c : Call) : AlikeAnswer (s.call c) (t.call c) := by
  match c with
  | .move .runTurn => exact ⟨congrArg Answer.report h.runTurn.1, h.runTurn.2⟩
  | .move (.runUntilOver turns) =>
    exact ⟨congrArg Answer.reports (h.runUntilOver turns).1, (h.runUntilOver turns).2⟩
  | .move .beginManual =>
    obtain ⟨hturn, hworld⟩ := h.world.beginManual h.setting
    exact ⟨congrArg Answer.turn hturn, h.openOffer hturn hworld⟩
  | .move (.choose id) => exact h.choose id
  | .move .timePasses => exact h.timePasses
  | .move (.triggerEnding ending) =>
    obtain ⟨hclosed, hworld⟩ :=
      h.world.onScene (h.world.scene.triggerEnding h.setting.catalog ending)
    exact ⟨congrArg Answer.closed hclosed, h.moveOn hworld⟩
  | .move (.reseed seed) =>
    exact ⟨rfl, h.setting, ⟨h.world.life, h.world.sink, rfl, rfl, rfl, rfl⟩, h.pending⟩
  | .reset talents => exact ⟨rfl, h.reset talents⟩

/-- Alike sessions answer alike whatever they are asked, and stay alike. -/
theorem play (h : s.Alike t) (calls : List Call) :
    (s.play calls).1.map Answer.wordless = (t.play calls).1.map Answer.wordless ∧
      (s.play calls).2.Alike (t.play calls).2 := by
  induction calls generalizing s t with
  | nil => exact ⟨rfl, h⟩
  | cons c rest ih =>
    obtain ⟨hanswer, hnext⟩ := h.call c
    obtain ⟨hanswers, hlast⟩ := ih hnext
    refine ⟨?_, hlast⟩
    rw [play_cons, play_cons, List.map_cons, List.map_cons, hanswer, hanswers]

end Alike

variable [Scalar R] [AchievementSink A] [SeededSource G]

/-- **Words never matter.** Take two catalogs that differ in words alone, and begin from one life,
one sink and streams of which the text streams may be any. After any calls, a reset among them as
well, all answers are the same but for words, and so are the lives, the sinks, the offers, and the
streams of events, choices and results with all that was drawn from them. -/
theorem words_never_matter {c d : Catalog R} (h : c.wordless = d.wordless) (config : Config R)
    (life : Life R) (sink : A) (streams : Streams G) (text : Counted G) (calls : List Call) :
    let told := (idle ⟨c, config⟩ ⟨life, sink, streams⟩).play calls
    let retold := (idle ⟨d, config⟩ ⟨life, sink, { streams with text := text }⟩).play calls
    told.1.map Answer.wordless = retold.1.map Answer.wordless ∧ told.2.Alike retold.2 :=
  have hstart : (idle ⟨c, config⟩ ⟨life, sink, streams⟩ : Session R A G).Alike
      (idle ⟨d, config⟩ ⟨life, sink, { streams with text := text }⟩) :=
    ⟨⟨h, rfl⟩, ⟨rfl, rfl, rfl, rfl, rfl, rfl⟩, rfl⟩
  hstart.play calls

/-- A catalog of one event, which is told in the given words. -/
def strollCatalog (title text choice : String) : Catalog Float :=
  { Catalog.ofBase .empty with
    events := [⟨"stroll", title, text, [], [.plain (some "go") choice], [], none, false, false⟩] }

/-- A stroll goes the same way in rain and in sunshine. -/
theorem stroll_never_minds_the_words :
    let calls : List Call :=
      [.move .runTurn, .move .beginManual, .reset [], .move (.runUntilOver 9)]
    let rain : Session Float Ledger Xoshiro :=
      idle ⟨strollCatalog "Rain" "It pours." "Run", .default⟩
        ⟨Life.fresh 50, ⟨.empty, []⟩, .ofSeed 7⟩
    let sun : Session Float Ledger Xoshiro :=
      idle ⟨strollCatalog "" "A sunny day." "Walk", .default⟩
        ⟨Life.fresh 50, ⟨.empty, []⟩, { Streams.ofSeed 7 with text := .fresh (Xoshiro.ofSeed 8) }⟩
    (strollCatalog "Rain" "It pours." "Run").wordless =
        (strollCatalog "" "A sunny day." "Walk").wordless ∧
      (rain.play calls).2.Alike (sun.play calls).2 := by
  intro calls rain sun
  have hwords : (strollCatalog "Rain" "It pours." "Run").wordless =
      (strollCatalog "" "A sunny day." "Walk").wordless := rfl
  exact ⟨hwords, (words_never_matter hwords .default (Life.fresh 50) (⟨.empty, []⟩ : Ledger)
    (.ofSeed 7) (.fresh (Xoshiro.ofSeed 8)) calls).2⟩

end Session

end LifeStory
