import LifeStory.Document.Life
import LifeStory.Proofs.Records

/-!
# Saves

A save gives back the life that it was made of, with every field (`Life.save_restores`). The numbers
of the life have to be finite, for documents hold no others, and its counters have to be of the
width that the fields of a save have (`Life.Sized`).
-/

namespace LifeStory

open Json

/-! ### Lives that can be saved -/

/-- The number of a variable, if it is one, is finite. -/
def Variable.Finite : Variable Float → Prop
  | .number value => value.isFinite = true
  | _ => True

instance : DecidablePred Variable.Finite
  | .flag _ => .isTrue trivial
  | .number value => inferInstanceAs (Decidable (value.isFinite = true))
  | .text _ => .isTrue trivial

/-- All numbers of a life are finite. -/
structure Life.Finite (life : Life Float) : Prop where
  stats : ∀ stat, (life.stats.get stat).isFinite = true
  customStats : ∀ e ∈ life.customStats.entries, e.2.isFinite = true
  vars : ∀ e ∈ life.vars.entries, e.2.Finite
  multipliers : ∀ e ∈ life.multipliers.entries, e.2.isFinite = true
  tagOdds : ∀ e ∈ life.tagOdds.entries, e.2.isFinite = true
  modifiers : ∀ m ∈ life.eventModifiers, m.multiplier.isFinite = true

/-- All counters of a life are of their widths. -/
structure Life.Sized (life : Life Float) : Prop where
  turn : life.turn ≤ Life.maxTurn
  statuses : ∀ s ∈ life.statuses, IsInt32 s.remaining
  modifiers : ∀ m ∈ life.eventModifiers, IsInt32 m.remaining
  lineTurns : ∀ e ∈ life.log.entries, e.turn ≤ Life.maxTurn
  lineNumbers : ∀ e ∈ life.log.entries, e.seq ≤ Log.maxSeq
  capacity : life.log.capacity ≤ Log.maxSeq
  nextSeq : life.log.nextSeq ≤ Log.maxSeq

/-! ### Parts of a life -/

section Parts

variable {g : Json → Json}

/-- A variable is read again as what it is: a flag, a finite number or a text. -/
theorem Variable.ofJson?_toJson (hg : Rearranges g) {v : Variable Float} (h : v.Finite) :
    ofJson? (g v.toJson) = some v := by
  cases v with
  | flag value =>
    rw [toJson, hg.bool]
    rfl
  | number value =>
    have hfinite : value.isFinite = true := h
    rw [toJson, ofFloat, if_pos hfinite, hg.real]
    rfl
  | text value =>
    rw [toJson, hg.string]
    rfl

/-- Finite stats are read again, each under its name. -/
theorem Stats.record?_toJson (hg : Rearranges g) {stats : Stats Float}
    (h : ∀ stat, (stats.get stat).isFinite = true) :
    record? Stats.fields (g stats.toJson) = some stats := by
  have hkeys : (CoreStat.all.map CoreStat.name).Nodup := by decide
  refine Fields.Finds.record hg hkeys ?_
  unfold Stats.fields
  refine .bind (.read rfl (float?_ofFloat hg (h .health))) ?_
  refine .bind (.read rfl (float?_ofFloat hg (h .sanity))) ?_
  refine .bind (.read rfl (float?_ofFloat hg (h .money))) ?_
  refine .bind (.read rfl (float?_ofFloat hg (h .logic))) ?_
  refine .bind (.read rfl (float?_ofFloat hg (h .gnosis))) ?_
  refine .bind (.read rfl (float?_ofFloat hg (h .weirdness))) ?_
  refine .bind (.read rfl (float?_ofFloat hg (h .irony))) ?_
  refine .bind (.read rfl (float?_ofFloat hg (h .fame))) ?_
  refine .bind (.read rfl (float?_ofFloat hg (h .anonymity))) ?_
  refine .bind (.read rfl (float?_ofFloat hg (h .exposure))) ?_
  refine .bind (.read rfl (float?_ofFloat hg (h .age))) ?_
  exact .pure stats

/-- A status effect is read again, for every duration that fits its field. -/
theorem ActiveStatus.record?_toJson (hg : Rearranges g) {s : ActiveStatus}
    (h : IsInt32 s.remaining) : record? ActiveStatus.fields (g s.toJson) = some s := by
  refine Fields.Finds.record hg (by simp) ?_
  unfold ActiveStatus.fields
  refine .bind (.read rfl (string?_string hg s.id)) ?_
  refine .bind (.read rfl (int32?_int hg h)) ?_
  exact .pure s

/-- An event modifier is read again, if its multiplier is finite and its duration fits its field. -/
theorem EventModifier.record?_toJson (hg : Rearranges g) {m : EventModifier Float}
    (hfinite : m.multiplier.isFinite = true) (hsized : IsInt32 m.remaining) :
    record? EventModifier.fields (g m.toJson) = some m := by
  refine Fields.Finds.record hg (by simp) ?_
  unfold EventModifier.fields
  refine .bind (.read rfl (string?_string hg m.event)) ?_
  refine .bind (.read rfl (float?_ofFloat hg hfinite)) ?_
  refine .bind (.read rfl (int32?_int hg hsized)) ?_
  exact .pure m

theorem TalentRef.record?_toJson (hg : Rearranges g) (t : TalentRef) :
    record? TalentRef.fields (g t.toJson) = some t := by
  refine Fields.Finds.record hg (by simp) ?_
  unfold TalentRef.fields
  refine .bind (.read rfl (string?_string hg t.id)) ?_
  refine .bind (.read rfl (string?_string hg t.name)) ?_
  exact .pure t

/-- A kind of line is found under its name. -/
theorem LogKind.find?_name (kind : LogKind) :
    LogKind.all.find? (fun k ↦ k.name = kind.name) = some kind := by
  cases kind <;> rfl

/-- A line is read as it was written; a title that it does not have was left out. -/
theorem LogEntry.record?_toJson (hg : Rearranges g) {e : LogEntry} (hseq : e.seq ≤ Log.maxSeq)
    (hturn : e.turn ≤ Life.maxTurn) : record? LogEntry.fields (g e.toJson) = some e := by
  refine Fields.Finds.record hg (by cases e.title <;> simp [fieldIfSome]) ?_
  unfold LogEntry.fields
  refine .bind (.read (by simp) (natUpTo?_ofNat hg hseq)) ?_
  refine .bind (.read (by simp) (natUpTo?_ofNat hg hturn)) ?_
  refine .bind (.read (by simp) (oneOf?_string hg (LogKind.find?_name e.kind))) ?_
  refine .bind (.maybe e.title (by simp) (fun s _ ↦ string?_string hg s) rfl) ?_
  refine .bind (.read (by simp) (string?_string hg e.text)) ?_
  exact .pure e

end Parts

/-! ### Lives -/

namespace Life

theorem ofJson?_rearranged {g : Json → Json} (hg : Rearranges g) {life : Life Float}
    (hsized : life.Sized) (hfinite : life.Finite) : ofJson? (g life.toJson) = some life := by
  have hfloats : ∀ {map : StringMap Float}, (∀ e ∈ map.entries, e.2.isFinite = true) →
      stringMap? float? (g (ofStringMap .ofFloat map)) = some map :=
    fun h ↦ stringMap?_ofStringMap hg fun e he ↦ float?_ofFloat hg (h e he)
  refine Fields.Finds.record hg (by simp [stateFields, Log.toFields]) ?_
  unfold fieldsOver
  refine .bind (.read rfl (Stats.record?_toJson hg hfinite.stats)) ?_
  refine .bind (.read rfl (hfloats hfinite.customStats)) ?_
  refine .bind (.read rfl (stringMap?_ofStringMap hg fun e he ↦
    Variable.ofJson?_toJson hg (hfinite.vars e he))) ?_
  refine .bind (.read rfl (bool?_bool hg life.alive)) ?_
  refine .bind (.read rfl (nullable?_ofOption hg (fun s _ ↦ string?_string hg s) rfl)) ?_
  refine .bind (.read rfl (bool?_bool hg life.ended)) ?_
  refine .bind (.read rfl (natUpTo?_ofNat hg hsized.turn)) ?_
  refine .bind (.read rfl (hfloats hfinite.multipliers)) ?_
  refine .bind (.read rfl (list?_ofList hg fun s hs ↦
    ActiveStatus.record?_toJson hg (hsized.statuses s hs))) ?_
  refine .bind (.read rfl (list?_ofStrings hg life.inventory)) ?_
  refine .bind (.read rfl (list?_ofStrings hg life.tags)) ?_
  refine .bind (.read rfl (list?_ofList hg fun t _ ↦ TalentRef.record?_toJson hg t)) ?_
  refine .bind (.read rfl (stringSet?_ofStringSet hg life.triggered)) ?_
  refine .bind (.read rfl (stringSet?_ofStringSet hg life.unlocked)) ?_
  refine .bind (.read rfl (stringSet?_ofStringSet hg life.chosen)) ?_
  refine .bind (.read rfl (hfloats hfinite.tagOdds)) ?_
  refine .bind (.read rfl (list?_ofList hg fun m hm ↦
    EventModifier.record?_toJson hg (hfinite.modifiers m hm) (hsized.modifiers m hm))) ?_
  refine .bind ?_ (.pure life)
  refine .bind (.read rfl (list?_ofList hg fun e he ↦
    LogEntry.record?_toJson hg (hsized.lineNumbers e he) (hsized.lineTurns e he))) ?_
  refine .bind (.read rfl (natUpTo?_ofNat hg hsized.capacity)) ?_
  refine .bind (.read rfl (natUpTo?_ofNat hg hsized.nextSeq)) ?_
  exact .pure life.log

/-- **A save gives back the life** that it was made of, whether its fields stand in the order in
which they are written or in key order. -/
theorem save_restores {life : Life Float} (hsized : life.Sized) (hfinite : life.Finite) :
    ofJson? life.toJson = some life ∧ ofJson? life.toJson.canonical = some life :=
  ⟨ofJson?_rearranged rearranges_id hsized hfinite,
    ofJson?_rearranged rearranges_canonical hsized hfinite⟩

/-- A life with a number, a text that looks like one, and a line without a title. -/
def saved : Life Float :=
  { Life.fresh 50 with
    vars := .ofList [("luck", .number 0.5), ("street", .text "12"), ("met", .flag true)]
    statuses := [⟨"flu", -1⟩]
    eventModifiers := [⟨"party", 2.0, 3⟩]
    triggered := .ofNames ["birth"]
    log := ⟨[⟨7, 3, .system, none, "Nothing happens."⟩], 50, 8⟩ }

theorem save_restores_saved :
    saved.Sized ∧ saved.Finite ∧
      ofJson? saved.toJson = some saved ∧ ofJson? saved.toJson.canonical = some saved := by
  have hsized : saved.Sized := by constructor <;> decide
  have hfinite : saved.Finite := by
    refine ⟨fun stat ↦ ?_, ?_, ?_, ?_, ?_, ?_⟩
    · cases stat <;> decide +kernel
    all_goals decide +kernel
  exact ⟨hsized, hfinite, save_restores hsized hfinite⟩

end Life

end LifeStory
