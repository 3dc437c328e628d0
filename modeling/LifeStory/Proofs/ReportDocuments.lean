import LifeStory.Document.Report
import LifeStory.Proofs.ContentDocuments

/-!
# Reports that are read again

A report on a turn is written so that it is read as the same again (`TurnReport.reread`), and so is
a turn of the player with what it offers (`ManualTurn.reread`). Documents hold finite numbers only,
so the numbers in the records of draws have to be finite (`TurnReport.Finite`), and counters have to
be of the width that the fields of a document have (`TurnReport.Sized`). The choices that are
offered have to be settled, like all content that was read from a value.

An offered choice is known by an id, whose written form is read as the id again
(`CandidateId.ofText?_text`).
-/

namespace LifeStory

open Json

/-! ### Ids of offered choices -/

namespace CandidateId

/-- A hexadecimal digit does not begin the prefix of a longer written form. -/
theorem digitChar_ne {n : Nat} (h : n < 16) : Nat.digitChar n ≠ 'u' := by
  revert n
  decide

/-- A byte is made of its halves. -/
theorem halves_eq (byte : UInt8) : (byte.toNat / 16 * 16 + byte.toNat % 16).toUInt8 = byte := by
  rw [Nat.div_add_mod']
  exact UInt8.ofNat_toNat

/-- The digits of bytes are read as the bytes. -/
theorem bytes?_flatMap (bytes : List UInt8) : bytes? (bytes.flatMap byteDigits) = some bytes := by
  induction bytes with
  | nil => rfl
  | cons byte rest ih =>
    have hbyte : byte.toNat < 256 := byte.toNat_lt
    rw [List.flatMap_cons, byteDigits, List.cons_append, List.cons_append, List.nil_append, bytes?,
      Text.hexValue?_digitChar (by omega), Text.hexValue?_digitChar (by omega), ih]
    show some (_ :: rest) = _
    rw [halves_eq]

/-- **The written form of an id** is read as the id. -/
theorem ofText?_text (id : CandidateId) : ofText? id.text = some id := by
  obtain ⟨bytes, hlength⟩ := id
  match bytes, hlength with
  | [a, b, c, d, e, f, g, h, i, j, k, l, m, n, o, p], _ =>
    have hdigits := bytes?_flatMap [a, b, c, d, e, f, g, h, i, j, k, l, m, n, o, p]
    simp only [byteDigits, List.flatMap_cons, List.flatMap_nil, List.cons_append, List.nil_append,
      List.append_nil] at hdigits
    have hfirst : Nat.digitChar (a.toNat / 16) ≠ 'u' := by
      have hbyte : a.toNat < 256 := a.toNat_lt
      exact digitChar_ne (by omega)
    simp [ofText?, text, toChars, byteDigits, ofHyphenated?, ofDigits?, hdigits, hfirst.symm]

end CandidateId

/-! ### Records of draws -/

/-- All numbers of a candidate of a draw are finite. -/
structure Weighted.Finite (w : Weighted Float) : Prop where
  base : w.base.isFinite = true
  factors : ∀ f ∈ w.factors, f.value.isFinite = true
  weight : w.weight.isFinite = true

/-- All numbers of the record of a draw are finite. -/
structure Trace.Finite (t : Trace Float) : Prop where
  roll : t.roll.isFinite = true
  total : t.total.isFinite = true
  candidates : ∀ w ∈ t.candidates, w.Finite

instance (w : Weighted Float) : Decidable w.Finite :=
  decidable_of_iff (w.base.isFinite = true ∧ (∀ f ∈ w.factors, f.value.isFinite = true) ∧
    w.weight.isFinite = true) ⟨fun ⟨hbase, hfactors, hweight⟩ ↦ ⟨hbase, hfactors, hweight⟩,
      fun h ↦ ⟨h.base, h.factors, h.weight⟩⟩

instance (t : Trace Float) : Decidable t.Finite :=
  decidable_of_iff (t.roll.isFinite = true ∧ t.total.isFinite = true ∧
    ∀ w ∈ t.candidates, w.Finite) ⟨fun ⟨hroll, htotal, hcandidates⟩ ↦ ⟨hroll, htotal, hcandidates⟩,
      fun h ↦ ⟨h.roll, h.total, h.candidates⟩⟩

section Draws

variable {g : Json → Json}

theorem Factor.record?_toJson (hg : Rearranges g) {f : Factor Float}
    (h : f.value.isFinite = true) : record? Factor.fields (g f.toJson) = some f := by
  refine Fields.Finds.record hg (by simp) ?_
  unfold Factor.fields
  refine .bind (.read rfl (string?_string hg f.label)) ?_
  refine .bind (.read rfl (float?_ofFloat hg h)) ?_
  exact .pure f

theorem Weighted.record?_toJson (hg : Rearranges g) {w : Weighted Float} (h : w.Finite) :
    record? Weighted.fields (g w.toJson) = some w := by
  refine Fields.Finds.record hg (by simp) ?_
  unfold Weighted.fields
  refine .bind (.read rfl (string?_string hg w.id)) ?_
  refine .bind (.read rfl (float?_ofFloat hg h.base)) ?_
  refine .bind (.read rfl (list?_ofList hg fun f hf ↦ Factor.record?_toJson hg (h.factors f hf))) ?_
  refine .bind (.read rfl (float?_ofFloat hg h.weight)) ?_
  exact .pure w

/-- A record of a draw is read again, with its candidates, their factors and the roll. -/
theorem Trace.record?_toJson (hg : Rearranges g) {t : Trace Float} (h : t.Finite) :
    record? Trace.fields (g t.toJson) = some t := by
  refine Fields.Finds.record hg (by simp) ?_
  unfold Trace.fields
  refine .bind (.read rfl (string?_string hg t.pool)) ?_
  refine .bind (.read rfl (float?_ofFloat hg h.roll)) ?_
  refine .bind (.read rfl (float?_ofFloat hg h.total)) ?_
  refine .bind (.read rfl (list?_ofList hg fun w hw ↦
    Weighted.record?_toJson hg (h.candidates w hw))) ?_
  refine .bind (.read rfl (nullable?_ofOption hg (fun s _ ↦ string?_string hg s) rfl)) ?_
  exact .pure t

end Draws

/-! ### Reports -/

/-- All numbers of a report are finite; they are those of the records of draws. -/
def TurnReport.Finite (r : TurnReport Float) : Prop := ∀ t ∈ r.traces, t.Finite

instance (r : TurnReport Float) : Decidable r.Finite :=
  inferInstanceAs (Decidable (∀ t ∈ r.traces, t.Finite))

/-- All counters of a report are of their widths. -/
structure TurnReport.Sized {R : Type} (r : TurnReport R) : Prop where
  turn : r.turn ≤ Life.maxTurn
  bucket : ∀ position ∈ r.bucket, position ≤ Decimal.maxWord
  lineNumbers : ∀ e ∈ r.entries, e.seq ≤ Log.maxSeq
  lineTurns : ∀ e ∈ r.entries, e.turn ≤ Life.maxTurn

section Reports

variable {g : Json → Json}

theorem DebtChange.ofJson?_toJson (hg : Rearranges g) (d : DebtChange) :
    ofJson? (g d.toJson) = some d :=
  oneOf?_string hg (by cases d <;> rfl)

theorem DeathCause.ofJson?_toJson (hg : Rearranges g) (c : DeathCause) :
    ofJson? (g c.toJson) = some c :=
  oneOf?_string hg (by cases c <;> rfl)

theorem Phase.ofJson?_name (hg : Rearranges g) (p : Phase) :
    ofJson? (g (.string p.name)) = some p :=
  oneOf?_string hg (by cases p <;> rfl)

/-- **A report is read again**, with all its records. -/
theorem TurnReport.ofJson?_toJson (hg : Rearranges g) {r : TurnReport Float} (hsized : r.Sized)
    (hfinite : r.Finite) : ofJson? (g r.toJson) = some r := by
  refine Fields.Finds.record hg (by simp) ?_
  unfold TurnReport.fields
  refine .bind (.read rfl (natUpTo?_ofNat hg hsized.turn)) ?_
  refine .bind (.read rfl (Phase.ofJson?_name hg r.phase)) ?_
  refine .bind (.read rfl (nullable?_ofOption hg (fun s _ ↦ string?_string hg s) rfl)) ?_
  refine .bind (.read rfl (nullable?_ofOption hg (fun s _ ↦ string?_string hg s) rfl)) ?_
  refine .bind (.read rfl (nullable?_ofOption hg (fun n hn ↦
    natUpTo?_ofNat hg (hsized.bucket n hn)) rfl)) ?_
  refine .bind (.read rfl (nullable?_ofOption hg (fun d _ ↦ DebtChange.ofJson?_toJson hg d) rfl)) ?_
  refine .bind (.read rfl (nullable?_ofOption hg (fun c _ ↦ DeathCause.ofJson?_toJson hg c) rfl)) ?_
  refine .bind (.read rfl (list?_ofList hg fun t ht ↦ Trace.record?_toJson hg (hfinite t ht))) ?_
  refine .bind (.read rfl (list?_ofList hg fun e he ↦
    LogEntry.record?_toJson hg (hsized.lineNumbers e he) (hsized.lineTurns e he))) ?_
  exact .pure r

/-- **A report is read again as it is written.** -/
theorem TurnReport.reread {r : TurnReport Float} (hsized : r.Sized) (hfinite : r.Finite) :
    Reread ofJson? toJson r :=
  .of_arranges fun hg ↦ ofJson?_toJson hg.toRearranges hsized hfinite

end Reports

/-! ### Offers -/

section Offers

variable {g : Json → Json}

theorem Origin.record?_toJson (hg : Rearranges g) (o : Origin) :
    record? Origin.fields (g o.toJson) = some o := by
  refine Fields.Finds.record hg (by simp) ?_
  unfold Origin.fields
  refine .bind (.read rfl (string?_string hg o.id)) ?_
  refine .bind (.read rfl (string?_string hg o.title)) ?_
  refine .bind (.read rfl (string?_string hg o.text)) ?_
  exact .pure o

/-- A candidate is read again under its name, with the choice that is settled. -/
theorem Candidate.ofJson?_toJson (hg : Arranges g) {c : Candidate Float} (h : c.choice.Settled) :
    ofJson? (g c.toJson) = some c := by
  have hr := hg.toRearranges
  have hid : CandidateId.ofJson? (g (.string c.id.text)) = some c.id := by
    rw [CandidateId.ofJson?, string?_string hr, Option.bind_some, CandidateId.ofText?_text]
  refine Fields.Finds.record hr (by simp) ?_
  unfold Candidate.fields
  refine .bind (.read rfl hid) ?_
  refine .bind (.read rfl (Choice.ofJson?_toJson hg h)) ?_
  refine .bind (.read rfl (Origin.record?_toJson hr c.origin)) ?_
  exact .pure c

namespace Offer

variable {given written : List (String × Json)} {key : String}

/-- The fields under one key are those that are found under it. -/
theorem filter_eq_named (given : List (String × Json)) (key : String) :
    (given.filter fun f ↦ f.1 = key) = Fields.named [key] given := by
  simp only [Fields.named, List.mem_singleton]

/-- A field that was written is given once. -/
theorem single?_of_written (hgiven : given.Perm (written.map (Prod.map id g))) {j : Json}
    (hwritten : Fields.named [key] written = [(key, j)]) :
    single? given key = some (some (g j)) := by
  have hfound := Fields.named_perm [key] hgiven
  rw [hwritten] at hfound
  rw [single?, filter_eq_named, List.perm_singleton.1 hfound]
  rfl

/-- A field that was not written is not found. -/
theorem single?_of_absent (hgiven : given.Perm (written.map (Prod.map id g)))
    (hwritten : Fields.named [key] written = []) : single? given key = some none := by
  have hfound := Fields.named_perm [key] hgiven
  rw [hwritten] at hfound
  rw [single?, filter_eq_named, List.perm_nil.1 hfound]

/-- A kind and what may be written with it are found, in whatever order they stand. -/
theorem ofJson?_object (hg : Rearranges g) (kind : Kind) (content : Option Json) :
    ofJson? (g (.object (("kind", .string kind.name) :: fieldIfSome "candidates" id content))) =
      ofKind? kind (content.map g) := by
  have hkeys : ((("kind", Json.string kind.name) :: fieldIfSome "candidates" id content).map
      Prod.fst).Nodup := by cases content <;> simp [fieldIfSome]
  obtain ⟨given, hobject, hgiven⟩ := hg.object _ hkeys
  have hkind : oneOf? Kind.name Kind.all (g (.string kind.name)) = some kind :=
    oneOf?_string hg (by cases kind <;> rfl)
  have hcontent : single? given "candidates" = some (content.map g) := by
    cases content with
    | none => exact single?_of_absent hgiven rfl
    | some j => exact single?_of_written hgiven rfl
  rw [hobject, ofJson?, single?_of_written (j := .string kind.name) hgiven (by simp), hcontent]
  simp [hkind]

/-- **An offer is read as it was written**, whatever its kind. -/
theorem ofJson?_toJson (hg : Arranges g) {offer : Offer Float}
    (h : ∀ c ∈ offer.pending, c.choice.Settled) : ofJson? (g offer.toJson) = some offer := by
  have hr := hg.toRearranges
  cases offer with
  | candidates offered =>
    have hoffered : list? Candidate.ofJson? (g (ofList Candidate.toJson offered)) = some offered :=
      list?_ofList hr fun c hc ↦ Candidate.ofJson?_toJson hg (h c hc)
    refine (ofJson?_object hr .candidates (some (ofList Candidate.toJson offered))).trans ?_
    rw [Option.map_some, ofKind?, hoffered]
    rfl
  | timePasses => exact ofJson?_object hr .timePasses none
  | runOver => exact ofJson?_object hr .runOver none

end Offer

theorem ManualTurn.ofJson?_toJson (hg : Arranges g) {t : ManualTurn Float} (hsized : t.report.Sized)
    (hfinite : t.report.Finite) (hoffer : ∀ c ∈ t.offer.pending, c.choice.Settled) :
    ofJson? (g t.toJson) = some t := by
  have hr := hg.toRearranges
  refine Fields.Finds.record hr (by simp) ?_
  unfold ManualTurn.fields
  refine .bind (.read rfl (TurnReport.ofJson?_toJson hr hsized hfinite)) ?_
  refine .bind (.read rfl (Offer.ofJson?_toJson hg hoffer)) ?_
  exact .pure t

/-- **A turn of the player is read again as it is written**, with what it offers. -/
theorem ManualTurn.reread {t : ManualTurn Float} (hsized : t.report.Sized)
    (hfinite : t.report.Finite) (hoffer : ∀ c ∈ t.offer.pending, c.choice.Settled) :
    Reread ofJson? toJson t :=
  .of_arranges fun hg ↦ ofJson?_toJson hg hsized hfinite hoffer

end Offers

end LifeStory
