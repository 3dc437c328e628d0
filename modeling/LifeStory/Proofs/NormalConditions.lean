import LifeStory.Document.Condition
import LifeStory.Proofs.FiniteNumbers
import LifeStory.Proofs.Records

/-!
# Conditions that are read again

Every value is a condition. One that cannot be understood is kept as it is; one that can is brought
to a normal form (`Condition.Normal`), which is read as it was written (`Condition.record?_params`).
So to read, write and read again is to read once, for conditions (`Condition.normalized`) as for
whatever else is held by type and parameters (`Json.IsValue.normalized`).
-/

namespace LifeStory

open Json

/-! ### Symbols of comparisons -/

namespace Text

/-- A character that is not blank keeps its place, and what follows it is trimmed. -/
theorem dropBlankEnd_cons_of_not_blank {c : Char} (h : ¬ isBlank c = true) (cs : List Char) :
    dropBlankEnd (c :: cs) = c :: dropBlankEnd cs := by
  rw [dropBlankEnd]
  split
  · next hnil => rw [if_neg h, hnil]
  · rfl

/-- Nothing more is taken off an end that has no blanks. -/
theorem dropBlankEnd_dropBlankEnd (cs : List Char) :
    dropBlankEnd (dropBlankEnd cs) = dropBlankEnd cs := by
  induction cs with
  | nil => rfl
  | cons c cs ih =>
    rw [dropBlankEnd]
    split
    · next hnil =>
      split
      · rfl
      · next hblank => rw [dropBlankEnd_cons_of_not_blank hblank, dropBlankEnd]
    · next rest hne =>
      rw [dropBlankEnd, ih]
      split
      · next hnil => exact absurd hnil hne
      · rfl

theorem trimChars_trimChars (cs : List Char) : trimChars (trimChars cs) = trimChars cs := by
  rw [trimChars, trimChars]
  cases hfirst : cs.dropWhile isBlank with
  | nil => rfl
  | cons c rest =>
    have hne : cs.dropWhile isBlank ≠ [] := by
      rw [hfirst]
      exact List.cons_ne_nil c rest
    have hblank : ¬ isBlank c = true := by
      have hhead := List.head_dropWhile_not isBlank hne
      simp only [hfirst, List.head_cons] at hhead
      exact ne_true_of_eq_false hhead
    rw [dropBlankEnd_cons_of_not_blank hblank, List.dropWhile_cons_of_neg hblank,
      dropBlankEnd_cons_of_not_blank hblank, dropBlankEnd_dropBlankEnd]

/-- Trimming takes nothing more off a trimmed text. -/
theorem trim_trim (s : String) : trim (trim s) = trim s := by
  rw [trim, trim, String.toList_ofList, trimChars_trimChars]

end Text

namespace Comparison

/-- A symbol is understood with blanks around it. -/
theorem ofSymbol_trim (s : String) : ofSymbol (Text.trim s) = ofSymbol s := by
  rw [ofSymbol, Text.trim_trim]
  rfl

/-- A comparison is written with a symbol that stands for it. -/
def Normal (op : Comparison) : Prop := ofSymbol op.symbol = op

/-- A comparison that was read is written with a symbol that stands for it. -/
theorem normal_ofSymbol (s : String) : (ofSymbol s).Normal := by
  cases h : ofSymbol s with
  | unsupported other =>
    have hother : other = Text.trim s := by
      rw [ofSymbol] at h
      split at h
      all_goals first | cases h; done | exact (Comparison.unsupported.inj h).symm
    rw [Normal, symbol, hother, ofSymbol_trim, h, hother]
  | _ => rfl

end Comparison

/-! ### Values that are written -/

namespace Json

/-- Fields of values that follow one another are fields of values. -/
theorem isValue_of_append {first second : List (String × Json)}
    (hfirst : ∀ field ∈ first, field.2.IsValue) (hsecond : ∀ field ∈ second, field.2.IsValue) :
    ∀ field ∈ first ++ second, field.2.IsValue :=
  List.forall_mem_append.2 ⟨hfirst, hsecond⟩

theorem isValue_of_singleton {name : String} {j : Json} (h : j.IsValue) :
    ∀ field ∈ [(name, j)], field.2.IsValue :=
  List.forall_mem_singleton.2 h

/-- A finite number is written as a value. -/
theorem isValue_ofFloat {x : Float} (h : x.isFinite = true) : (ofFloat x).IsValue := by
  rw [ofFloat, if_pos h]
  exact .real h

/-- A field that may be left out has a value if it is there. -/
theorem isValue_fieldIfSome {α : Type} {name : String} {encode : α → Json} {o : Option α}
    (h : ∀ a ∈ o, (encode a).IsValue) : ∀ field ∈ fieldIfSome name encode o, field.2.IsValue := by
  intro field hfield
  cases o with
  | none => cases hfield
  | some a =>
    obtain rfl := List.mem_singleton.1 hfield
    exact h a rfl

/-- What is held by type and parameters is a value if its parameters are one. -/
theorem isValue_ofTyped {type : String} {params : Json} (h : params.IsValue) :
    (ofTyped type params).IsValue := by
  refine .object fun field hfield ↦ ?_
  rcases List.mem_cons.1 hfield with rfl | hfield
  · exact h
  · obtain rfl := List.mem_singleton.1 hfield
    exact .string type

/-- The parameters of a value are a value. -/
theorem IsValue.of_typed? {j params : Json} {type : String} (hj : j.IsValue)
    (h : j.typed? = some (type, params)) : params.IsValue := by
  have hparams : j.get? "params" = some params := by
    rw [typed?] at h
    split at h
    · cases h
    · next hget =>
      obtain ⟨-, rfl⟩ := Prod.mk.inj (Option.some.inj h)
      exact hget
    · cases h
  cases hj with
  | object hfields =>
    obtain ⟨field, hfield, rfl⟩ := Option.map_eq_some_iff.1 hparams
    exact hfields field (List.mem_of_find?_eq_some hfield)
  | _ => cases hparams

/-- A type and parameters are found again. -/
theorem typed?_canonical_ofTyped {type : String} {params : Json} (h : params.canonical ≠ .null) :
    (ofTyped type params).canonical.typed? = some (type, params.canonical) := by
  have horder : (ofTyped type params).canonical = ofTyped type params.canonical := by
    have hlt : ¬ "type" < "params" := by decide
    simp [ofTyped, canonical_object, Entries.insertAll, Entries.insert, hlt,
      rearranges_canonical.string]
  rw [horder]
  generalize params.canonical = arranged at h ⊢
  cases arranged with
  | null => exact absurd rfl h
  | _ => rfl

/-- What is written with a type and parameters is read by type from the parameters. -/
theorem bind_typed?_ofTyped {α : Type} {read : String × Json → Option α} {type : String}
    {params : Json} {a : α} (h : read (type, params.canonical) = some a)
    (hnull : read (type, .null) = none) : (ofTyped type params).canonical.typed?.bind read = some a
    := by
  have hparams : params.canonical ≠ .null := by
    intro heq
    rw [heq, hnull] at h
    cases h
  rw [typed?_canonical_ofTyped hparams, Option.bind_some, h]

/-- A value of a document is taken in key order. -/
theorem IsValue.value? {j : Json} (h : j.IsValue) : j.value? = some j.canonical := by
  rw [Json.value?, if_pos h.isReadable]

/-- **A value is normalized once** if what is read of it has a normal form that is read as it was
written, or is kept as it is. -/
theorem IsValue.normalized {α : Type} {ofValue unknown : Json → α} {toJson : α → Json}
    {Normal : α → Prop} {j : Json} (hj : j.IsValue)
    (hcases : ∀ {j : Json}, j.IsValue → Normal (ofValue j) ∨ ofValue j = unknown j)
    (hnormal : ∀ {a : α}, Normal a → (toJson a).value?.map ofValue = some a)
    (hunknown : ∀ raw, toJson (unknown raw) = raw) :
    ∃ a, j.value?.map ofValue = some a ∧ (toJson a).value?.map ofValue = some a ∧
      (Normal a ∨ a = unknown j.canonical) := by
  have hread : j.value?.map ofValue = some (ofValue j.canonical) := by
    rw [hj.value?, Option.map_some]
  refine ⟨ofValue j.canonical, hread, ?_, hcases hj.canonical⟩
  rcases hcases hj.canonical with hform | hkept
  · exact hnormal hform
  · rw [hkept, hunknown, hj.canonical.value?, hj.canonical_canonical, Option.map_some, hkept]

end Json

/-! ### Conditions -/

namespace Condition

/-- A condition that was understood, with a comparison that is written as it was understood and
with a finite number. -/
def Normal : Condition Float → Prop
  | stat _ op value | carried _ op value _ =>
    (∀ c ∈ op, c.Normal) ∧ ∀ x ∈ value, x.isFinite = true
  | unknown _ => False
  | _ => True

theorem comparison?_normal {j : Json} {op : Comparison} (h : comparison? j = some op) :
    op.Normal := by
  obtain ⟨s, -, rfl⟩ := Option.map_eq_some_iff.1 h
  exact Comparison.normal_ofSymbol s

/-- A condition on a stat that is read has a finite number and a comparison that was understood. -/
theorem statFields_ensures : statFields.Ensures Normal := by
  refine .bind .read_any fun name _ ↦ ?_
  refine .bind (.maybe fun _ _ _ h ↦ comparison?_normal h) fun op hop ↦ ?_
  refine .bind (.maybe fun _ _ hj h ↦ hj.isFinite_of_float? h) fun value hvalue ↦ ?_
  exact .pure ⟨hop, hvalue⟩

/-- A condition on something carried that is read is normal. -/
theorem carriedFields_ensures : carriedFields.Ensures Normal := by
  refine .bind .read_any fun key _ ↦ ?_
  refine .bind (.maybe fun _ _ _ h ↦ comparison?_normal h) fun op hop ↦ ?_
  refine .bind (.maybe fun _ _ hj h ↦ hj.isFinite_of_float? h) fun value hvalue ↦ ?_
  refine .bind .read_any fun present _ ↦ ?_
  exact .pure ⟨hop, hvalue⟩

theorem singleField_ensures {make : String → Condition Float} (h : ∀ s, (make s).Normal)
    (name : String) : (singleField name make).Ensures Normal :=
  .bind .read_any fun s _ ↦ .pure (h s)

theorem presenceFields_ensures {make : Presence → Condition Float} (h : ∀ p, (make p).Normal)
    (has hasNot : String) : (make <$> presenceFields has hasNot).Ensures Normal := by
  refine .map (P := fun _ ↦ True) ?_ fun p _ ↦ h p
  refine .bind .read_any fun has _ ↦ ?_
  refine .bind .read_any fun hasNot _ ↦ ?_
  exact .pure trivial

/-- What is read of a type that is known is normal. -/
theorem fields?_ensures {type : String} {fields : Fields (Condition Float)}
    (h : fields? type = some fields) : fields.Ensures Normal := by
  unfold fields? at h
  split at h <;> cases h
  · exact statFields_ensures
  · exact singleField_ensures (fun _ ↦ by trivial) _
  · exact presenceFields_ensures (fun _ ↦ by trivial) _ _
  · exact presenceFields_ensures (fun _ ↦ by trivial) _ _
  · exact presenceFields_ensures (fun _ ↦ by trivial) _ _
  · exact singleField_ensures (fun _ ↦ by trivial) _
  · exact presenceFields_ensures (fun _ ↦ by trivial) _ _
  · exact presenceFields_ensures (fun _ ↦ by trivial) _ _
  · exact carriedFields_ensures
  · exact singleField_ensures (fun _ ↦ by trivial) _
  · exact singleField_ensures (fun _ ↦ by trivial) _

/-- A value is read by its type, and kept as it is if that fails at any step. -/
theorem ofValue_eq (j : Json) :
    ofValue j = (j.typed?.bind fun typed ↦ (fields? typed.1).bind fun fields ↦
      record? fields typed.2).getD (unknown j) :=
  rfl

/-- A value is a condition that was understood, or one that is kept as it is. -/
theorem ofValue_cases {j : Json} (hj : j.IsValue) : (ofValue j).Normal ∨ ofValue j = unknown j := by
  rw [ofValue_eq]
  cases hknown : j.typed?.bind fun typed ↦ (fields? typed.1).bind fun fields ↦
    record? fields typed.2 with
  | none => exact .inr rfl
  | some condition =>
    obtain ⟨typed, htyped, hfields⟩ := Option.bind_eq_some_iff.1 hknown
    obtain ⟨fields, htype, hread⟩ := Option.bind_eq_some_iff.1 hfields
    exact .inl ((fields?_ensures htype).record (hj.of_typed? htyped) hread)

section Written

variable {g : Json → Json}

/-- The symbol of a normal comparison is understood as that comparison. -/
theorem comparison?_symbol (hg : Rearranges g) {op : Comparison} (h : op.Normal) :
    comparison? (g (.string op.symbol)) = some op := by
  rw [comparison?, string?_string hg, Option.map_some, h]

/-- A condition with one field is read again. -/
theorem record?_single (hg : Rearranges g) {make : String → Condition Float} (name s : String) :
    record? (singleField name make) (g (.object [(name, .string s)])) = some (make s) := by
  refine Fields.Finds.record hg (by simp) ?_
  refine .bind (.read (by simp) (string?_string hg s)) ?_
  exact .pure (make s)

theorem finds_presence (hg : Rearranges g) {make : Presence → Condition Float}
    {has hasNot : String} {written : List (String × Json)} {p : Presence}
    (hhas : Fields.named [has] written = fieldIfSome has .string p.has)
    (hhasNot : Fields.named [hasNot] written = fieldIfSome hasNot .string p.hasNot) :
    Fields.Finds g (make <$> presenceFields has hasNot) written (make p) := by
  refine .map make ?_
  refine .bind (.maybe p.has hhas (fun s _ ↦ string?_string hg s) rfl) ?_
  refine .bind (.maybe p.hasNot hhasNot (fun s _ ↦ string?_string hg s) rfl) ?_
  exact .pure p

/-- A condition on what a life has and has not is read again. -/
theorem record?_presence (hg : Rearranges g) {make : Presence → Condition Float} (p : Presence) :
    record? (presence make) (g (presenceParams "has" "has_not" p)) = some (make p) := by
  refine Fields.Finds.record hg ?_ (finds_presence hg (by simp) (by simp))
  cases p.has <;> cases p.hasNot <;> simp [fieldIfSome]

/-- **A normal condition** is read as it was written. -/
theorem record?_params (hg : Rearranges g) {condition : Condition Float} (h : condition.Normal) :
    ∃ type fields, condition.typeName? = some type ∧ fields? type = some fields ∧
      record? fields (g condition.params) = some condition := by
  cases condition with
  | stat name op value =>
    refine ⟨_, _, rfl, rfl, Fields.Finds.record hg ?_ ?_⟩
    · cases op <;> cases value <;> simp [comparisonField, fieldIfSome]
    refine .bind (.read (by simp [comparisonField]) (string?_string hg name)) ?_
    refine .bind (.maybe op (by simp [comparisonField])
      (fun c hc ↦ comparison?_symbol hg (h.1 c hc)) rfl) ?_
    refine .bind (.maybe value (by simp [comparisonField])
      (fun x hx ↦ float?_ofFloat hg (h.2 x hx)) rfl) ?_
    exact .pure _
  | worldview dominant => exact ⟨_, _, rfl, rfl, record?_single hg _ dominant⟩
  | status check => exact ⟨_, _, rfl, rfl, record?_presence hg check⟩
  | event check =>
    refine ⟨_, _, rfl, rfl, Fields.Finds.record hg ?_ (finds_presence hg (by simp) (by simp))⟩
    cases check.has <;> cases check.hasNot <;> simp [fieldIfSome]
  | inventory check => exact ⟨_, _, rfl, rfl, record?_presence hg check⟩
  | madeChoice choice => exact ⟨_, _, rfl, rfl, record?_single hg _ choice⟩
  | talent check => exact ⟨_, _, rfl, rfl, record?_presence hg check⟩
  | tag check => exact ⟨_, _, rfl, rfl, record?_presence hg check⟩
  | carried key op value present =>
    refine ⟨_, _, rfl, rfl, Fields.Finds.record hg ?_ ?_⟩
    · cases key <;> cases op <;> cases value <;> cases present <;>
        simp [comparisonField, fieldIfSome]
    refine .bind (.maybe key (by simp [comparisonField]) (fun s _ ↦ string?_string hg s) rfl) ?_
    refine .bind (.maybe op (by simp [comparisonField])
      (fun c hc ↦ comparison?_symbol hg (h.1 c hc)) rfl) ?_
    refine .bind (.maybe value (by simp [comparisonField])
      (fun x hx ↦ float?_ofFloat hg (h.2 x hx)) rfl) ?_
    refine .bind (.maybe present (by simp [comparisonField]) (fun b _ ↦ bool?_bool hg b) rfl) ?_
    exact .pure _
  | ending reason => exact ⟨_, _, rfl, rfl, record?_single hg _ reason⟩
  | unknown raw => cases h

end Written

/-! #### Conditions as values -/

theorem isValue_presenceParams (has hasNot : String) (p : Presence) :
    (presenceParams has hasNot p).IsValue :=
  .object (isValue_of_append (isValue_fieldIfSome fun s _ ↦ .string s)
    (isValue_fieldIfSome fun s _ ↦ .string s))

/-- The parameters of a normal condition are a value. -/
theorem isValue_params {condition : Condition Float} (h : condition.Normal) :
    condition.params.IsValue := by
  cases condition with
  | stat name op value =>
    refine .object (isValue_of_append (isValue_of_append ?_ ?_) ?_)
    · exact isValue_fieldIfSome fun c _ ↦ .string c.symbol
    · exact isValue_of_singleton (.string name)
    · exact isValue_fieldIfSome fun x hx ↦ isValue_ofFloat (h.2 x hx)
  | carried key op value present =>
    refine .object (isValue_of_append (isValue_of_append (isValue_of_append ?_ ?_) ?_) ?_)
    · exact isValue_fieldIfSome fun b _ ↦ .bool b
    · exact isValue_fieldIfSome fun s _ ↦ .string s
    · exact isValue_fieldIfSome fun c _ ↦ .string c.symbol
    · exact isValue_fieldIfSome fun x hx ↦ isValue_ofFloat (h.2 x hx)
  | event check =>
    exact isValue_presenceParams "has_not_triggered" "has_triggered" ⟨check.hasNot, check.has⟩
  | status check | inventory check | talent check | tag check =>
    exact isValue_presenceParams "has" "has_not" check
  | worldview s | madeChoice s | ending s => exact .object (isValue_of_singleton (.string s))
  | unknown raw => cases h

/-- **A normal condition** is read again as it is. -/
theorem ofJson?_toJson {condition : Condition Float} (h : condition.Normal) :
    ofJson? condition.toJson = some condition := by
  obtain ⟨type, fields, htype, hfields, hread⟩ := record?_params rearranges_canonical h
  have hknown : (ofTyped type condition.params).canonical.typed?.bind (fun typed ↦
      (fields? typed.1).bind fun fields ↦ record? fields typed.2) = some condition := by
    refine bind_typed?_ofTyped ?_ ?_
    · rw [hfields, Option.bind_some, hread]
    · rw [hfields]
      rfl
  rw [toJson, htype, ofJson?]
  dsimp only
  rw [(isValue_ofTyped (isValue_params h)).value?, Option.map_some, ofValue_eq, hknown]
  rfl

theorem typeName?_ne_none {condition : Condition Float} (h : condition.Normal) :
    condition.typeName? ≠ none := by
  obtain ⟨type, _, htype, -⟩ := record?_params rearranges_id h
  rw [htype]
  exact Option.some_ne_none type

/-- A value is read as a condition, which is written so that it is read as the same condition
again. One that was not understood is written as it was, and holds in every life. -/
theorem normalized {j : Json} (hj : j.IsValue) :
    ∃ condition, ofJson? j = some condition ∧ ofJson? condition.toJson = some condition ∧
      (condition.typeName? = none →
        condition.toJson = j.canonical ∧ ∀ life, condition.holds life = true) := by
  obtain ⟨condition, hread, hagain, hform | rfl⟩ :=
    hj.normalized ofValue_cases ofJson?_toJson fun _ ↦ rfl
  · exact ⟨condition, hread, hagain, fun hnone ↦ absurd hnone (typeName?_ne_none hform)⟩
  · exact ⟨_, hread, hagain, fun _ ↦ ⟨rfl, fun _ ↦ rfl⟩⟩

end Condition

end LifeStory
