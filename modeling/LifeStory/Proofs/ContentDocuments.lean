import LifeStory.Document.Content
import LifeStory.Proofs.NormalDirectives

/-!
# Content that is read again

Authored content that was read from a value is written so that it is read as the same again
(`BaseContent.reread`, `Pack.reread`). What a document gives is settled: its numbers are finite, and
its conditions and directives are in the form that normalizing gives them. That is what its fields
ensure (`Event.fields_ensures` and the like), and all that is needed to find them again where they
were written (`Event.record?_toJson` and the like). A field that is left out has the value that it
stands for when it is missing.

Conditions and directives are brought to key order before they are read. So the ways to arrange
fields that are looked at here leave a value the same when it is in key order (`Json.Arranges`).
-/

namespace LifeStory

open Json

namespace Json

variable {α : Type} {g : Json → Json}

/-! ### Arrangements that key order does not see -/

/-- A way to arrange fields after which a value is the same in key order. -/
structure Arranges (g : Json → Json) : Prop extends Rearranges g where
  value_eq : ∀ j, j.IsValue → (g j).value? = j.value?

theorem arranges_id : Arranges id := ⟨rearranges_id, fun _ _ ↦ rfl⟩

/-- Values in key order are arranged in such a way. -/
theorem arranges_canonical : Arranges canonical := by
  refine ⟨rearranges_canonical, fun j hj ↦ ?_⟩
  rw [hj.value?, hj.canonical.value?, hj.canonical_canonical]

/-- What was written is read as it was, whether its fields stand in the order in which they are
written or in key order. -/
def Reread (decode : Json → Option α) (encode : α → Json) (a : α) : Prop :=
  decode (encode a) = some a ∧ decode (encode a).canonical = some a

/-- What is read however it was arranged is read as it was written and in key order. -/
theorem Reread.of_arranges {decode : Json → Option α} {encode : α → Json} {a : α}
    (h : ∀ {g : Json → Json}, Arranges g → decode (g (encode a)) = some a) :
    Reread decode encode a :=
  ⟨h arranges_id, h arranges_canonical⟩

/-! ### What is held by type and parameters -/

/-- What is written as a value from which it is read again. -/
structure Settled (ofValue : Json → α) (toJson : α → Json) (a : α) : Prop where
  isValue : (toJson a).IsValue
  again : (toJson a).value?.map ofValue = some a

/-- What is settled is read however it was arranged. -/
theorem Settled.read {ofValue : Json → α} {toJson : α → Json} {a : α}
    (h : Settled ofValue toJson a) (hg : Arranges g) :
    (g (toJson a)).value?.map ofValue = some a := by
  rw [hg.value_eq _ h.isValue]
  exact h.again

/-- What was read of a value is settled if it is normal or kept as it was. -/
theorem IsValue.settled {ofValue unknown : Json → α} {toJson : α → Json} {Normal : α → Prop}
    {j : Json} (hj : j.IsValue) {a : α} (hread : j.value?.map ofValue = some a)
    (hcases : ∀ {j : Json}, j.IsValue → Normal (ofValue j) ∨ ofValue j = unknown j)
    (hnormal : ∀ {a : α}, Normal a → (toJson a).value?.map ofValue = some a)
    (hunknown : ∀ raw, toJson (unknown raw) = raw)
    (hvalue : ∀ {a : α}, Normal a → (toJson a).IsValue) : Settled ofValue toJson a := by
  obtain ⟨b, hb, hagain, hform⟩ := hj.normalized hcases hnormal hunknown
  obtain rfl : b = a := Option.some.inj (hb.symm.trans hread)
  refine ⟨?_, hagain⟩
  rcases hform with hform | rfl
  · exact hvalue hform
  · rw [hunknown]
    exact hj.canonical

/-! ### Lists -/

/-- What the items of an array are read as has a property. -/
theorem list?_ensures {P : α → Prop} {decode : Json → Option α}
    (h : ∀ j a, j.IsValue → decode j = some a → P a) {j : Json} (hj : j.IsValue) {items : List α}
    (hread : list? decode j = some items) : ∀ a ∈ items, P a := by
  cases hj with
  | array hitems =>
    intro a ha
    obtain ⟨item, hitem, hdecode⟩ := exists_of_mem_mapM hread ha
    exact h item a (hitems item hitem) hdecode
  | _ => cases hread

/-- Every item of a list that may be missing has the property. -/
theorem Fields.Ensures.list {P : α → Prop} {names : List String} {decode : Json → Option α}
    (h : ∀ j a, j.IsValue → decode j = some a → P a) :
    Ensures (Fields.defaulted names (list? decode) []) fun items ↦ ∀ a ∈ items, P a := by
  have hnone : ∀ items ∈ some ([] : List α), ∀ a ∈ items, P a := by
    rintro _ ⟨⟩ _ ⟨⟩
  exact .read (fun _ _ hj hread ↦ list?_ensures h hj hread) hnone hnone

/-- Every record of a list that may be missing has the property. -/
theorem listOf_ensures {P : α → Prop} {fields : Fields α} (h : fields.Ensures P) (name : String) :
    (listOf name fields).Ensures fun items ↦ ∀ a ∈ items, P a :=
  .list fun _ _ hj hread ↦ h.record hj hread

end Json

/-! ### Conditions and directives -/

/-- A condition that is read as it is written. -/
abbrev Condition.Settled : Condition Float → Prop := Json.Settled ofValue toJson

/-- A directive that is read as it is written. -/
abbrev Directive.Settled : Directive Float → Prop := Json.Settled ofValue toJson

namespace Condition

/-- A condition in its normal form is written as a value. -/
theorem isValue_toJson {condition : Condition Float} (h : condition.Normal) :
    condition.toJson.IsValue := by
  obtain ⟨type, _, htype, -⟩ := record?_params rearranges_id h
  rw [toJson, htype]
  exact isValue_ofTyped (isValue_params h)

/-- Every condition that is read is in the form that is read again. -/
theorem settled_of_ofJson? {j : Json} (hj : j.IsValue) {condition : Condition Float}
    (h : ofJson? j = some condition) : condition.Settled :=
  hj.settled h ofValue_cases ofJson?_toJson (fun _ ↦ rfl) isValue_toJson

end Condition

namespace Directive

/-- A directive in its normal form is written as a value. -/
theorem isValue_toJson {directive : Directive Float} (h : directive.Normal) :
    directive.toJson.IsValue := by
  obtain ⟨type, _, htype, -⟩ := read_params rearranges_id h
  rw [toJson, htype]
  exact isValue_ofTyped (isValue_params h)

/-- Every directive that is read is in the form that is read again. -/
theorem settled_of_ofJson? {j : Json} (hj : j.IsValue) {directive : Directive Float}
    (h : ofJson? j = some directive) : directive.Settled :=
  hj.settled h ofValue_cases ofJson?_toJson (fun _ ↦ rfl) isValue_toJson

end Directive

namespace Json

variable {g : Json → Json}

theorem conditions_ensures (name : String) :
    (conditions name).Ensures fun cs ↦ ∀ c ∈ cs, c.Settled :=
  .list fun _ _ hj h ↦ Condition.settled_of_ofJson? hj h

theorem directives_ensures (name : String) :
    (directives name).Ensures fun ds ↦ ∀ d ∈ ds, d.Settled :=
  .list fun _ _ hj h ↦ Directive.settled_of_ofJson? hj h

/-- A list of settled conditions is read again. -/
theorem list?_conditions (hg : Arranges g) {cs : List (Condition Float)}
    (h : ∀ c ∈ cs, c.Settled) :
    list? Condition.ofJson? (g (ofList Condition.toJson cs)) = some cs :=
  list?_ofList hg.toRearranges fun c hc ↦ (h c hc).read hg

/-- A list of settled directives is read again. -/
theorem list?_directives (hg : Arranges g) {ds : List (Directive Float)}
    (h : ∀ d ∈ ds, d.Settled) :
    list? Directive.ofJson? (g (ofList Directive.toJson ds)) = some ds :=
  list?_ofList hg.toRearranges fun d hd ↦ (h d hd).read hg

end Json

/-! ### Choices -/

/-- A bucket of a document. -/
structure Bucket.Settled (b : Bucket Float) : Prop where
  weight : ∀ x ∈ b.weight, x.isFinite = true
  outcomes : ∀ d ∈ b.outcomes, d.Settled

/-- A choice of a document. -/
structure Choice.Settled (c : Choice Float) : Prop where
  conditions : ∀ condition ∈ c.conditions, condition.Settled
  magnitude : ∀ x ∈ c.magnitude, x.isFinite = true
  outcomes : ∀ d ∈ c.outcomes, d.Settled
  results : ∀ b ∈ c.results, b.Settled

section Choices

variable {g : Json → Json}

/-- The weight of a bucket that is read is finite, and its outcomes are settled. -/
theorem Bucket.fields_ensures : Bucket.fields.Ensures Bucket.Settled := by
  unfold Bucket.fields
  refine .bind (.maybe fun _ _ hj h ↦ hj.isFinite_of_float? h) fun weight hweight ↦ ?_
  refine .bind (directives_ensures _) fun outcomes houtcomes ↦ ?_
  refine .bind .read_any fun feedback _ ↦ ?_
  exact .pure ⟨hweight, houtcomes⟩

/-- A settled bucket is read again. -/
theorem Bucket.record?_toJson (hg : Arranges g) {b : Bucket Float} (h : b.Settled) :
    record? Bucket.fields (g b.toJson) = some b := by
  have hr := hg.toRearranges
  refine Fields.Finds.record hr ?_ ?_
  · cases b.weight <;> cases b.feedback <;> simp [fieldIfSome]
  unfold Bucket.fields
  refine .bind (.maybe b.weight (by simp) (fun x hx ↦ float?_ofFloat hr (h.weight x hx)) rfl) ?_
  refine .bind (.read (by simp) (list?_directives hg h.outcomes)) ?_
  refine .bind (.maybe b.feedback (by simp) (fun s _ ↦ string?_string hr s) rfl) ?_
  exact .pure b

theorem Choice.fields_ensures : Choice.fields.Ensures Choice.Settled := by
  unfold Choice.fields
  refine .bind .read_any fun id _ ↦ ?_
  refine .bind .read_any fun text _ ↦ ?_
  refine .bind (conditions_ensures _) fun conditions hconditions ↦ ?_
  refine .bind .read_any fun worldview _ ↦ ?_
  refine .bind (.maybe fun _ _ hj h ↦ hj.isFinite_of_float? h) fun magnitude hmagnitude ↦ ?_
  refine .bind .read_any fun special _ ↦ ?_
  refine .bind (directives_ensures _) fun outcomes houtcomes ↦ ?_
  refine .bind (listOf_ensures Bucket.fields_ensures _) fun results hresults ↦ ?_
  refine .bind .read_any fun feedback _ ↦ ?_
  exact .pure ⟨hconditions, hmagnitude, houtcomes, hresults⟩

/-- A settled choice is read again, with the fields that only some choices have. -/
theorem Choice.ofJson?_toJson (hg : Arranges g) {c : Choice Float} (h : c.Settled) :
    ofJson? (g c.toJson) = some c := by
  have hr := hg.toRearranges
  refine Fields.Finds.record hr ?_ ?_
  · cases c.id <;> cases c.worldview <;> cases c.magnitude <;> cases c.feedback <;>
      simp [fieldIfSome]
  unfold Choice.fields
  refine .bind (.maybe c.id (by simp) (fun s _ ↦ string?_string hr s) rfl) ?_
  refine .bind (.read (by simp) (string?_string hr c.text)) ?_
  refine .bind (.read (by simp) (list?_conditions hg h.conditions)) ?_
  refine .bind (.maybe c.worldview (by simp) (fun s _ ↦ string?_string hr s) rfl) ?_
  refine .bind (.maybe c.magnitude (by simp)
    (fun x hx ↦ float?_ofFloat hr (h.magnitude x hx)) rfl) ?_
  refine .bind (.read (by simp) (bool?_bool hr c.special)) ?_
  refine .bind (.read (by simp) (list?_directives hg h.outcomes)) ?_
  refine .bind (.read (by simp) (list?_ofList hr fun b hb ↦
    Bucket.record?_toJson hg (h.results b hb))) ?_
  refine .bind (.maybe c.feedback (by simp) (fun s _ ↦ string?_string hr s) rfl) ?_
  exact .pure c

end Choices

/-! ### Events -/

/-- An event of a document. -/
structure Event.Settled (e : Event Float) : Prop where
  conditions : ∀ condition ∈ e.conditions, condition.Settled
  choices : ∀ choice ∈ e.choices, choice.Settled
  priority : ∀ x ∈ e.priority, x.isFinite = true

/-- The conditions and the choices of an event that is read are settled, and its priority is finite.
-/
theorem Event.fields_ensures : Event.fields.Ensures Event.Settled := by
  unfold Event.fields
  refine .bind .read_any fun id _ ↦ ?_
  refine .bind .read_any fun title _ ↦ ?_
  refine .bind .read_any fun text _ ↦ ?_
  refine .bind (conditions_ensures _) fun conditions hconditions ↦ ?_
  refine .bind (listOf_ensures Choice.fields_ensures _) fun choices hchoices ↦ ?_
  refine .bind .read_any fun tags _ ↦ ?_
  refine .bind (.maybe fun _ _ hj h ↦ hj.isFinite_of_float? h) fun priority hpriority ↦ ?_
  refine .bind .read_any fun unique _ ↦ ?_
  refine .bind .read_any fun locked _ ↦ ?_
  exact .pure ⟨hconditions, hchoices, hpriority⟩

/-- A settled event is read again. -/
theorem Event.record?_toJson {g : Json → Json} (hg : Arranges g) {e : Event Float}
    (h : e.Settled) : record? Event.fields (g e.toJson) = some e := by
  have hr := hg.toRearranges
  refine Fields.Finds.record hr (by cases e.priority <;> simp [fieldIfSome]) ?_
  unfold Event.fields
  refine .bind (.read (by simp) (string?_string hr e.id)) ?_
  refine .bind (.read (by simp) (string?_string hr e.title)) ?_
  refine .bind (.read (by simp) (string?_string hr e.text)) ?_
  refine .bind (.read (by simp) (list?_conditions hg h.conditions)) ?_
  refine .bind (.read (by simp) (list?_ofList hr fun c hc ↦
    Choice.ofJson?_toJson hg (h.choices c hc))) ?_
  refine .bind (.read (by simp) (list?_ofStrings hr e.tags)) ?_
  refine .bind (.maybe e.priority (by simp)
    (fun x hx ↦ float?_ofFloat hr (h.priority x hx)) rfl) ?_
  refine .bind (.read (by simp) (bool?_bool hr e.unique)) ?_
  refine .bind (.read (by simp) (bool?_bool hr e.locked)) ?_
  exact .pure e

/-! ### What events refer to -/

/-- A status effect of a document. -/
structure StatusEffect.Settled (s : StatusEffect Float) : Prop where
  duration : ∀ n ∈ s.duration, IsInt32 n
  outcomes : ∀ d ∈ s.outcomes, d.Settled

/-- A talent of a document. -/
def Talent.Settled (t : Talent Float) : Prop := ∀ d ∈ t.effects, d.Settled

/-- An achievement of a document. -/
def Achievement.Settled (a : Achievement Float) : Prop :=
  ∀ condition ∈ a.conditions, condition.Settled

/-- A stat of a document. -/
def CustomStat.Settled (s : CustomStat Float) : Prop := s.initial.isFinite = true

theorem StatusEffect.fields_ensures : StatusEffect.fields.Ensures StatusEffect.Settled := by
  unfold StatusEffect.fields
  refine .bind .read_any fun name _ ↦ ?_
  refine .bind .read_any fun description _ ↦ ?_
  refine .bind (.maybe fun _ _ _ h ↦ isInt32_of_int32? h) fun duration hduration ↦ ?_
  refine .bind (directives_ensures _) fun outcomes houtcomes ↦ ?_
  exact .pure ⟨hduration, houtcomes⟩

/-- The effects of a talent that is read are settled. -/
theorem Talent.fields_ensures : Talent.fields.Ensures Talent.Settled := by
  unfold Talent.fields
  refine .bind .read_any fun id _ ↦ ?_
  refine .bind .read_any fun name _ ↦ ?_
  refine .bind .read_any fun description _ ↦ ?_
  refine .bind (directives_ensures _) fun effects heffects ↦ ?_
  exact .pure heffects

/-- The conditions of an achievement that is read are settled. -/
theorem Achievement.fields_ensures : Achievement.fields.Ensures Achievement.Settled := by
  unfold Achievement.fields
  refine .bind .read_any fun id _ ↦ ?_
  refine .bind .read_any fun name _ ↦ ?_
  refine .bind .read_any fun description _ ↦ ?_
  refine .bind .read_any fun hidden _ ↦ ?_
  refine .bind (conditions_ensures _) fun conditions hconditions ↦ ?_
  exact .pure hconditions

/-- A stat that is not given a value to begin with begins at zero, which is finite. -/
theorem CustomStat.fields_ensures : CustomStat.fields.Ensures CustomStat.Settled := by
  have hzero : ∀ x ∈ some (0 : Float), x.isFinite = true := by
    rintro _ ⟨⟩
    decide +kernel
  unfold CustomStat.fields
  refine .bind .read_any fun id _ ↦ ?_
  refine .bind .read_any fun name _ ↦ ?_
  refine .bind (.read (fun _ _ hj h ↦ hj.isFinite_of_float? h) hzero hzero)
    fun initial hinitial ↦ ?_
  exact .pure hinitial

section Records

variable {g : Json → Json}

/-- A settled status effect is read again, with its duration if it has one. -/
theorem StatusEffect.ofJson?_toJson (hg : Arranges g) {s : StatusEffect Float} (h : s.Settled) :
    ofJson? (g s.toJson) = some s := by
  have hr := hg.toRearranges
  refine Fields.Finds.record hr (by cases s.duration <;> simp [fieldIfSome]) ?_
  unfold StatusEffect.fields
  refine .bind (.read (by simp) (string?_string hr s.name)) ?_
  refine .bind (.read (by simp) (string?_string hr s.description)) ?_
  refine .bind (.maybe s.duration (by simp) (fun n hn ↦ int32?_int hr (h.duration n hn)) rfl) ?_
  refine .bind (.read (by simp) (list?_directives hg h.outcomes)) ?_
  exact .pure s

/-- A settled talent is read again. -/
theorem Talent.record?_toJson (hg : Arranges g) {t : Talent Float} (h : t.Settled) :
    record? Talent.fields (g t.toJson) = some t := by
  have hr := hg.toRearranges
  refine Fields.Finds.record hr (by simp) ?_
  unfold Talent.fields
  refine .bind (.read rfl (string?_string hr t.id)) ?_
  refine .bind (.read rfl (string?_string hr t.name)) ?_
  refine .bind (.read rfl (string?_string hr t.description)) ?_
  refine .bind (.read rfl (list?_directives hg h)) ?_
  exact .pure t

theorem Ending.record?_toJson (hg : Arranges g) (e : Ending) :
    record? Ending.fields (g e.toJson) = some e := by
  have hr := hg.toRearranges
  refine Fields.Finds.record hr (by simp) ?_
  unfold Ending.fields
  refine .bind (.read rfl (string?_string hr e.id)) ?_
  refine .bind (.read rfl (string?_string hr e.title)) ?_
  refine .bind (.read rfl (string?_string hr e.text)) ?_
  exact .pure e

/-- A settled achievement is read again. -/
theorem Achievement.record?_toJson (hg : Arranges g) {a : Achievement Float} (h : a.Settled) :
    record? Achievement.fields (g a.toJson) = some a := by
  have hr := hg.toRearranges
  refine Fields.Finds.record hr (by simp) ?_
  unfold Achievement.fields
  refine .bind (.read rfl (string?_string hr a.id)) ?_
  refine .bind (.read rfl (string?_string hr a.name)) ?_
  refine .bind (.read rfl (string?_string hr a.description)) ?_
  refine .bind (.read rfl (bool?_bool hr a.hidden)) ?_
  refine .bind (.read rfl (list?_conditions hg h)) ?_
  exact .pure a

theorem CustomStat.record?_toJson (hg : Arranges g) {s : CustomStat Float} (h : s.Settled) :
    record? CustomStat.fields (g s.toJson) = some s := by
  have hr := hg.toRearranges
  refine Fields.Finds.record hr (by simp) ?_
  unfold CustomStat.fields
  refine .bind (.read rfl (string?_string hr s.id)) ?_
  refine .bind (.read rfl (string?_string hr s.name)) ?_
  refine .bind (.read rfl (float?_ofFloat hr h)) ?_
  exact .pure s

/-- Tag rules have no numbers in them, and are always read again. -/
theorem TagRules.ofJson?_toJson (hg : Arranges g) (rules : TagRules) :
    ofJson? (g rules.toJson) = some rules := by
  have hr := hg.toRearranges
  refine Fields.Finds.record hr (by simp) ?_
  unfold TagRules.fields
  refine .bind (.read rfl (list?_ofList hr fun texts _ ↦ list?_ofStrings hr texts)) ?_
  refine .bind (.read rfl (list?_ofStrings hr rules.gated)) ?_
  refine .bind (.read rfl (stringMap?_ofStringMap hr fun e _ ↦ list?_ofStrings hr e.2)) ?_
  exact .pure rules

end Records

/-! ### Whole documents -/

/-- Base content of a document. -/
structure BaseContent.Settled (b : BaseContent Float) : Prop where
  events : ∀ e ∈ b.events, e.Settled
  talents : ∀ t ∈ b.talents, t.Settled
  statusEffects : ∀ e ∈ b.statusEffects.entries, e.2.Settled
  achievements : ∀ a ∈ b.achievements, a.Settled

/-- A pack of a document. -/
structure Pack.Settled (p : Pack Float) : Prop where
  events : ∀ e ∈ p.events, e.Settled
  talents : ∀ t ∈ p.talents, t.Settled
  statusEffects : ∀ e ∈ p.statusEffects.entries, e.2.Settled
  customStats : ∀ s ∈ p.customStats, s.Settled
  achievements : ∀ a ∈ p.achievements, a.Settled

/-- The effects that are read are settled, whether they stand in a map or are left out. -/
theorem Json.statusEffects_ensures :
    statusEffects.Ensures fun effects ↦ ∀ e ∈ effects.entries, e.2.Settled := by
  have hnone : ∀ effects ∈ some (StringMap.empty : StringMap (StatusEffect Float)),
      ∀ e ∈ effects.entries, e.2.Settled := by
    rintro _ ⟨⟩ _ ⟨⟩
  refine .read (fun _ _ hj hread ↦ ?_) hnone hnone
  exact stringMap?_ensures (fun _ _ hvalue h ↦ StatusEffect.fields_ensures.record hvalue h) hj hread

namespace BaseContent

/-- **Base content that is read from a value is settled.** -/
theorem settled_of_ofJson? {j : Json} (hj : j.IsValue) {base : BaseContent Float}
    (h : ofJson? j = some base) : base.Settled := by
  have hfields : fields.Ensures BaseContent.Settled := by
    unfold fields
    refine .bind (listOf_ensures Event.fields_ensures _) fun events hevents ↦ ?_
    refine .bind (listOf_ensures Talent.fields_ensures _) fun talents htalents ↦ ?_
    refine .bind .read_any fun endings _ ↦ ?_
    refine .bind statusEffects_ensures fun effects heffects ↦ ?_
    refine .bind .read_any fun tags _ ↦ ?_
    refine .bind (listOf_ensures Achievement.fields_ensures _) fun achievements hachieved ↦ ?_
    exact .pure ⟨hevents, htalents, heffects, hachieved⟩
  exact hfields.record hj h

/-- **Base content that is settled is read again.** -/
theorem ofJson?_toJson {g : Json → Json} (hg : Arranges g) {base : BaseContent Float}
    (h : base.Settled) : ofJson? (g base.toJson) = some base := by
  have hr := hg.toRearranges
  refine Fields.Finds.record hr (by simp) ?_
  unfold fields
  refine .bind (.read rfl (list?_ofList hr fun e he ↦
    Event.record?_toJson hg (h.events e he))) ?_
  refine .bind (.read rfl (list?_ofList hr fun t ht ↦
    Talent.record?_toJson hg (h.talents t ht))) ?_
  refine .bind (.read rfl (list?_ofList hr fun e _ ↦ Ending.record?_toJson hg e)) ?_
  refine .bind (.read rfl (stringMap?_ofStringMap hr fun e he ↦
    StatusEffect.ofJson?_toJson hg (h.statusEffects e he))) ?_
  refine .bind (.read rfl (TagRules.ofJson?_toJson hg base.tags)) ?_
  refine .bind (.read rfl (list?_ofList hr fun a ha ↦
    Achievement.record?_toJson hg (h.achievements a ha))) ?_
  exact .pure base

/-- **Base content is read again as it is written.** -/
theorem reread {base : BaseContent Float} (h : base.Settled) : Reread ofJson? toJson base :=
  .of_arranges fun hg ↦ ofJson?_toJson hg h

end BaseContent

namespace Pack

/-- **A pack that is read from a value is settled.** -/
theorem settled_of_ofJson? {j : Json} (hj : j.IsValue) {pack : Pack Float}
    (h : ofJson? j = some pack) : pack.Settled := by
  have hfields : fields.Ensures Pack.Settled := by
    unfold fields
    refine .bind .read_any fun id _ ↦ ?_
    refine .bind .read_any fun name _ ↦ ?_
    refine .bind .read_any fun description _ ↦ ?_
    refine .bind (listOf_ensures Event.fields_ensures _) fun events hevents ↦ ?_
    refine .bind (listOf_ensures Talent.fields_ensures _) fun talents htalents ↦ ?_
    refine .bind .read_any fun endings _ ↦ ?_
    refine .bind statusEffects_ensures fun effects heffects ↦ ?_
    refine .bind (listOf_ensures CustomStat.fields_ensures _) fun stats hstats ↦ ?_
    refine .bind (listOf_ensures Achievement.fields_ensures _) fun achievements hachieved ↦ ?_
    exact .pure ⟨hevents, htalents, heffects, hstats, hachieved⟩
  exact hfields.record hj h

/-- **A pack that is settled is read again.** -/
theorem ofJson?_toJson {g : Json → Json} (hg : Arranges g) {pack : Pack Float}
    (h : pack.Settled) : ofJson? (g pack.toJson) = some pack := by
  have hr := hg.toRearranges
  have hendings : records? Ending.fields (g (ofList Ending.toJson pack.endings)) =
      some pack.endings := list?_ofList hr fun e _ ↦ Ending.record?_toJson hg e
  refine Fields.Finds.record hr (by cases pack.description <;> simp [fieldIfSome]) ?_
  unfold fields
  refine .bind (.read (by simp) (string?_string hr pack.id)) ?_
  refine .bind (.read (by simp) (string?_string hr pack.name)) ?_
  refine .bind (.maybe pack.description (by simp) (fun s _ ↦ string?_string hr s) rfl) ?_
  refine .bind (.read (by simp) (list?_ofList hr fun e he ↦
    Event.record?_toJson hg (h.events e he))) ?_
  refine .bind (.read (by simp) (list?_ofList hr fun t ht ↦
    Talent.record?_toJson hg (h.talents t ht))) ?_
  refine .bind (.read (by simp) hendings) ?_
  refine .bind (.read (by simp) (stringMap?_ofStringMap hr fun e he ↦
    StatusEffect.ofJson?_toJson hg (h.statusEffects e he))) ?_
  refine .bind (.read (by simp) (list?_ofList hr fun s hs ↦
    CustomStat.record?_toJson hg (h.customStats s hs))) ?_
  refine .bind (.read (by simp) (list?_ofList hr fun a ha ↦
    Achievement.record?_toJson hg (h.achievements a ha))) ?_
  exact .pure pack

/-- **A pack is read again as it is written.** -/
theorem reread {pack : Pack Float} (h : pack.Settled) : Reread ofJson? toJson pack :=
  .of_arranges fun hg ↦ ofJson?_toJson hg h

end Pack

end LifeStory
