import LifeStory.Outcome
import LifeStory.Document.Directive
import LifeStory.Proofs.NormalConditions
import LifeStory.Proofs.Saves

/-!
# Directives that are read again

Directives are read and written as conditions are: every value is one, what cannot be understood is
kept as it is, and what can is brought to a normal form (`Directive.Normal`) that is read as it was
written (`Directive.read_params`). Both together say that a value is normalized once
(`Json.normalized_once`).
-/

namespace LifeStory

open Json

/-! ### Directives -/

/-- The number of a variable that is read is finite. -/
theorem Variable.finite_of_ofJson? {j : Json} {v : Variable Float} (hj : j.IsValue)
    (h : Variable.ofJson? j = some v) : v.Finite := by
  cases hj with
  | bool b =>
    obtain rfl := Option.some.inj h
    trivial
  | string s =>
    obtain rfl := Option.some.inj h
    trivial
  | int n =>
    obtain ⟨x, hx, rfl⟩ := Option.map_eq_some_iff.1 (show (float? (.int n)).map _ = some v from h)
    exact (IsValue.int n).isFinite_of_float? hx
  | @real x hfinite =>
    obtain rfl := Option.some.inj h
    exact hfinite
  | _ => cases h

/-- A variable is written as a value. -/
theorem Variable.isValue_toJson {v : Variable Float} (h : v.Finite) : v.toJson.IsValue := by
  cases v with
  | flag b => exact .bool b
  | number x => exact isValue_ofFloat h
  | text s => exact .string s

/-- An integer that is read fits its field of 32 bits. -/
theorem Json.isInt32_of_int32? {j : Json} {n : Int} (h : int32? j = some n) : IsInt32 n := by
  cases j with
  | int m =>
    rw [int32?] at h
    split at h
    · next hrange => exact Option.some.inj h ▸ hrange
    · cases h
  | _ => cases h

namespace Directive

/-- A directive that was understood, with finite numbers and durations of 32 bits. -/
def Normal : Directive Float → Prop
  | changeStat deltas => ∀ e ∈ deltas.entries, e.2.isFinite = true
  | addMultiplier _ x | setStat _ x | modifyTagProbability _ x | changeVariable _ x =>
    x.isFinite = true
  | addStatus _ duration => ∀ n ∈ duration, IsInt32 n
  | modifyEventWeight _ multiplier duration => multiplier.isFinite = true ∧ IsInt32 duration
  | setVariable _ value => value.Finite
  | unknown _ => False
  | _ => True

theorem singleField_ensures {make : String → Directive Float} (h : ∀ s, (make s).Normal)
    (names : List String) : (singleField names make).Ensures Normal :=
  .bind .read_any fun s _ ↦ .pure (h s)

/-- A directive with a number that is read has a finite one. -/
theorem numberFields_ensures {make : String → Float → Directive Float}
    (h : ∀ s x, x.isFinite = true → (make s x).Normal) (key number : String) :
    (numberFields key number make).Ensures Normal := by
  refine .bind .read_any fun s _ ↦ ?_
  refine .bind (.required fun _ _ hj hx ↦ hj.isFinite_of_float? hx) fun x hx ↦ ?_
  exact .pure (h s x hx)

theorem addTagFields_ensures : addTagFields.Ensures Normal := by
  refine .bind .read_any fun tag _ ↦ ?_
  refine .bind .read_any fun replace _ ↦ ?_
  exact .pure trivial

theorem addStatusFields_ensures : addStatusFields.Ensures Normal := by
  refine .bind .read_any fun id _ ↦ ?_
  refine .bind (.maybe fun _ _ _ hn ↦ isInt32_of_int32? hn) fun duration hduration ↦ ?_
  exact .pure hduration

theorem eventWeightFields_ensures : eventWeightFields.Ensures Normal := by
  refine .bind .read_any fun event _ ↦ ?_
  refine .bind (.required fun _ _ hj hx ↦ hj.isFinite_of_float? hx) fun multiplier hfinite ↦ ?_
  refine .bind (.required fun _ _ _ hn ↦ isInt32_of_int32? hn) fun duration hduration ↦ ?_
  exact .pure ⟨hfinite, hduration⟩

theorem setVariableFields_ensures : setVariableFields.Ensures Normal := by
  refine .bind .read_any fun key _ ↦ ?_
  refine .bind (.required fun _ _ hj hv ↦ Variable.finite_of_ofJson? hj hv) fun value hvalue ↦ ?_
  exact .pure hvalue

/-- What is read of a type that is known is normal. -/
theorem normal_of_reader? {type : String} {read : Json → Option (Directive Float)}
    (h : reader? type = some read) {params : Json} (hparams : params.IsValue)
    {directive : Directive Float} (hread : read params = some directive) : directive.Normal := by
  unfold reader? at h
  split at h <;> cases h
  · obtain ⟨deltas, hdeltas, rfl⟩ := Option.map_eq_some_iff.1 hread
    exact stringMap?_ensures (fun _ _ hj hx ↦ hj.isFinite_of_float? hx) hparams hdeltas
  · exact (numberFields_ensures (fun _ _ hx ↦ by exact hx) _ _).record hparams hread
  · exact (numberFields_ensures (fun _ _ hx ↦ by exact hx) _ _).record hparams hread
  · exact (singleField_ensures (fun _ ↦ by trivial) _).record hparams hread
  · exact (singleField_ensures (fun _ ↦ by trivial) _).record hparams hread
  · exact addTagFields_ensures.record hparams hread
  · exact (singleField_ensures (fun _ ↦ by trivial) _).record hparams hread
  · exact addStatusFields_ensures.record hparams hread
  · exact (singleField_ensures (fun _ ↦ by trivial) _).record hparams hread
  · exact (singleField_ensures (fun _ ↦ by trivial) _).record hparams hread
  · exact (singleField_ensures (fun _ ↦ by trivial) _).record hparams hread
  · exact (singleField_ensures (fun _ ↦ by trivial) _).record hparams hread
  · exact (numberFields_ensures (fun _ _ hx ↦ by exact hx) _ _).record hparams hread
  · exact eventWeightFields_ensures.record hparams hread
  · exact (singleField_ensures (fun _ ↦ by trivial) _).record hparams hread
  · exact (singleField_ensures (fun _ ↦ by trivial) _).record hparams hread
  · exact setVariableFields_ensures.record hparams hread
  · exact (numberFields_ensures (fun _ _ hx ↦ by exact hx) _ _).record hparams hread

/-- A value is read by its type, and kept as it is if that fails at any step. -/
theorem ofValue_eq (j : Json) :
    ofValue j = (j.typed?.bind fun typed ↦ (reader? typed.1).bind fun read ↦ read typed.2).getD
      (unknown j) :=
  rfl

/-- A value is a directive that was understood, or one that is kept as it is. -/
theorem ofValue_cases {j : Json} (hj : j.IsValue) : (ofValue j).Normal ∨ ofValue j = unknown j := by
  rw [ofValue_eq]
  cases hknown : j.typed?.bind fun typed ↦ (reader? typed.1).bind fun read ↦ read typed.2 with
  | none => exact .inr rfl
  | some directive =>
    obtain ⟨typed, htyped, hreader⟩ := Option.bind_eq_some_iff.1 hknown
    obtain ⟨read, htype, hread⟩ := Option.bind_eq_some_iff.1 hreader
    exact .inl (normal_of_reader? htype (hj.of_typed? htyped) hread)

section Written

variable {g : Json → Json}

/-- A directive with one field is read again, whichever of its names it is written under. -/
theorem record?_single (hg : Rearranges g) {make : String → Directive Float} {name : String}
    {names : List String} (h : name ∈ names) (s : String) :
    record? (singleField names make) (g (.object [(name, .string s)])) = some (make s) := by
  refine Fields.Finds.record hg (by simp) ?_
  refine .bind (.read (by simp [h]) (string?_string hg s)) ?_
  exact .pure (make s)

/-- A directive with a key and a number is read again, if the number is finite. -/
theorem record?_number (hg : Rearranges g) {make : String → Float → Directive Float}
    {key number s : String} {x : Float} {written : List (String × Json)}
    (hkeys : (written.map Prod.fst).Nodup)
    (hkey : (Fields.named [key] written).map Prod.snd = [.string s])
    (hnumber : (Fields.named [number] written).map Prod.snd = [ofFloat x])
    (hx : x.isFinite = true) :
    record? (numberFields key number make) (g (.object written)) = some (make s x) := by
  refine Fields.Finds.record hg hkeys ?_
  refine .bind (.read hkey (string?_string hg s)) ?_
  refine .bind (.read hnumber (float?_ofFloat hg hx)) ?_
  exact .pure (make s x)

/-- **A normal directive** is read as it was written. -/
theorem read_params (hg : Rearranges g) {directive : Directive Float} (h : directive.Normal) :
    ∃ type read, directive.typeName? = some type ∧ reader? type = some read ∧
      read (g directive.params) = some directive ∧ read .null = none := by
  cases directive with
  | changeStat deltas =>
    have hdeltas : stringMap? float? (g (ofStringMap ofFloat deltas)) = some deltas :=
      stringMap?_ofStringMap hg fun e he ↦ float?_ofFloat hg (h e he)
    exact ⟨_, _, rfl, rfl, congrArg (Option.map changeStat) hdeltas, rfl⟩
  | addMultiplier stat factor =>
    exact ⟨_, _, rfl, rfl, record?_number hg (by simp) rfl rfl h, rfl⟩
  | setStat stat value => exact ⟨_, _, rfl, rfl, record?_number hg (by simp) rfl rfl h, rfl⟩
  | addItem item => exact ⟨_, _, rfl, rfl, record?_single hg (by simp) item, rfl⟩
  | removeItem item => exact ⟨_, _, rfl, rfl, record?_single hg (by simp) item, rfl⟩
  | addTag tag replace =>
    refine ⟨_, _, rfl, rfl, Fields.Finds.record hg (by cases replace <;> simp) ?_, rfl⟩
    refine .bind (.read (by cases replace <;> simp) (string?_string hg tag)) ?_
    cases replace with
    | false => exact .bind (.read_absent rfl rfl) (.pure _)
    | true => exact .bind (.read rfl (bool?_bool hg true)) (.pure _)
  | removeTag tag => exact ⟨_, _, rfl, rfl, record?_single hg (by simp) tag, rfl⟩
  | addStatus id duration =>
    refine ⟨_, _, rfl, rfl, Fields.Finds.record hg (by cases duration <;> simp [fieldIfSome]) ?_,
      rfl⟩
    refine .bind (.read (by simp [statusNames]) (string?_string hg id)) ?_
    refine .bind (.maybe duration (by simp) (fun n hn ↦ int32?_int hg (h n hn)) rfl) ?_
    exact .pure _
  | removeStatus id =>
    exact ⟨_, _, rfl, rfl, record?_single hg (by simp [statusNames]) id, rfl⟩
  | unlockEvent event => exact ⟨_, _, rfl, rfl, record?_single hg (by simp) event, rfl⟩
  | resetEvent event => exact ⟨_, _, rfl, rfl, record?_single hg (by simp) event, rfl⟩
  | modifyTagProbability tag multiplier =>
    exact ⟨_, _, rfl, rfl, record?_number hg (by simp) rfl rfl h, rfl⟩
  | modifyEventWeight event multiplier duration =>
    refine ⟨_, _, rfl, rfl, Fields.Finds.record hg (by simp) ?_, rfl⟩
    refine .bind (.read rfl (string?_string hg event)) ?_
    refine .bind (.read rfl (float?_ofFloat hg h.1)) ?_
    refine .bind (.read rfl (int32?_int hg h.2)) ?_
    exact .pure _
  | triggerEnding ending => exact ⟨_, _, rfl, rfl, record?_single hg (by simp) ending, rfl⟩
  | unlockAchievement achievement =>
    exact ⟨_, _, rfl, rfl, record?_single hg (by simp) achievement, rfl⟩
  | setVariable key value =>
    refine ⟨_, _, rfl, rfl, Fields.Finds.record hg (by simp) ?_, rfl⟩
    refine .bind (.read rfl (string?_string hg key)) ?_
    refine .bind (.read rfl (Variable.ofJson?_toJson hg h)) ?_
    exact .pure _
  | changeVariable key delta =>
    exact ⟨_, _, rfl, rfl, record?_number hg (by simp) rfl rfl h, rfl⟩
  | unknown raw => cases h

end Written

/-- The parameters of a normal directive are a value. -/
theorem isValue_params {directive : Directive Float} (h : directive.Normal) :
    directive.params.IsValue := by
  cases directive with
  | changeStat deltas =>
    refine .object (List.forall_mem_map.2 fun e he ↦ ?_)
    exact isValue_ofFloat (h e he)
  | addMultiplier s x | setStat s x =>
    exact .object (isValue_of_append (isValue_of_singleton (.string s))
      (isValue_of_singleton (isValue_ofFloat h)))
  | modifyTagProbability s x | changeVariable s x =>
    exact .object (isValue_of_append (isValue_of_singleton (isValue_ofFloat h))
      (isValue_of_singleton (.string s)))
  | addTag tag replace =>
    refine .object (isValue_of_append ?_ (isValue_of_singleton (.string tag)))
    cases replace with
    | false => nofun
    | true => exact isValue_of_singleton (.bool true)
  | addStatus id duration =>
    exact .object (isValue_of_append (isValue_fieldIfSome fun n _ ↦ .int n)
      (isValue_of_singleton (.string id)))
  | modifyEventWeight event multiplier duration =>
    exact .object (isValue_of_append (isValue_of_singleton (.int duration))
      (isValue_of_append (isValue_of_singleton (.string event))
        (isValue_of_singleton (isValue_ofFloat h.1))))
  | setVariable key value =>
    exact .object (isValue_of_append (isValue_of_singleton (.string key))
      (isValue_of_singleton (Variable.isValue_toJson h)))
  | addItem s | removeItem s | removeTag s | removeStatus s | unlockEvent s | resetEvent s
  | triggerEnding s | unlockAchievement s => exact .object (isValue_of_singleton (.string s))
  | unknown raw => cases h

/-- **A normal directive** is read again as it is. -/
theorem ofJson?_toJson {directive : Directive Float} (h : directive.Normal) :
    ofJson? directive.toJson = some directive := by
  obtain ⟨type, read, htype, hreader, hread, hnull⟩ := read_params rearranges_canonical h
  have hknown : (ofTyped type directive.params).canonical.typed?.bind (fun typed ↦
      (reader? typed.1).bind fun read ↦ read typed.2) = some directive := by
    refine bind_typed?_ofTyped ?_ ?_
    · rw [hreader, Option.bind_some, hread]
    · rw [hreader, Option.bind_some, hnull]
  rw [toJson, htype, ofJson?]
  dsimp only
  rw [(isValue_ofTyped (isValue_params h)).value?, Option.map_some, ofValue_eq, hknown]
  rfl

theorem typeName?_ne_none {directive : Directive Float} (h : directive.Normal) :
    directive.typeName? ≠ none := by
  obtain ⟨type, _, htype, -⟩ := read_params rearranges_id h
  rw [htype]
  exact Option.some_ne_none type

/-- What a directive that was not understood does: nothing, and it counts as skipped. -/
def Idle (directive : Directive Float) : Prop :=
  ∀ {A G : Type} [AchievementSink A] [RandomSource G] (catalog : Catalog Float)
    (scene : Scene Float A G), scene.applyDirective catalog directive = (false, scene)

/-- A value is read as a directive, which is written so that it is read as the same directive
again. One that was not understood is written as it was, and does nothing. -/
theorem normalized {j : Json} (hj : j.IsValue) :
    ∃ directive, ofJson? j = some directive ∧ ofJson? directive.toJson = some directive ∧
      (directive.typeName? = none → directive.toJson = j.canonical ∧ directive.Idle) := by
  obtain ⟨directive, hread, hagain, hform | rfl⟩ :=
    hj.normalized ofValue_cases ofJson?_toJson fun _ ↦ rfl
  · exact ⟨directive, hread, hagain, fun hnone ↦ absurd hnone (typeName?_ne_none hform)⟩
  · exact ⟨_, hread, hagain, fun _ ↦ ⟨rfl, fun {_ _ _ _} _ _ ↦ rfl⟩⟩

end Directive

/-! ### Values -/

namespace Json

/-- **Every value is a condition and a directive, and is normalized once**: it is read, and what it
was read as is written so that it is read as the same again. What could not be understood is written
as it was; as a condition it holds in every life, and as a directive it does nothing. What can be
understood is: every normal condition and every normal directive is read from what it is written
as. -/
theorem normalized_once :
    (∀ j : Json, j.IsValue →
      (∃ condition, Condition.ofJson? j = some condition ∧
        Condition.ofJson? condition.toJson = some condition ∧
        (condition.typeName? = none →
          condition.toJson = j.canonical ∧ ∀ life, condition.holds life = true)) ∧
      ∃ directive, Directive.ofJson? j = some directive ∧
        Directive.ofJson? directive.toJson = some directive ∧
        (directive.typeName? = none → directive.toJson = j.canonical ∧ directive.Idle)) ∧
    (∀ condition : Condition Float, condition.Normal →
      Condition.ofJson? condition.toJson = some condition) ∧
    ∀ directive : Directive Float, directive.Normal →
      Directive.ofJson? directive.toJson = some directive :=
  ⟨fun _ hj ↦ ⟨Condition.normalized hj, Directive.normalized hj⟩,
    fun _ ↦ Condition.ofJson?_toJson, fun _ ↦ Directive.ofJson?_toJson⟩

/-- A condition with a symbol between blanks, a whole number and a field that nobody asked for. -/
def looseCheck : Json :=
  .object [("type", .string "stat_check"), ("note", .null),
    ("params", .object [("value", .int 50), ("stat", .string "health"),
      ("operator", .string " >= ")])]

/-- A condition on a variable without a comparison. -/
def luckyCheck : Condition Float := .carried (some "luck") none (some 0.5) none

/-- A directive that gives a variable a text that looks like a number. -/
def moveHouse : Directive Float := .setVariable "street" (.text "12")

/-- The loose check is normalized once, and the normal ones are read as they were written. -/
theorem normalized_once_looseCheck :
    looseCheck.IsValue ∧
      ((∃ condition, Condition.ofJson? looseCheck = some condition ∧
        Condition.ofJson? condition.toJson = some condition ∧
        (condition.typeName? = none →
          condition.toJson = looseCheck.canonical ∧ ∀ life, condition.holds life = true)) ∧
      ∃ directive, Directive.ofJson? looseCheck = some directive ∧
        Directive.ofJson? directive.toJson = some directive ∧
        (directive.typeName? = none →
          directive.toJson = looseCheck.canonical ∧ directive.Idle)) ∧
      (luckyCheck.Normal ∧ Condition.ofJson? luckyCheck.toJson = some luckyCheck) ∧
      moveHouse.Normal ∧ Directive.ofJson? moveHouse.toJson = some moveHouse := by
  have hparams : IsValue (.object [("value", .int 50), ("stat", .string "health"),
      ("operator", .string " >= ")]) := .object (by simp [IsValue.int, IsValue.string])
  have hvalue : looseCheck.IsValue := .object (by simp [IsValue.string, IsValue.null, hparams])
  have hnumber : ∀ x ∈ some (0.5 : Float), x.isFinite = true := by decide +kernel
  have hlucky : luckyCheck.Normal := ⟨nofun, hnumber⟩
  have hmove : moveHouse.Normal := trivial
  exact ⟨hvalue, normalized_once.1 looseCheck hvalue,
    ⟨hlucky, normalized_once.2.1 luckyCheck hlucky⟩,
    hmove, normalized_once.2.2 moveHouse hmove⟩

end Json

end LifeStory
