import LifeStory.Json.Record
import LifeStory.Proofs.KeyOrder

/-!
# Records that are read as they were written

What is written as an object is found again by key, so it does not matter how the fields have been
arranged since (`Json.Rearranges`). `Json.Fields.Finds` says so of the fields of a record, one after
the other; the other statements do for leaves, lists, maps, sets and what may be null. The converse
is `Json.Fields.Ensures`: what holds of everything that fields can read out of a value.
-/

namespace LifeStory.Json

variable {α β : Type} {g : Json → Json}

/-! ### Lists, maps and sets -/

/-- What succeeds for every item succeeds for the list. -/
theorem mapM_eq_some_filterMap {f : α → Option β} {items : List α}
    (h : ∀ a ∈ items, (f a).isSome = true) : items.mapM f = some (items.filterMap f) := by
  induction items with
  | nil => rfl
  | cons a rest ih =>
    obtain ⟨b, hb⟩ := Option.isSome_iff_exists.1 (h a List.mem_cons_self)
    rw [List.mapM_cons, hb, ih fun other hother ↦ h other (List.mem_cons_of_mem _ hother),
      List.filterMap_cons_some hb]
    rfl

/-- Each item that is read was read out of one that was given. -/
theorem exists_of_mem_mapM {f : α → Option β} {items : List α} {read : List β}
    (h : items.mapM f = some read) {b : β} (hb : b ∈ read) : ∃ a ∈ items, f a = some b := by
  induction items generalizing read with
  | nil =>
    obtain rfl := Option.some.inj h
    cases hb
  | cons a rest ih =>
    rw [List.mapM_cons] at h
    obtain ⟨first, hfirst, h⟩ := Option.bind_eq_some_iff.1 h
    obtain ⟨others, hothers, h⟩ := Option.bind_eq_some_iff.1 h
    obtain rfl := Option.some.inj h
    rcases List.mem_cons.1 hb with rfl | hb
    · exact ⟨a, List.mem_cons_self, hfirst⟩
    · obtain ⟨other, hother, hread⟩ := ih hothers hb
      exact ⟨other, List.mem_cons_of_mem _ hother, hread⟩

theorem filterMap_map_eq_self {f : β → Option α} {write : α → β} {items : List α}
    (h : ∀ a ∈ items, f (write a) = some a) : (items.map write).filterMap f = items := by
  rw [List.filterMap_map]
  exact (List.filterMap_congr h).trans List.filterMap_some

/-- A list is read again if each of its items is. -/
theorem list?_ofList (hg : Rearranges g) {decode : Json → Option α} {encode : α → Json}
    {items : List α} (h : ∀ a ∈ items, decode (g (encode a)) = some a) :
    list? decode (g (ofList encode items)) = some items := by
  rw [ofList, hg.array, list?, List.map_map, mapM_eq_some_filterMap]
  · exact congrArg some (filterMap_map_eq_self h)
  · refine List.forall_mem_map.2 fun a ha ↦ ?_
    rw [Function.comp_apply, h a ha]
    rfl

/-- Text is read again; arranging fields leaves it as it is. -/
theorem string?_string (hg : Rearranges g) (s : String) : string? (g (.string s)) = some s := by
  rw [hg.string]
  rfl

theorem list?_ofStrings (hg : Rearranges g) (texts : List String) :
    list? string? (g (ofStrings texts)) = some texts :=
  list?_ofList hg fun s _ ↦ string?_string hg s

/-- A map is read again if each of its values is, with its keys in the same order. -/
theorem stringMap?_ofStringMap (hg : Rearranges g) {decode : Json → Option α}
    {encode : α → Json} {map : StringMap α}
    (h : ∀ e ∈ map.entries, decode (g (encode e.2)) = some e.2) :
    stringMap? decode (g (ofStringMap encode map)) = some map := by
  have hkeys : ((map.entries.map fun e ↦ (e.1, encode e.2)).map Prod.fst).Nodup := by
    rw [List.map_map]
    exact map.sorted.nodup
  obtain ⟨fields, hfields, hperm⟩ := hg.object _ hkeys
  rw [List.map_map] at hperm
  -- Every field is an entry as it was written.
  have hread : ∀ e ∈ map.entries, (decode (Prod.map id g (e.1, encode e.2)).2).map (Prod.mk e.1) =
      some e := by
    intro e he
    rw [Prod.map_apply, h e he]
    rfl
  have hsome : ∀ field ∈ fields, ((decode field.2).map (Prod.mk field.1)).isSome = true := by
    intro field hfield
    obtain ⟨e, he, rfl⟩ := List.mem_map.1 (hperm.mem_iff.1 hfield)
    exact Option.isSome_iff_exists.2 ⟨e, hread e he⟩
  have hentries : (fields.filterMap fun field ↦ (decode field.2).map (Prod.mk field.1)).Perm
      map.entries := by
    refine (hperm.filterMap _).trans ?_
    rw [filterMap_map_eq_self hread]
  rw [ofStringMap, hfields, stringMap?, mapM_eq_some_filterMap hsome, Option.map_some,
    StringMap.ofList_eq hentries]

/-- A set of names is the map of the names to nothing. -/
theorem ofNames_eq (names : List String) :
    StringSet.ofNames names = StringMap.ofList (names.map fun name ↦ (name, ())) := by
  rw [StringSet.ofNames, StringMap.ofList, List.foldl_map]
  rfl

/-- A set of names is read again. -/
theorem stringSet?_ofStringSet (hg : Rearranges g) (set : StringSet) :
    stringSet? (g (ofStringSet set)) = some set := by
  have hset : StringSet.ofNames set.keys = set := by
    rw [ofNames_eq, StringMap.keys, List.map_map]
    exact StringMap.ofList_eq (.of_eq (List.map_id set.entries))
  rw [stringSet?, ofStringSet, list?_ofStrings hg, Option.map_some, hset]

/-! ### Leaves -/

theorem bool?_bool (hg : Rearranges g) (b : Bool) : bool? (g (.bool b)) = some b := by
  rw [hg.bool]
  rfl

/-- A finite number is read again to the last bit. -/
theorem float?_ofFloat (hg : Rearranges g) {x : Float} (h : x.isFinite = true) :
    float? (g (ofFloat x)) = some x := by
  rw [ofFloat, if_pos h, hg.real]
  rfl

/-- A number that is not above its bound is read again. -/
theorem natUpTo?_ofNat (hg : Rearranges g) {bound n : Nat} (h : n ≤ bound) :
    natUpTo? bound (g (ofNat n)) = some n := by
  have hrange : (0 : Int) ≤ n ∧ (n : Int) ≤ bound := ⟨Int.natCast_nonneg n, Int.ofNat_le.2 h⟩
  rw [ofNat, hg.int, natUpTo?, if_pos hrange, Int.toNat_natCast]

/-- The range of a number of 32 bits with a sign. -/
def IsInt32 (n : Int) : Prop := -2147483648 ≤ n ∧ n ≤ 2147483647

instance (n : Int) : Decidable (IsInt32 n) := inferInstanceAs (Decidable (_ ∧ _))

/-- An integer of 32 bits is read again. -/
theorem int32?_int (hg : Rearranges g) {n : Int} (h : IsInt32 n) :
    int32? (g (.int n)) = some n := by
  rw [hg.int]
  exact if_pos h

/-- What is not null is read as what it is. -/
theorem nullable?_of_some {decode : Json → Option α} {j : Json} {a : α}
    (h : decode j = some a) (hnull : decode .null = none) : nullable? decode j = some (some a) := by
  cases j with
  | null => cases h.symm.trans hnull
  | _ => exact congrArg (Option.map some) h

/-- What may be null is read again, as long as nothing else is written as null. -/
theorem nullable?_ofOption (hg : Rearranges g) {decode : Json → Option α} {encode : α → Json}
    {o : Option α} (h : ∀ a ∈ o, decode (g (encode a)) = some a) (hnull : decode .null = none) :
    nullable? decode (g (ofOption encode o)) = some o := by
  cases o with
  | none =>
    rw [ofOption, hg.null]
    rfl
  | some a => exact nullable?_of_some (h a rfl) hnull

/-- A name out of a table is read as what it stands for, if nothing before it has that name. -/
theorem oneOf?_string (hg : Rearranges g) {name : α → String} {all : List α} {a : α}
    (h : all.find? (fun b ↦ name b = name a) = some a) :
    oneOf? name all (g (.string (name a))) = some a := by
  rw [hg.string]
  exact h

namespace Fields

/-! ### Fields that are found -/

/-- The fields that were written under one of some names. -/
def named (names : List String) (written : List (String × Json)) : List (String × Json) :=
  written.filter fun f ↦ f.1 ∈ names

section Named

variable {names : List String}

@[simp] theorem named_nil : named names [] = [] := rfl

@[simp] theorem named_cons (key : String) (j : Json) (rest : List (String × Json)) :
    named names ((key, j) :: rest) =
      if key ∈ names then (key, j) :: named names rest else named names rest := by
  by_cases h : key ∈ names <;> simp [named, h]

@[simp] theorem named_append (first second : List (String × Json)) :
    named names (first ++ second) = named names first ++ named names second :=
  List.filter_append ..

/-- A field that is left out without a value is not found. -/
@[simp] theorem named_fieldIfSome (name : String) (encode : α → Json) (o : Option α) :
    named names (fieldIfSome name encode o) =
      if name ∈ names then fieldIfSome name encode o else [] := by
  cases o with
  | none => simp [fieldIfSome]
  | some a => simp [fieldIfSome]

/-- The fields under some names do not depend on the arrangement, but for their order. -/
theorem named_perm (names : List String) {given written : List (String × Json)}
    (h : given.Perm (written.map (Prod.map id g))) :
    (named names given).Perm ((named names written).map (Prod.map id g)) := by
  refine (h.filter _).trans ?_
  rw [List.filter_map]
  exact .refl _

end Named

/-- Fields find a value in an object with what was written, however that is arranged. -/
def Finds (g : Json → Json) (fields : Fields α) (written : List (String × Json)) (a : α) : Prop :=
  ∀ given : List (String × Json), given.Perm (written.map (Prod.map id g)) →
    fields.run (.keyed given) = some (a, .keyed given)

namespace Finds

variable {written : List (String × Json)} {a : α} {b : β}

theorem pure (a : α) : Finds g (Pure.pure a) written a := fun _ _ ↦ rfl

/-- Fields that are read one after the other find what they find one by one. -/
theorem bind {fields : Fields α} {next : α → Fields β} (h : Finds g fields written a)
    (hnext : Finds g (next a) written b) : Finds g (fields >>= next) written b := by
  intro given hgiven
  rw [StateT.run_bind, h given hgiven]
  exact hnext given hgiven

theorem map (f : α → β) {fields : Fields α} (h : Finds g fields written a) :
    Finds g (f <$> fields) written (f a) := by
  intro given hgiven
  rw [StateT.run_map, h given hgiven]
  rfl

variable {names : List String} {decode : Json → Option α} {absent short : Option α}

/-- A field that was written under one of its names is read. -/
theorem read {j : Json} (hwritten : (named names written).map Prod.snd = [j])
    (h : decode (g j) = some a) : Finds g (Fields.read names decode absent short) written a := by
  intro given hgiven
  obtain ⟨⟨key, j⟩, hone, rfl⟩ := List.map_eq_singleton_iff.1 hwritten
  have hfound := named_perm names hgiven
  rw [hone] at hfound
  have hgivenOne : (given.filter fun f ↦ f.1 ∈ names) = [(key, g j)] :=
    List.perm_singleton.1 hfound
  show Fields.read names decode absent short (.keyed given) = _
  rw [Fields.read, hgivenOne]
  exact congrArg (Option.map (·, Record.keyed given)) h

/-- A field that was left out stands for its value. -/
theorem read_absent (hwritten : named names written = []) (h : absent = some a) :
    Finds g (Fields.read names decode absent short) written a := by
  intro given hgiven
  have hfound := named_perm names hgiven
  rw [hwritten] at hfound
  have hnone : (given.filter fun f ↦ f.1 ∈ names) = [] := List.perm_nil.1 hfound
  show Fields.read names decode absent short (.keyed given) = _
  rw [Fields.read, hnone]
  exact congrArg (Option.map (·, Record.keyed given)) h

/-- A field that is left out when there is nothing to write is read as nothing. -/
theorem maybe {name : String} {encode : α → Json} (o : Option α)
    (hwritten : named [name] written = fieldIfSome name encode o)
    (h : ∀ a ∈ o, decode (g (encode a)) = some a) (hnull : decode .null = none) :
    Finds g (Fields.maybe name decode) written o := by
  cases o with
  | none => exact read_absent hwritten rfl
  | some a => exact read (congrArg (List.map Prod.snd) hwritten) (nullable?_of_some (h a rfl) hnull)

end Finds

/-- A record is read as it was written. -/
theorem Finds.record (hg : Rearranges g) {fields : Fields α} {written : List (String × Json)}
    {a : α} (hkeys : (written.map Prod.fst).Nodup) (h : Finds g fields written a) :
    record? fields (g (.object written)) = some a := by
  obtain ⟨given, hobject, hgiven⟩ := hg.object written hkeys
  rw [hobject, record?]
  show ((fields.run (.keyed given)).bind fun read ↦ _) = some a
  rw [h given hgiven]
  rfl

/-! ### What fields can read -/

/-- What has not been read of a record is made of values. -/
def AreValues : Record → Prop
  | .keyed fields => ∀ field ∈ fields, field.2.IsValue
  | .listed items => ∀ item ∈ items, item.IsValue

/-- Whatever fields read out of values has a property. -/
def Ensures (fields : Fields α) (P : α → Prop) : Prop :=
  ∀ record, AreValues record → ∀ a rest, fields.run record = some (a, rest) → P a ∧ AreValues rest

namespace Ensures

variable {P : α → Prop} {Q : β → Prop}

theorem pure {a : α} (h : P a) : Ensures (Pure.pure a) P := by
  intro record hrecord a' rest hread
  obtain ⟨rfl, rfl⟩ := Prod.mk.inj (Option.some.inj hread)
  exact ⟨h, hrecord⟩

/-- What earlier fields ensure may be used for the later ones. -/
theorem bind {fields : Fields α} {next : α → Fields β} (h : Ensures fields P)
    (hnext : ∀ a, P a → Ensures (next a) Q) : Ensures (fields >>= next) Q := by
  intro record hrecord b rest hread
  rw [StateT.run_bind] at hread
  obtain ⟨⟨a, between⟩, hfirst, hsecond⟩ := Option.bind_eq_some_iff.1 hread
  obtain ⟨ha, hbetween⟩ := h record hrecord a between hfirst
  exact hnext a ha between hbetween b rest hsecond

/-- What is made of the fields has what follows from what they ensure. -/
theorem map {f : α → β} {fields : Fields α} (h : Ensures fields P) (hf : ∀ a, P a → Q (f a)) :
    Ensures (f <$> fields) Q := by
  rw [map_eq_pure_bind]
  exact h.bind fun a ha ↦ pure (hf a ha)

/-- A field is read, or stands for a value. -/
theorem read {names : List String} {decode : Json → Option α} {absent short : Option α}
    (h : ∀ j a, j.IsValue → decode j = some a → P a) (habsent : ∀ a ∈ absent, P a)
    (hshort : ∀ a ∈ short, P a) : Ensures (Fields.read names decode absent short) P := by
  intro record hrecord a rest hread
  change Fields.read names decode absent short record = some (a, rest) at hread
  cases record with
  | keyed fields =>
    rw [Fields.read] at hread
    split at hread
    · obtain ⟨value, hvalue, hpair⟩ := Option.map_eq_some_iff.1 hread
      obtain ⟨rfl, rfl⟩ := Prod.mk.inj hpair
      exact ⟨habsent value hvalue, hrecord⟩
    · next field hone =>
      obtain ⟨value, hvalue, hpair⟩ := Option.map_eq_some_iff.1 hread
      obtain ⟨rfl, rfl⟩ := Prod.mk.inj hpair
      have hmem : field ∈ fields := (List.mem_filter.1 (hone ▸ List.mem_singleton_self field)).1
      exact ⟨h field.2 value (hrecord field hmem) hvalue, hrecord⟩
    · cases hread
  | listed items =>
    cases items with
    | nil =>
      obtain ⟨value, hvalue, hpair⟩ := Option.map_eq_some_iff.1 hread
      obtain ⟨rfl, rfl⟩ := Prod.mk.inj hpair
      exact ⟨hshort value hvalue, hrecord⟩
    | cons item remaining =>
      obtain ⟨value, hvalue, hpair⟩ := Option.map_eq_some_iff.1 hread
      obtain ⟨rfl, rfl⟩ := Prod.mk.inj hpair
      exact ⟨h item value (hrecord item List.mem_cons_self) hvalue,
        fun other hother ↦ hrecord other (List.mem_cons_of_mem _ hother)⟩

/-- A field of which nothing is asked. -/
theorem read_any {names : List String} {decode : Json → Option α} {absent short : Option α} :
    Ensures (Fields.read names decode absent short) fun _ ↦ True :=
  read (fun _ _ _ _ ↦ trivial) (fun _ _ ↦ trivial) fun _ _ ↦ trivial

/-- A required field ensures what its decoder ensures. -/
theorem required {name : String} {decode : Json → Option α}
    (h : ∀ j a, j.IsValue → decode j = some a → P a) : Ensures (Fields.required name decode) P :=
  read h nofun nofun

/-- A field that may be missing ensures what its decoder ensures, if it is there. -/
theorem maybe {name : String} {decode : Json → Option α}
    (h : ∀ j a, j.IsValue → decode j = some a → P a) :
    Ensures (Fields.maybe name decode) fun o ↦ ∀ a ∈ o, P a := by
  refine read (fun j o hj hread a ha ↦ ?_) ?_ ?_
  · obtain rfl := ha
    cases j with
    | null => cases hread
    | _ =>
      obtain ⟨value, hvalue, heq⟩ := Option.map_eq_some_iff.1 hread
      exact Option.some.inj heq ▸ h _ value hj hvalue
  · rintro _ ⟨⟩ _ ⟨⟩
  · rintro _ ⟨⟩ _ ⟨⟩

/-- What a record is read as has the property. -/
theorem record {fields : Fields α} (h : Ensures fields P) {j : Json} (hj : j.IsValue) {a : α}
    (hread : record? fields j = some a) : P a := by
  -- Whatever is asked of the rest, the value is what the fields have read.
  have hrun : ∀ start, AreValues start → ∀ finish : α × Record → Option α,
      (∀ read b, finish read = some b → b = read.1) →
        (fields.run start).bind finish = some a → P a := by
    intro start hstart finish hfinish hlast
    obtain ⟨read, hfields, hvalue⟩ := Option.bind_eq_some_iff.1 hlast
    rw [hfinish read a hvalue]
    exact (h start hstart read.1 read.2 hfields).1
  cases hj with
  | array hitems =>
    refine hrun (.listed _) hitems _ (fun read b hb ↦ ?_) hread
    dsimp only at hb
    split at hb
    · cases hb
    · exact (Option.some.inj hb).symm
  | object hgiven =>
    refine hrun (.keyed _) hgiven _ (fun read b hb ↦ ?_) hread
    dsimp only at hb
    split at hb
    · cases hb
    · exact (Option.some.inj hb).symm
  | _ => cases hread

end Ensures

end Fields

/-- What the values of a map are read as has a property. -/
theorem stringMap?_ensures {P : α → Prop} {decode : Json → Option α}
    (h : ∀ j a, j.IsValue → decode j = some a → P a) {j : Json} (hj : j.IsValue)
    {map : StringMap α} (hread : stringMap? decode j = some map) : ∀ e ∈ map.entries, P e.2 := by
  cases hj with
  | @object fields hfields =>
    obtain ⟨entries, hentries, rfl⟩ := Option.map_eq_some_iff.1 hread
    intro e he
    rw [StringMap.entries_ofList] at he
    obtain ⟨field, hfield, hvalue⟩ := exists_of_mem_mapM hentries
      ((Entries.mem_insertAll he).resolve_right List.not_mem_nil)
    obtain ⟨value, hdecode, rfl⟩ := Option.map_eq_some_iff.1 hvalue
    exact h field.2 value (hfields field hfield) hdecode
  | _ => cases hread

end LifeStory.Json
