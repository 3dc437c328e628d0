/-!
# Finite maps and sets of names

A `StringMap β` is a list of entries whose keys strictly increase, so a map has one
representation and two maps are equal exactly when their lookups agree (`StringMap.ext_get?`).
Every view of a map (`keys`, `entries`) is therefore in the order of code points.
A `StringSet` is a map that holds nothing but its keys.
-/

namespace LifeStory

/-! ### Entry lists -/

namespace Entries

variable {β : Type}

/-- The keys of the list strictly increase. -/
abbrev Sorted (entries : List (String × β)) : Prop :=
  entries.Pairwise fun a b ↦ a.1 < b.1

/-- The value of the first entry with the key. -/
def get? (key : String) : List (String × β) → Option β
  | [] => none
  | (k, v) :: rest => if k = key then some v else get? key rest

/-- Puts an entry at its place in key order, over an entry that has the key already. -/
def insert (key : String) (value : β) : List (String × β) → List (String × β)
  | [] => [(key, value)]
  | (k, v) :: rest =>
    if key < k then (key, value) :: (k, v) :: rest
    else if k = key then (key, value) :: rest
    else (k, v) :: insert key value rest

/-- What is in a map after an insertion was put there by it, or was there before. -/
theorem mem_insert {key : String} {value : β} {e : String × β} {entries : List (String × β)}
    (h : e ∈ insert key value entries) : e = (key, value) ∨ e ∈ entries := by
  induction entries with
  | nil => simpa [insert] using h
  | cons head rest ih =>
    obtain ⟨k, v⟩ := head
    rw [insert] at h
    split at h
    · simpa using h
    · split at h
      · rcases List.mem_cons.1 h with h | h
        · exact .inl h
        · exact .inr (List.mem_cons_of_mem _ h)
      · rcases List.mem_cons.1 h with h | h
        · exact .inr (h ▸ List.mem_cons_self)
        · exact (ih h).imp id (List.mem_cons_of_mem _)

theorem lt_of_not_lt_of_ne {a b : String} (h : ¬ a < b) (hne : ¬ b = a) : b < a := by
  rcases Decidable.em (b < a) with h' | h'
  · exact h'
  · exact absurd (String.le_antisymm (String.not_lt.1 h') (String.not_lt.1 h)).symm hne

/-- An insertion keeps the entries in key order. -/
theorem Sorted.insert {key : String} {value : β} {entries : List (String × β)}
    (h : Sorted entries) : Sorted (insert key value entries) := by
  induction entries with
  | nil => simp [Entries.insert, Sorted]
  | cons head rest ih =>
    obtain ⟨k, v⟩ := head
    have hrest := List.pairwise_cons.1 h
    rw [Entries.insert]
    split
    · next hlt =>
      refine List.pairwise_cons.2 ⟨fun e he ↦ ?_, h⟩
      rcases List.mem_cons.1 he with rfl | he
      · exact hlt
      · exact String.lt_trans hlt (hrest.1 e he)
    · next hlt =>
      split
      · next heq =>
        subst heq
        exact List.pairwise_cons.2 ⟨hrest.1, hrest.2⟩
      · next hne =>
        refine List.pairwise_cons.2 ⟨fun e he ↦ ?_, ih hrest.2⟩
        rcases mem_insert he with rfl | he
        · exact lt_of_not_lt_of_ne hlt hne
        · exact hrest.1 e he

@[simp] theorem get?_insert_self (key : String) (value : β) (entries : List (String × β)) :
    get? key (insert key value entries) = some value := by
  induction entries with
  | nil => simp [insert, get?]
  | cons head rest ih =>
    obtain ⟨k, v⟩ := head
    rw [insert]
    split
    · simp [get?]
    · split
      · simp [get?]
      · next hne => simp [get?, hne, ih]

/-- An insertion does not touch the other keys. -/
theorem get?_insert_of_ne {key other : String} (value : β) (entries : List (String × β))
    (hne : key ≠ other) : get? other (insert key value entries) = get? other entries := by
  induction entries with
  | nil => simp [insert, get?, hne]
  | cons head rest ih =>
    obtain ⟨k, v⟩ := head
    rw [insert]
    split
    · simp [get?, hne]
    · split
      · next heq => subst heq; simp [get?, hne]
      · simp [get?, ih]

/-- A key below all keys is not found. -/
theorem get?_eq_none_of_lt {key : String} {entries : List (String × β)}
    (h : ∀ e ∈ entries, key < e.1) : get? key entries = none := by
  induction entries with
  | nil => rfl
  | cons head rest ih =>
    have hne : head.1 ≠ key := fun heq ↦
      String.lt_irrefl key (heq ▸ h head List.mem_cons_self)
    simp [get?, hne, ih fun e he ↦ h e (List.mem_cons_of_mem _ he)]

/-- To take out a key leaves the other keys. -/
theorem get?_filter_of_ne {key other : String} (entries : List (String × β)) (hne : key ≠ other) :
    get? other (entries.filter fun e ↦ e.1 ≠ key) = get? other entries := by
  induction entries with
  | nil => rfl
  | cons head rest ih =>
    obtain ⟨k, v⟩ := head
    by_cases heq : k = key
    · rw [List.filter_cons_of_neg (by simpa using heq), ih, get?, if_neg (heq ▸ hne)]
    · rw [List.filter_cons_of_pos (by simpa using heq), get?, get?, ih]

/-- A key that was taken out is not found. -/
theorem get?_filter_self (key : String) (entries : List (String × β)) :
    get? key (entries.filter fun e ↦ e.1 ≠ key) = none := by
  induction entries with
  | nil => rfl
  | cons head rest ih =>
    obtain ⟨k, v⟩ := head
    by_cases heq : k = key
    · rw [List.filter_cons_of_neg (by simpa using heq), ih]
    · rw [List.filter_cons_of_pos (by simpa using heq), get?, if_neg heq, ih]

/-- Sorted lists with the same lookups are equal. -/
theorem eq_of_get?_eq {l₁ l₂ : List (String × β)} (h₁ : Sorted l₁) (h₂ : Sorted l₂)
    (h : ∀ key, get? key l₁ = get? key l₂) : l₁ = l₂ := by
  induction l₁ generalizing l₂ with
  | nil =>
    cases l₂ with
    | nil => rfl
    | cons b rest => simpa [get?] using h b.1
  | cons a rest₁ ih =>
    cases l₂ with
    | nil => simpa [get?] using h a.1
    | cons b rest₂ =>
      obtain ⟨k₁, v₁⟩ := a
      obtain ⟨k₂, v₂⟩ := b
      have p₁ := List.pairwise_cons.1 h₁
      have p₂ := List.pairwise_cons.1 h₂
      have hk : k₁ = k₂ := by
        rcases Decidable.em (k₁ = k₂) with heq | hne
        · exact heq
        · rcases Decidable.em (k₁ < k₂) with hlt | hlt
          · have hnone : get? k₁ ((k₂, v₂) :: rest₂) = none := get?_eq_none_of_lt fun e he ↦ by
              rcases List.mem_cons.1 he with rfl | he
              · exact hlt
              · exact String.lt_trans hlt (p₂.1 e he)
            have := h k₁
            rw [hnone] at this
            simp [get?] at this
          · have hlt := lt_of_not_lt_of_ne hlt (Ne.symm hne)
            have hnone : get? k₂ ((k₁, v₁) :: rest₁) = none := get?_eq_none_of_lt fun e he ↦ by
              rcases List.mem_cons.1 he with rfl | he
              · exact hlt
              · exact String.lt_trans hlt (p₁.1 e he)
            have := h k₂
            rw [hnone] at this
            simp [get?] at this
      subst hk
      have hv : v₁ = v₂ := by simpa [get?] using h k₁
      subst hv
      congr 1
      refine ih p₁.2 p₂.2 fun key ↦ ?_
      rcases Decidable.em (k₁ = key) with rfl | hne
      · rw [get?_eq_none_of_lt p₁.1, get?_eq_none_of_lt p₂.1]
      · simpa [get?, hne] using h key

end Entries

/-! ### Maps -/

/-- A finite map from names to values, kept in the order of its keys. -/
structure StringMap (β : Type) where
  /-- The entries in key order. -/
  entries : List (String × β)
  /-- No key comes twice, and the keys increase. -/
  sorted : Entries.Sorted entries

namespace StringMap

variable {β γ : Type}

/-- The map without entries. -/
def empty : StringMap β := ⟨[], .nil⟩

instance : EmptyCollection (StringMap β) := ⟨empty⟩

instance : Inhabited (StringMap β) := ⟨empty⟩

instance [BEq β] : BEq (StringMap β) := ⟨fun a b ↦ a.entries == b.entries⟩

/-- The value that the map gives to a key. -/
def get? (map : StringMap β) (key : String) : Option β := Entries.get? key map.entries

/-- Whether the map gives a value to the key. -/
def contains (map : StringMap β) (key : String) : Bool := (map.get? key).isSome

/-- Gives a value to a key, in place of the one it has. -/
def insert (map : StringMap β) (key : String) (value : β) : StringMap β :=
  ⟨Entries.insert key value map.entries, map.sorted.insert⟩

/-- Takes a key out of the map. -/
def erase (map : StringMap β) (key : String) : StringMap β :=
  ⟨map.entries.filter fun e ↦ e.1 ≠ key, map.sorted.sublist List.filter_sublist⟩

/-- The keys in increasing order. -/
def keys (map : StringMap β) : List String := map.entries.map Prod.fst

/-- The entries of the second map over those of the first. -/
def union (first second : StringMap β) : StringMap β :=
  second.entries.foldl (fun map e ↦ map.insert e.1 e.2) first

/-- The map of a list of entries; of two entries with one key the later counts. -/
def ofList (entries : List (String × β)) : StringMap β :=
  entries.foldl (fun map e ↦ map.insert e.1 e.2) empty

@[simp] theorem get?_empty (key : String) : (empty : StringMap β).get? key = none := rfl

@[simp] theorem get?_insert_self (map : StringMap β) (key : String) (value : β) :
    (map.insert key value).get? key = some value :=
  Entries.get?_insert_self key value map.entries

theorem get?_insert_of_ne (map : StringMap β) (value : β) {key other : String}
    (h : key ≠ other) : (map.insert key value).get? other = map.get? other :=
  Entries.get?_insert_of_ne value map.entries h

/-- What is found after an insertion. -/
theorem get?_insert (map : StringMap β) (key other : String) (value : β) :
    (map.insert key value).get? other = if key = other then some value else map.get? other := by
  by_cases heq : key = other
  · rw [if_pos heq, ← heq, get?_insert_self]
  · rw [if_neg heq, get?_insert_of_ne map value heq]

@[simp] theorem get?_erase_self (map : StringMap β) (key : String) :
    (map.erase key).get? key = none :=
  Entries.get?_filter_self key map.entries

theorem get?_erase_of_ne (map : StringMap β) {key other : String} (h : key ≠ other) :
    (map.erase key).get? other = map.get? other :=
  Entries.get?_filter_of_ne map.entries h

/-- A key that was inserted is there. -/
theorem contains_insert_self (map : StringMap β) (key : String) (value : β) :
    (map.insert key value).contains key = true := by
  rw [contains, get?_insert_self]
  rfl

/-- A key that is there stays when another one is given a value. -/
theorem contains_insert {map : StringMap β} {key : String} (h : map.contains key = true)
    (other : String) (value : β) : (map.insert other value).contains key = true := by
  by_cases heq : other = key
  · rw [heq]
    exact map.contains_insert_self key value
  · rwa [contains, get?_insert_of_ne map value heq]

/-- What has a value in the map is the key that was given one, or had one before. -/
theorem contains_insert_iff {map : StringMap β} {key other : String} {value : β} :
    (map.insert key value).contains other = true ↔ other = key ∨ map.contains other = true := by
  by_cases heq : key = other
  · subst heq
    exact iff_of_true (contains_insert_self map key value) (.inl rfl)
  · have hne : other ≠ key := fun h ↦ heq h.symm
    rw [contains, get?_insert_of_ne map value heq, contains]
    simp [hne]

/-- What is still in a map after another key was taken out was in it before. -/
theorem contains_of_contains_erase {map : StringMap β} {key other : String}
    (h : (map.erase key).contains other = true) : map.contains other = true := by
  by_cases heq : key = other
  · subst heq
    rw [contains, get?_erase_self] at h
    cases h
  · rwa [contains, get?_erase_of_ne map heq] at h

/-- The keys after a list of insertions are those of the list and those that were there. -/
theorem contains_foldl_insert_iff {entries : List (String × β)} {map : StringMap β}
    {key : String} :
    (entries.foldl (fun map e ↦ map.insert e.1 e.2) map).contains key = true ↔
      key ∈ entries.map Prod.fst ∨ map.contains key = true := by
  induction entries generalizing map with
  | nil => simp
  | cons first rest ih =>
    rw [List.foldl_cons, ih, contains_insert_iff, List.map_cons, List.mem_cons, or_assoc,
      or_left_comm]

/-- A map of entries has their keys. -/
theorem contains_ofList_iff {entries : List (String × β)} {key : String} :
    (ofList entries).contains key = true ↔ key ∈ entries.map Prod.fst := by
  rw [ofList, contains_foldl_insert_iff]
  exact or_iff_left Bool.false_ne_true

/-- Entries in key order that are inserted one after the other are found before those that were
there. -/
theorem get?_foldl_insert_of_sorted {entries : List (String × β)} (h : Entries.Sorted entries)
    (map : StringMap β) (key : String) :
    (entries.foldl (fun map e ↦ map.insert e.1 e.2) map).get? key =
      (Entries.get? key entries).or (map.get? key) := by
  induction entries generalizing map with
  | nil => rfl
  | cons first rest ih =>
    obtain ⟨k, value⟩ := first
    obtain ⟨hfirst, hrest⟩ := List.pairwise_cons.1 h
    rw [List.foldl_cons, ih hrest, get?_insert, Entries.get?]
    by_cases heq : k = key
    · subst heq
      rw [if_pos rfl, if_pos rfl, Entries.get?_eq_none_of_lt hfirst, Option.none_or, Option.some_or]
    · rw [if_neg heq, if_neg heq]

/-- What the second map gives counts, and what it does not give is as in the first. -/
theorem get?_union (first second : StringMap β) (key : String) :
    (first.union second).get? key = (second.get? key).or (first.get? key) :=
  get?_foldl_insert_of_sorted second.sorted first key

/-- Maps with the same lookups are equal. -/
theorem ext_get? {a b : StringMap β} (h : ∀ key, a.get? key = b.get? key) : a = b := by
  obtain ⟨l₁, h₁⟩ := a
  obtain ⟨l₂, h₂⟩ := b
  obtain rfl := Entries.eq_of_get?_eq h₁ h₂ h
  rfl

end StringMap

/-! ### Sets -/

/-- A finite set of names. -/
abbrev StringSet : Type := StringMap Unit

namespace StringSet

/-- Puts a name into the set. -/
def add (set : StringSet) (name : String) : StringSet := set.insert name ()

/-- The set of the names in a list. -/
def ofNames (names : List String) : StringSet := names.foldl add StringMap.empty

/-- A set with one more name holds that name and those that it held. -/
theorem contains_add {set : StringSet} {name other : String} :
    (set.add name).contains other = true ↔ other = name ∨ set.contains other = true :=
  StringMap.contains_insert_iff

/-- Names that are added one after the other are in the set, and so is what was in it. -/
theorem contains_foldl_add_iff {names : List String} {set : StringSet} {name : String} :
    (names.foldl add set).contains name = true ↔ name ∈ names ∨ set.contains name = true := by
  induction names generalizing set with
  | nil => simp
  | cons first rest ih =>
    rw [List.foldl_cons, ih, contains_add, List.mem_cons, or_assoc, or_left_comm]

end StringSet

end LifeStory
