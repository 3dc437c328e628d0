import LifeStory.Json.Value
import LifeStory.StringMap
import Mathlib.Data.List.Nodup

/-!
# Values in key order

`Json.canonical` moves fields and loses none, as long as no object gives a key twice; this is all
that a reader of records has to know of it, and of any other way to arrange fields
(`Json.Rearranges`). A value in key order is left as it is (`Json.IsValue.canonical_canonical`), and
so is a map that is made of its own entries, in whatever order they come (`StringMap.ofList_eq`).
-/

namespace LifeStory

/-! ### Entries that are inserted one after the other -/

namespace Entries

variable {β : Type} {entries first second : List (String × β)}

/-- Inserts entries in order. -/
def insertAll (entries start : List (String × β)) : List (String × β) :=
  entries.foldl (fun sorted e ↦ insert e.1 e.2 sorted) start

/-- A key that is new is put among the entries, and nothing is lost. -/
theorem insert_perm {key : String} (h : key ∉ entries.map Prod.fst) (value : β) :
    (insert key value entries).Perm ((key, value) :: entries) := by
  induction entries with
  | nil => exact .refl _
  | cons head rest ih =>
    obtain ⟨k, v⟩ := head
    rw [List.map_cons, List.mem_cons, not_or] at h
    rw [insert]
    split
    · exact .refl _
    · rw [if_neg (Ne.symm h.1)]
      exact ((ih h.2).cons (k, v)).trans (.swap ..)

/-- Entries with different keys are all kept. -/
theorem insertAll_perm {start : List (String × β)}
    (h : ((entries ++ start).map Prod.fst).Nodup) :
    (insertAll entries start).Perm (entries ++ start) := by
  induction entries generalizing start with
  | nil => exact .refl _
  | cons e rest ih =>
    obtain ⟨hnew, -⟩ := List.nodup_cons.1 h
    have hnotStart : e.1 ∉ start.map Prod.fst := by
      intro hmem
      obtain ⟨other, hother, hkey⟩ := List.mem_map.1 hmem
      exact hnew (List.mem_map.2 ⟨other, List.mem_append_right rest hother, hkey⟩)
    have hperm : (rest ++ insert e.1 e.2 start).Perm (e :: rest ++ start) :=
      ((insert_perm hnotStart e.2).append_left rest).trans List.perm_middle
    exact (ih ((hperm.map Prod.fst).nodup_iff.2 h)).trans hperm

/-- Entries are inserted in key order, whatever the order in which they come. -/
theorem Sorted.insertAll {start : List (String × β)} (h : Sorted start)
    (entries : List (String × β)) : Sorted (Entries.insertAll entries start) := by
  induction entries generalizing start with
  | nil => exact h
  | cons e rest ih => exact ih h.insert

/-- Every entry was inserted, or was there at the start. -/
theorem mem_insertAll {start : List (String × β)} {e : String × β}
    (h : e ∈ insertAll entries start) : e ∈ entries ∨ e ∈ start := by
  induction entries generalizing start with
  | nil => exact .inr h
  | cons first rest ih =>
    rcases ih h with hrest | hstart
    · exact .inl (List.mem_cons_of_mem _ hrest)
    · rcases mem_insert hstart with rfl | hmem
      · exact .inl List.mem_cons_self
      · exact .inr hmem

/-- No key stands twice in key order. -/
theorem Sorted.nodup (h : Sorted entries) : (entries.map Prod.fst).Nodup := by
  rw [List.Nodup, List.pairwise_map]
  refine h.imp fun {a b} hlt ↦ ?_
  rintro heq
  exact String.lt_irrefl b.1 (heq ▸ hlt)

/-- Sorted lists of the same entries are equal. -/
theorem Sorted.eq_of_perm (hfirst : Sorted first) (hsecond : Sorted second)
    (h : first.Perm second) : first = second :=
  h.eq_of_pairwise (fun _ _ _ _ hlt hgt ↦ absurd (String.lt_trans hlt hgt) (String.lt_irrefl _))
    hfirst hsecond

/-- Sorted entries stay as they are. -/
theorem Sorted.insertAll_nil (h : Sorted entries) : Entries.insertAll entries [] = entries := by
  have hnodup : ((entries ++ []).map Prod.fst).Nodup := by rw [List.append_nil]; exact h.nodup
  refine Sorted.eq_of_perm (Sorted.insertAll .nil entries) h ((insertAll_perm hnodup).trans ?_)
  rw [List.append_nil]

end Entries

namespace StringMap

variable {β : Type}

theorem entries_ofList (entries : List (String × β)) :
    (ofList entries).entries = Entries.insertAll entries [] := by
  have hfold : ∀ map : StringMap β,
      (entries.foldl (fun map e ↦ map.insert e.1 e.2) map).entries =
        Entries.insertAll entries map.entries := by
    induction entries with
    | nil => exact fun map ↦ rfl
    | cons e rest ih => exact fun map ↦ ih (map.insert e.1 e.2)
  exact hfold empty

/-- A map is made of its own entries, in whatever order they come. -/
theorem ofList_eq {map : StringMap β} {entries : List (String × β)}
    (h : entries.Perm map.entries) : ofList entries = map := by
  have hnodup : ((entries ++ []).map Prod.fst).Nodup := by
    rw [List.append_nil]
    exact (h.map Prod.fst).nodup_iff.2 map.sorted.nodup
  have hperm : (ofList entries).entries.Perm map.entries := by
    rw [entries_ofList]
    exact (Entries.insertAll_perm hnodup).trans ((List.append_nil entries).symm ▸ h)
  obtain ⟨sorted, hsorted⟩ := map
  obtain rfl : (ofList entries).entries = sorted :=
    Entries.Sorted.eq_of_perm (ofList entries).sorted hsorted hperm
  rfl

end StringMap

namespace Json

/-! ### Fields in key order -/

/-- Fields of an object are inserted like entries of a map. -/
theorem insertField_eq (key : String) (value : Json) (fields : List (String × Json)) :
    insertField key value fields = Entries.insert key value fields := by
  induction fields with
  | nil => rfl
  | cons head rest ih => rw [insertField, Entries.insert, ih]

/-- To sort fields is to insert them one after the other. -/
theorem sortFields_eq (fields : List (String × Json)) :
    sortFields fields = Entries.insertAll fields [] := by
  rw [sortFields, Entries.insertAll]
  simp only [insertField_eq]

theorem canonicalItems_eq (items : List Json) : canonicalItems items = items.map canonical := by
  induction items with
  | nil => rfl
  | cons item rest ih => rw [canonicalItems, ih, List.map_cons]

theorem canonicalFields_eq (fields : List (String × Json)) :
    canonicalFields fields = fields.map (Prod.map id canonical) := by
  induction fields with
  | nil => rfl
  | cons field rest ih => rw [canonicalFields, ih, List.map_cons, Prod.map_apply, id]

theorem canonical_array (items : List Json) :
    canonical (.array items) = .array (items.map canonical) := by
  rw [canonical, canonicalItems_eq]

/-- An object in key order has its fields in key order, with values in key order. -/
theorem canonical_object (fields : List (String × Json)) :
    canonical (.object fields) =
      .object (Entries.insertAll (fields.map (Prod.map id canonical)) []) := by
  rw [canonical, canonicalFields_eq, sortFields_eq]

/-! ### Arrangements -/

/-- A way to arrange the fields of objects that loses none and leaves all else as it is. -/
structure Rearranges (g : Json → Json) : Prop where
  null : g .null = .null
  bool : ∀ b, g (.bool b) = .bool b
  int : ∀ n, g (.int n) = .int n
  real : ∀ x, g (.real x) = .real x
  string : ∀ s, g (.string s) = .string s
  array : ∀ items, g (.array items) = .array (items.map g)
  object : ∀ written : List (String × Json), (written.map Prod.fst).Nodup →
    ∃ fields, g (.object written) = .object fields ∧ fields.Perm (written.map (Prod.map id g))

/-- Fields may stay as they were written. -/
theorem rearranges_id : Rearranges id where
  null := rfl
  bool _ := rfl
  int _ := rfl
  real _ := rfl
  string _ := rfl
  array items := congrArg Json.array (List.map_id items).symm
  object written _ := ⟨written, rfl, by rw [Prod.map_id, List.map_id]⟩

/-- Fields may be put in key order. -/
theorem rearranges_canonical : Rearranges canonical where
  null := by rw [canonical] <;> nofun
  bool _ := by rw [canonical] <;> nofun
  int _ := by rw [canonical] <;> nofun
  real _ := by rw [canonical] <;> nofun
  string _ := by rw [canonical] <;> nofun
  array := canonical_array
  object written hkeys := by
    have hnodup : ((written.map (Prod.map id canonical) ++ []).map Prod.fst).Nodup := by
      rw [List.append_nil, List.map_map]
      exact hkeys
    refine ⟨_, canonical_object written, (Entries.insertAll_perm hnodup).trans ?_⟩
    rw [List.append_nil]

/-! ### Values -/

/-- What a document of JSON can say: every number is finite, and no leaf is unreadable. -/
inductive IsValue : Json → Prop
  | null : IsValue .null
  | bool (b : Bool) : IsValue (.bool b)
  | int (n : Int) : IsValue (.int n)
  | real {x : Float} (h : x.isFinite = true) : IsValue (.real x)
  | string (s : String) : IsValue (.string s)
  | array {items : List Json} (h : ∀ item ∈ items, IsValue item) : IsValue (.array items)
  | object {fields : List (String × Json)} (h : ∀ field ∈ fields, IsValue field.2) :
    IsValue (.object fields)

theorem areReadable_eq (items : List Json) : areReadable items = items.all isReadable := by
  induction items with
  | nil => rfl
  | cons item rest ih => rw [areReadable, ih, List.all_cons]

theorem areReadableFields_eq (fields : List (String × Json)) :
    areReadableFields fields = fields.all fun field ↦ field.2.isReadable := by
  induction fields with
  | nil => rfl
  | cons field rest ih => rw [areReadableFields, ih, List.all_cons]

namespace IsValue

variable {j : Json}

/-- A value of a document has no number that cannot be read. -/
theorem isReadable (h : j.IsValue) : j.isReadable = true := by
  induction h with
  | array _ ih =>
    rw [Json.isReadable, areReadable_eq, List.all_eq_true]
    exact ih
  | object _ ih =>
    rw [Json.isReadable, areReadableFields_eq, List.all_eq_true]
    exact ih
  | _ => rw [Json.isReadable] <;> nofun

/-- A value in key order is a value. -/
theorem canonical (h : j.IsValue) : j.canonical.IsValue := by
  induction h with
  | null => exact rearranges_canonical.null ▸ .null
  | bool b => exact rearranges_canonical.bool b ▸ .bool b
  | int n => exact rearranges_canonical.int n ▸ .int n
  | real hx => exact rearranges_canonical.real _ ▸ .real hx
  | string s => exact rearranges_canonical.string s ▸ .string s
  | array _ ih =>
    rw [canonical_array]
    exact .array (List.forall_mem_map.2 ih)
  | object _ ih =>
    rw [canonical_object]
    refine .object fun field hfield ↦ ?_
    obtain ⟨written, hwritten, rfl⟩ :=
      List.mem_map.1 ((Entries.mem_insertAll hfield).resolve_right List.not_mem_nil)
    exact ih written hwritten

/-- **A value in key order** is left as it is. -/
theorem canonical_canonical (h : j.IsValue) : j.canonical.canonical = j.canonical := by
  induction h with
  | null => rw [rearranges_canonical.null, rearranges_canonical.null]
  | bool b => rw [rearranges_canonical.bool, rearranges_canonical.bool]
  | int n => rw [rearranges_canonical.int, rearranges_canonical.int]
  | real hx => rw [rearranges_canonical.real, rearranges_canonical.real]
  | string s => rw [rearranges_canonical.string, rearranges_canonical.string]
  | array _ ih =>
    rw [canonical_array, canonical_array, List.map_map]
    exact congrArg Json.array (List.map_congr_left ih)
  | @object fields _ ih =>
    have hsorted : Entries.Sorted
        (Entries.insertAll (fields.map (Prod.map id Json.canonical)) []) := .insertAll .nil _
    have hsame : (Entries.insertAll (fields.map (Prod.map id Json.canonical)) []).map
        (Prod.map id Json.canonical) =
          Entries.insertAll (fields.map (Prod.map id Json.canonical)) [] := by
      refine (List.map_congr_left fun field hfield ↦ ?_).trans (List.map_id _)
      obtain ⟨written, hwritten, rfl⟩ :=
        List.mem_map.1 ((Entries.mem_insertAll hfield).resolve_right List.not_mem_nil)
      exact Prod.ext rfl (ih written hwritten)
    rw [canonical_object, canonical_object, hsame, hsorted.insertAll_nil]

end IsValue

end Json

end LifeStory
