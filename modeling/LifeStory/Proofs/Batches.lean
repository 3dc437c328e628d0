import LifeStory.Host.Memory
import LifeStory.Library
import Mathlib.Data.List.Basic
import Mathlib.Data.List.Sort
import Mathlib.Data.String.Basic

/-!
# Batches of packs

A batch of packs is read from sources in order, and each source comes to one of two things
(`Import.verdicts`): its pack is taken, or it is skipped for a reason. `Import.Sorts` says what that
amounts to, without the batch that is put together on the way. Whether a source is taken depends on
the packs that were taken before it and on nothing else, so one that is skipped might as well not be
there (`Import.verdictsFrom_eraseIdx`).

The packs of a library are the files of a folder. Hosts list them in any order (`Host.ListsAs`),
and the order is lost when they are sorted by name (`PackFilter.choose_perm`) before any of them is
read.
-/

namespace LifeStory

/-! ### Packs that texts give -/

namespace Pack

/-- A text is that of a pack that may be taken: it has the right form, and the id and the name of
the pack are not blank. -/
structure Reads (text : String) (pack : Pack Float) : Prop where
  parsed : (Json.parse? text).bind ofJson? = some pack
  id : Text.trim pack.id ≠ ""
  name : Text.trim pack.name ≠ ""

/-- No field is blank exactly if neither the id nor the name is. -/
theorem blankField?_eq_none_iff {R : Type} {pack : Pack R} :
    pack.blankField? = none ↔ Text.trim pack.id ≠ "" ∧ Text.trim pack.name ≠ "" := by
  rw [blankField?]
  split
  · next hid => exact iff_of_false nofun fun h ↦ h.1 hid
  · next hid =>
    split
    · next hname => exact iff_of_false nofun fun h ↦ h.2 hname
    · next hname => exact iff_of_true rfl ⟨hid, hname⟩

/-- A text gives a pack exactly if it is that of a pack that may be taken. -/
theorem ofText_eq_ok_iff (source : String) {text : String} {pack : Pack Float} :
    ofText source text = .ok pack ↔ Reads text pack := by
  rw [ofText]
  split
  · next hparsed =>
    refine iff_of_false nofun fun h ↦ ?_
    rw [h.parsed] at hparsed
    cases hparsed
  · next read hparsed =>
    have hread : ∀ {other}, Reads text other → other = read := fun h ↦
      Option.some.inj (h.parsed.symm.trans hparsed)
    split
    · next field hblank =>
      refine iff_of_false nofun fun h ↦ ?_
      rw [← hread h, blankField?_eq_none_iff.2 ⟨h.id, h.name⟩] at hblank
      cases hblank
    · next hblank =>
      obtain ⟨hid, hname⟩ := blankField?_eq_none_iff.1 hblank
      rw [Except.ok.injEq]
      constructor
      · rintro rfl
        exact ⟨hparsed, hid, hname⟩
      · exact fun h ↦ (hread h).symm

end Pack

namespace Import

/-! ### Verdicts -/

/-- What a source comes to when packs have been taken: the pack that it gives, or why it is
skipped. -/
def verdict (taken : List (Pack Float)) (source : String × String) :
    Except ContentError (Pack Float) :=
  (Pack.ofText source.1 source.2).bind (accept ⟨taken, []⟩)

/-- What sources come to one after the other, when packs have been taken before. -/
def verdictsFrom (taken : List (Pack Float)) :
    List (String × String) → List (Except ContentError (Pack Float))
  | [] => []
  | source :: rest =>
    verdict taken source :: verdictsFrom (taken ++ (verdict taken source).toOption.toList) rest

/-- What the sources of a batch come to, in order. -/
def verdicts (sources : List (String × String)) : List (Except ContentError (Pack Float)) :=
  verdictsFrom [] sources

/-- What is put down about a source that is skipped. -/
def skip? (source : String × String) : Except ContentError (Pack Float) → Option Skipped
  | .ok _ => none
  | .error reason => some ⟨source.1, reason⟩

/-- A batch sorts its sources as the verdicts say: each is taken or skipped, in order. A source is
taken exactly when it gives a pack, and none that was taken before it has the id. -/
structure Sorts (batch : Import Float) (sources : List (String × String))
    (verdicts : List (Except ContentError (Pack Float))) : Prop where
  length : verdicts.length = sources.length
  packs : batch.packs = verdicts.filterMap Except.toOption
  skipped : batch.skipped = (List.zipWith skip? sources verdicts).filterMap id
  taken_iff : ∀ (i : Nat) (pack : Pack Float), verdicts[i]? = some (.ok pack) ↔
    ∃ source, sources[i]? = some source ∧ pack.Reads source.2 ∧
      ∀ j < i, ∀ earlier, verdicts[j]? = some (.ok earlier) → earlier.id ≠ pack.id
  reason : ∀ (i : Nat) source reason, sources[i]? = some source →
    verdicts[i]? = some (.error reason) →
    Pack.ofText source.1 source.2 = .error reason ∨
      ∃ pack : Pack Float, pack.Reads source.2 ∧ reason = .duplicateId pack.id

section Verdicts

variable {taken : List (Pack Float)} {source : String × String} {pack : Pack Float}

/-- A batch accepts the pack that was read, if none that it has taken has the same id. -/
theorem accept_eq_ok_iff {batch : Import Float} {read : Pack Float} :
    batch.accept read = .ok pack ↔ read = pack ∧ ∀ other ∈ batch.packs, other.id ≠ pack.id := by
  rw [accept]
  split
  · next hany =>
    refine iff_of_false nofun ?_
    rintro ⟨rfl, hnew⟩
    obtain ⟨other, hother, hid⟩ := List.any_eq_true.1 hany
    exact hnew other hother (of_decide_eq_true hid)
  · next hany =>
    rw [Except.ok.injEq]
    refine ⟨?_, And.left⟩
    rintro rfl
    exact ⟨rfl, fun other hother hid ↦
      hany (List.any_eq_true.2 ⟨other, hother, decide_eq_true hid⟩)⟩

/-- A source is taken exactly if it gives a pack whose id has not been taken. -/
theorem verdict_eq_ok_iff :
    verdict taken source = .ok pack ↔
      pack.Reads source.2 ∧ ∀ other ∈ taken, other.id ≠ pack.id := by
  rw [verdict, ← Pack.ofText_eq_ok_iff source.1]
  cases Pack.ofText source.1 source.2 with
  | error reason => exact iff_of_false nofun fun h ↦ nomatch h.1
  | ok read =>
    rw [Except.ok.injEq]
    exact accept_eq_ok_iff

/-- A source is skipped for what is wrong with it, or because its pack comes too late. -/
theorem verdict_eq_error {reason : ContentError} (h : verdict taken source = .error reason) :
    Pack.ofText source.1 source.2 = .error reason ∨
      ∃ pack : Pack Float, pack.Reads source.2 ∧ reason = .duplicateId pack.id := by
  rw [verdict] at h
  cases hread : Pack.ofText source.1 source.2 with
  | error other =>
    rw [hread] at h
    exact .inl h
  | ok read =>
    rw [hread] at h
    refine .inr ⟨read, (Pack.ofText_eq_ok_iff source.1).1 hread, ?_⟩
    change accept _ read = _ at h
    rw [accept] at h
    split at h
    · exact (Except.error.inj h).symm
    · cases h

/-! ### Sources one after the other -/

/-- Every source comes to a verdict. -/
theorem length_verdictsFrom (taken : List (Pack Float)) (sources : List (String × String)) :
    (verdictsFrom taken sources).length = sources.length := by
  induction sources generalizing taken with
  | nil => rfl
  | cons source rest ih => exact congrArg (· + 1) (ih _)

/-- A source is taken if it gives a pack, and no pack that was taken has its id, before the sources
or from one that comes before it. -/
theorem getElem?_verdictsFrom_ok (taken : List (Pack Float)) (sources : List (String × String))
    (i : Nat) (pack : Pack Float) :
    (verdictsFrom taken sources)[i]? = some (.ok pack) ↔
      ∃ source, sources[i]? = some source ∧ pack.Reads source.2 ∧
        (∀ other ∈ taken, other.id ≠ pack.id) ∧
        ∀ j < i, ∀ earlier, (verdictsFrom taken sources)[j]? = some (.ok earlier) →
          earlier.id ≠ pack.id := by
  induction sources generalizing taken i with
  | nil => exact iff_of_false nofun fun ⟨_, h, _⟩ ↦ nomatch h
  | cons source rest ih =>
    cases i with
    | zero =>
      simp [verdictsFrom, verdict_eq_ok_iff]
    | succ i =>
      -- What the first source gives is among what was taken for those after it.
      have hfirst : (∀ other ∈ taken ++ (verdict taken source).toOption.toList,
            other.id ≠ pack.id) ↔
          (∀ other ∈ taken, other.id ≠ pack.id) ∧
            ∀ earlier, verdict taken source = .ok earlier → earlier.id ≠ pack.id := by
        rw [List.forall_mem_append]
        cases verdict taken source <;> simp [Except.toOption]
      simp only [verdictsFrom, List.getElem?_cons_succ, Nat.forall_lt_succ_left,
        List.getElem?_cons_zero, Option.some.injEq, ih, hfirst, and_assoc]

/-- A source that is skipped gives no pack, or a pack whose id has been taken. -/
theorem getElem?_verdictsFrom_error {sources : List (String × String)} {i : Nat}
    {reason : ContentError} (hsource : sources[i]? = some source)
    (h : (verdictsFrom taken sources)[i]? = some (.error reason)) :
    Pack.ofText source.1 source.2 = .error reason ∨
      ∃ pack : Pack Float, pack.Reads source.2 ∧ reason = .duplicateId pack.id := by
  induction sources generalizing taken i with
  | nil => cases hsource
  | cons first rest ih =>
    cases i with
    | zero =>
      obtain rfl := Option.some.inj hsource
      exact verdict_eq_error (Option.some.inj h)
    | succ i => exact ih hsource h

/-- **A source that is skipped claims nothing**: without it the others come to the same. -/
theorem verdictsFrom_eraseIdx {sources : List (String × String)} {i : Nat} {reason : ContentError}
    (h : (verdictsFrom taken sources)[i]? = some (.error reason)) :
    verdictsFrom taken (sources.eraseIdx i) = (verdictsFrom taken sources).eraseIdx i := by
  induction sources generalizing taken i with
  | nil => rfl
  | cons first rest ih =>
    cases i with
    | zero =>
      have hskipped : verdict taken first = .error reason := Option.some.inj h
      rw [List.eraseIdx_cons_zero, verdictsFrom, List.eraseIdx_cons_zero, hskipped]
      exact congrArg (verdictsFrom · rest) (List.append_nil taken).symm
    | succ i => exact congrArg (verdict taken first :: ·) (ih h)

/-! ### Batches -/

/-- A source adds to a batch what its verdict tells. -/
theorem add_eq (batch : Import Float) (source : String × String) :
    batch.add source.1 (Pack.ofText source.1 source.2) =
      ⟨batch.packs ++ (verdict batch.packs source).toOption.toList,
        batch.skipped ++ (skip? source (verdict batch.packs source)).toList⟩ := by
  have hverdict : (Pack.ofText source.1 source.2).bind batch.accept =
      verdict batch.packs source := rfl
  rw [add, hverdict]
  cases verdict batch.packs source with
  | ok pack => exact congrArg (mk _) (List.append_nil batch.skipped).symm
  | error reason => exact congrArg (mk · _) (List.append_nil batch.packs).symm

theorem foldl_add_eq (sources : List (String × String)) (batch : Import Float) :
    sources.foldl (fun batch s ↦ batch.add s.1 (Pack.ofText s.1 s.2)) batch =
      ⟨batch.packs ++ (verdictsFrom batch.packs sources).filterMap Except.toOption,
        batch.skipped ++
          (List.zipWith skip? sources (verdictsFrom batch.packs sources)).filterMap id⟩ := by
  induction sources generalizing batch with
  | nil => exact congrArg₂ mk (List.append_nil _).symm (List.append_nil _).symm
  | cons source rest ih =>
    rw [List.foldl_cons, add_eq, ih, verdictsFrom, List.zipWith_cons_cons]
    cases verdict batch.packs source <;> simp [Except.toOption, skip?, List.filterMap_cons]

/-- A pack is added to a batch only if its id is new. -/
theorem nodup_add {batch : Import Float} (h : (batch.packs.map Pack.id).Nodup)
    (source : String × String) :
    ((batch.add source.1 (Pack.ofText source.1 source.2)).packs.map Pack.id).Nodup := by
  rw [add_eq]
  cases hverdict : verdict batch.packs source with
  | error reason => exact (List.append_nil batch.packs).symm ▸ h
  | ok pack =>
    have hnew := (verdict_eq_ok_iff.1 hverdict).2
    show ((batch.packs ++ [pack]).map Pack.id).Nodup
    rw [List.map_append, List.map_singleton, List.nodup_append]
    refine ⟨h, List.nodup_singleton _, fun id hid other hother ↦ ?_⟩
    obtain ⟨taken, htaken, rfl⟩ := List.mem_map.1 hid
    rw [List.mem_singleton.1 hother]
    exact hnew taken htaken

end Verdicts

/-- **A batch sorts its sources** by their verdicts. -/
theorem sorts_ofSources (sources : List (String × String)) :
    (ofSources sources).Sorts sources (verdicts sources) where
  length := length_verdictsFrom [] sources
  packs := by rw [ofSources, foldl_add_eq]; rfl
  skipped := by rw [ofSources, foldl_add_eq]; rfl
  taken_iff i pack := by
    rw [verdicts, getElem?_verdictsFrom_ok]
    simp only [List.not_mem_nil, false_implies, implies_true, true_and]
  reason _ _ _ := getElem?_verdictsFrom_error

theorem nodup_ofSources (sources : List (String × String)) :
    ((ofSources sources).packs.map Pack.id).Nodup :=
  List.foldlRecOn (motive := fun batch : Import Float ↦ (batch.packs.map Pack.id).Nodup) sources _
    List.nodup_nil fun _ h source _ ↦ nodup_add h source

end Import

namespace PackFilter

/-- The files that are read, and their order, do not depend on the order in which they are listed.
-/
theorem choose_perm (filter : PackFilter) {files others : List String} (h : files.Perm others) :
    filter.choose files = filter.choose others := by
  have hsorted : ∀ names : List String,
      (filter.choose names).Pairwise fun a b ↦ decide (a ≤ b) = true := by
    intro names
    refine List.pairwise_mergeSort (fun a b c hab hbc ↦ ?_) (fun a b ↦ ?_) _
    · exact decide_eq_true (String.le_trans (of_decide_eq_true hab) (of_decide_eq_true hbc))
    · simpa using String.le_total a b
  refine List.Perm.eq_of_pairwise (fun a b _ _ hab hba ↦ ?_) (hsorted files) (hsorted others) ?_
  · exact String.le_antisymm (of_decide_eq_true hab) (of_decide_eq_true hba)
  · exact (List.mergeSort_perm _ _).trans ((h.filter _).trans (List.mergeSort_perm _ _).symm)

end PackFilter

/-! ### Listings -/

/-- Two hosts that differ at most in the order in which they list the names in a folder. -/
structure Host.ListsAs {m : Type → Type} [Monad m] (host other : Host m) : Prop where
  isFolder : other.isFolder = host.isFolder
  readText : other.readText = host.readText
  /-- What either of them lists comes from one look at the folder. -/
  names : ∀ folder,
    ∃ look : m (Option { lists : List String × List String // lists.1.Perm lists.2 }),
      host.names folder = (Option.map fun lists ↦ lists.val.1) <$> look ∧
        other.names folder = (Option.map fun lists ↦ lists.val.2) <$> look

namespace Library

variable {m : Type → Type} [Monad m] [LawfulMonad m] {host other : Host m}

theorem readPacks_of_listsAs (h : host.ListsAs other) (library : Library) :
    @readPacks m _ other library = @readPacks m _ host library := by
  obtain ⟨look, hhost, hother⟩ := h.names library.packFolder
  have hfile : ∀ path, @readFile m _ other path = @readFile m _ host path := fun path ↦ by
    unfold readFile
    rw [h.readText]
  unfold readPacks
  simp only [hfile, h.isFolder, hhost, hother]
  congr 1
  funext there
  split
  · rw [liftM_map, liftM_map, bind_map_left, bind_map_left]
    congr 1
    funext found
    cases found with
    | none => rfl
    | some lists =>
      dsimp only [Option.map_some]
      rw [library.filter.choose_perm lists.property]
  · rfl

end Library

namespace Import

/-- **An import sorts its batch.** For all sources, each given by its name and its text:
* each is taken or skipped, and both lists keep their order; a source is taken exactly when its text
  has the right form, the id and the name of its pack are not blank, and no source before it was
  taken with the same id;
* no two packs that were taken have the same id, and a source that is skipped claims none: without
  it the others come to the same;
* the packs of a library come to the same on every host that lists its files in another order. -/
theorem batches_are_sorted (sources : List (String × String)) (library : Library) :
    (ofSources sources).Sorts sources (verdicts sources) ∧
    ((ofSources sources).packs.map Pack.id).Nodup ∧
    (∀ (i : Nat) reason, (verdicts sources)[i]? = some (.error reason) →
      verdicts (sources.eraseIdx i) = (verdicts sources).eraseIdx i) ∧
    ∀ (m : Type → Type) [Monad m] [LawfulMonad m] (host other : Host m), host.ListsAs other →
      @Library.readPacks m _ other library = @Library.readPacks m _ host library :=
  ⟨sorts_ofSources sources, nodup_ofSources sources, fun _ _ ↦ verdictsFrom_eraseIdx,
    fun _ _ _ _ _ h ↦ Library.readPacks_of_listsAs h library⟩

/-- The host in memory, but with every listing read from its end. -/
@[reducible]
def backwards : Host (StateM Memory) :=
  { (inferInstance : Host (StateM Memory)) with
    names := fun folder ↦ Option.map List.reverse <$> Host.names folder }

theorem listsAs_backwards : Host.ListsAs (m := StateM Memory) inferInstance backwards where
  isFolder := rfl
  readText := rfl
  names folder := by
    refine ⟨Option.map (fun names ↦ ⟨(names, names.reverse), (List.reverse_perm names).symm⟩) <$>
      Host.names folder, ?_, ?_⟩
    · simp only [Functor.map_map, Option.map_map, Function.comp_def, Option.map_id', id_map']
    · simp only [Functor.map_map, Option.map_map, Function.comp_def]
      rfl

/-- A moon without a name, a moon, and the same moon again, each as the list of its id and name. -/
def moons : List (String × String) :=
  [("nameless.json", "[\"moon\", \" \"]"), ("moon.json", "[\"moon\", \"Moon\"]"),
    ("again.json", "[\"moon\", \"Moon\"]")]

/-- The moon without a name is skipped and leaves its id to the one after it, and files that are
listed backwards are the same packs. -/
theorem nameless_moon_claims_nothing :
    (verdicts moons)[0]? = some (.error (.missingField "nameless.json" "name")) ∧
      verdicts (moons.eraseIdx 0) = (verdicts moons).eraseIdx 0 ∧
      Host.ListsAs (m := StateM Memory) inferInstance backwards ∧
      @Library.readPacks (StateM Memory) _ backwards ⟨"/home", .all⟩ =
        Library.readPacks ⟨"/home", .all⟩ := by
  have hskipped : (verdicts moons)[0]? = some (.error (.missingField "nameless.json" "name")) := by
    rfl
  obtain ⟨-, -, hclaims, hlists⟩ := batches_are_sorted moons ⟨"/home", .all⟩
  exact ⟨hskipped, hclaims 0 _ hskipped, listsAs_backwards,
    hlists (StateM Memory) inferInstance backwards listsAs_backwards⟩

end Import

end LifeStory
