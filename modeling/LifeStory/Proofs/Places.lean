import LifeStory.Proofs.OfferSizes
import LifeStory.Proofs.Signs
import Mathlib.Data.List.Forall2
import Mathlib.Data.List.Perm.Subperm

/-!
# Drawing without replacement

What a player is offered belongs to places of the catalog, each of an event that may take place and
of one of its choices that may be made, and no place is offered twice: choices that are alike, of
events that are alike, are still different places. The draw itself knows of no places. It takes
opportunities out of a pool, so that what it gives is, in some order, a part of the pool
(`Opportunity.drawn_subperm`), and the pool is what stands at the places that are open
(`Opportunity.map_snd_placed`).

The pool is used up before the draw gives less than was asked for
(`Opportunity.drawOrdinary_perm_of_length_lt`), since no weight in an offer is less than one and
something can be drawn therefore as long as something is left. That takes no more of arithmetic than
`LawfulUnit`, and so it holds with rounding as well.
-/

namespace LifeStory

/-! ### Places -/

/-- A place of a catalog: the position of an event, and of one of its choices. -/
structure Catalog.Place where
  event : Nat
  choice : Nat
deriving DecidableEq, Repr

/-- At a place of the catalog there is an event that may take place, and a choice of it that may be
made. -/
structure Catalog.OpenAt {R : Type} [Scalar R] (catalog : Catalog R) (showTests : Bool)
    (life : Life R) (place : Place) (o : Opportunity R) : Prop where
  event : catalog.events[place.event]? = some o.event
  choice : o.event.choices[place.choice]? = some o.choice
  eligible : catalog.isEligible showTests life o.event = true
  available : catalog.isAvailable life o.choice = true

namespace Opportunity

variable {R : Type} [Scalar R]

/-- The opportunities of a life with their places. -/
def placed (catalog : Catalog R) (showTests : Bool) (life : Life R) :
    List (Catalog.Place × Opportunity R) :=
  (catalog.events.zipIdx.filter fun e ↦ catalog.isEligible showTests life e.1).flatMap fun e ↦
    (e.1.choices.zipIdx.filter fun c ↦ catalog.isAvailable life c.1).map fun c ↦
      (⟨e.2, c.2⟩, ⟨e.1, c.1⟩)

theorem map_fst_filter_zipIdx {α : Type} (p : α → Bool) (l : List α) :
    (l.zipIdx.filter fun e ↦ p e.1).map Prod.fst = l.filter p := by
  have hmap := List.filter_map (f := Prod.fst) (p := p) (l := l.zipIdx)
  rw [List.zipIdx_map_fst] at hmap
  exact hmap.symm

variable (catalog : Catalog R) (showTests : Bool) (life : Life R)

/-- What stands at the places that are open are the opportunities of the life. -/
theorem map_snd_placed :
    (placed catalog showTests life).map Prod.snd = all catalog showTests life := by
  have hchoices : ∀ event : Event R,
      (event.choices.zipIdx.filter fun c ↦ catalog.isAvailable life c.1).map
        (fun c ↦ Opportunity.mk event c.1) =
          (catalog.available life event).map (Opportunity.mk event) := by
    intro event
    rw [Catalog.available, ← map_fst_filter_zipIdx (catalog.isAvailable life) event.choices,
      List.map_map]
    rfl
  rw [placed, List.map_flatMap]
  simp only [List.map_map, Function.comp_def, hchoices]
  rw [all, Catalog.eligible,
    ← map_fst_filter_zipIdx (catalog.isEligible showTests life) catalog.events, List.flatMap_map]

theorem mem_placed {place : Catalog.Place} {o : Opportunity R} :
    (place, o) ∈ placed catalog showTests life ↔ catalog.OpenAt showTests life place o := by
  simp only [placed, List.mem_flatMap, List.mem_filter, List.mem_map,
    List.mem_zipIdx_iff_getElem?]
  constructor
  · rintro ⟨e, ⟨hevent, heligible⟩, c, ⟨hchoice, havailable⟩, heq⟩
    obtain ⟨rfl, rfl⟩ := Prod.mk.inj heq
    exact ⟨hevent, hchoice, heligible, havailable⟩
  · rintro ⟨hevent, hchoice, heligible, havailable⟩
    exact ⟨(o.event, place.event), ⟨hevent, heligible⟩, (o.choice, place.choice),
      ⟨hchoice, havailable⟩, rfl⟩

/-- The elements of a list come with positions of their own. -/
theorem pairwise_zipIdx {α : Type} (l : List α) : l.zipIdx.Pairwise fun a b ↦ a.2 ≠ b.2 :=
  List.pairwise_map.1 (List.nodup_zipIdx_map_snd l)

/-- No place comes twice. -/
theorem nodup_places : ((placed catalog showTests life).map Prod.fst).Nodup := by
  refine List.pairwise_map.2 (List.pairwise_flatMap.2 ⟨fun e _ ↦ ?_, ?_⟩)
  · refine List.pairwise_map.2 (((pairwise_zipIdx _).filter _).imp fun hne heq ↦ hne ?_)
    exact (Catalog.Place.mk.inj heq).2
  · refine ((pairwise_zipIdx _).filter _).imp fun hne x hx y hy heq ↦ hne ?_
    obtain ⟨_, -, rfl⟩ := List.mem_map.1 hx
    obtain ⟨_, -, rfl⟩ := List.mem_map.1 hy
    exact (Catalog.Place.mk.inj heq).1

end Opportunity

/-! ### Pools -/

/-- Part of what a list is mapped to, in some order, is what a part of the list is mapped to. -/
theorem exists_subperm_of_subperm_map {α β : Type} {f : α → β} {picked : List β} {pool : List α}
    (h : picked.Subperm (pool.map f)) :
    ∃ part : List α, part.Subperm pool ∧ part.map f = picked := by
  obtain ⟨ordered, hperm, hsublist⟩ := h
  obtain ⟨kept, hkept, rfl⟩ := List.sublist_map_iff.1 hsublist
  obtain ⟨part, rfl, hpart⟩ : Relation.Comp (· = List.map f ·) List.Perm picked kept := by
    rw [List.eq_map_comp_perm]
    exact hperm.symm
  exact ⟨part, ⟨kept, hpart.symm, hkept⟩, rfl⟩

namespace Opportunity

variable {R G : Type} [Scalar R] [RandomSource G]

/-- A position that is drawn is one of the pool. -/
theorem drawOne_lt {life : Life R} {pool : List (Opportunity R)} {source : Counted G}
    {index : Nat} (h : (drawOne life pool source).1 = some index) : index < pool.length := by
  obtain ⟨hrecords, hundrawn⟩ := Trace.records_draw "manual" (pool.map (weighted life)) source
  have hpositive := not_imp_comm.1 hundrawn fun hnone ↦ nomatch h.symm.trans hnone
  have hlt := Draw.pickByRoll_lt ((hrecords.replay hpositive).trans h)
  rwa [List.length_map, List.length_map] at hlt

/-- What is drawn one after the other is a part of the pool. -/
theorem drawOrdinary_subperm (life : Life R) (n : Nat) (pool : List (Opportunity R))
    (source : Counted G) : (drawOrdinary life n pool source).1.Subperm pool := by
  induction n generalizing pool source with
  | zero => exact List.nil_subperm
  | succ n ih =>
    by_cases hpool : pool = []
    · rw [hpool]
      exact List.nil_subperm
    cases hdrawn : (drawOne life pool source).1 with
    | none =>
      rw [drawOrdinary_of_none hpool hdrawn]
      exact List.nil_subperm
    | some index =>
      -- The one that is drawn leaves the pool, and the others come out of what is left.
      have hlt := drawOne_lt hdrawn
      rw [drawOrdinary_of_some hpool hdrawn, List.getElem?_eq_getElem hlt]
      exact ((List.subperm_cons _).2 (ih _ _)).trans (List.getElem_cons_eraseIdx_perm hlt).subperm

omit [Scalar R] in
/-- One opportunity at most is drawn before the ordinary ones. -/
theorem eq_nil_or_singleton {first : List (Opportunity R)} {condition : Prop} [Decidable condition]
    (h : first.length = if condition then 1 else 0) : first = [] ∨ ∃ o, first = [o] := by
  split at h
  · exact .inr (List.length_eq_one_iff.1 h)
  · exact .inl (List.length_eq_zero_iff.1 h)

/-- What is drawn for an offer is a part of the opportunities. -/
theorem drawn_subperm (catalog : Catalog R) (config : Config R) (count : Nat) (life : Life R)
    (source : Counted G) :
    (drawn catalog config count life source).1.Subperm
      (all catalog config.showTestEvents life) := by
  obtain ⟨first, later, hsubset, hlength, hdrawn⟩ :=
    exists_drawn_eq catalog config count life source
  have hfirst : first.Subperm (specials catalog config.showTestEvents life) := by
    refine List.subperm_of_subset ?_ hsubset
    rcases eq_nil_or_singleton hlength with rfl | ⟨o, rfl⟩
    · exact List.nodup_nil
    · exact List.nodup_singleton o
  have hothers := drawOrdinary_subperm life (count - first.length)
    (ordinaries catalog config.showTestEvents life) later
  rw [hdrawn]
  exact (hfirst.append hothers).trans (List.filter_append_perm _ _).subperm

/-! ### Using up a pool -/

section Lawful

variable [LawfulUnit R]

/-- Something is drawn from every pool with something in it. -/
theorem exists_drawOne (life : Life R) {pool : List (Opportunity R)} (h : pool ≠ [])
    (source : Counted G) : ∃ index, (drawOne life pool source).1 = some index := by
  obtain ⟨hrecords, -⟩ := Trace.records_draw "manual" (pool.map (weighted life)) source
  have hweights : ∀ w ∈ (pool.map (weighted life)).map Weighted.weight, 0.0 < w := by
    rw [List.map_map]
    exact List.forall_mem_map.2 fun o _ ↦ Scalar.zero_lt_max_one _
  have hne : pool.map (weighted life) ≠ [] := mt List.map_eq_nil_iff.1 h
  have hsome : ∃ w ∈ (pool.map (weighted life)).map Weighted.weight, 0.0 < w := by
    obtain ⟨w, hw⟩ := List.exists_mem_of_ne_nil _ (mt List.map_eq_nil_iff.1 hne)
    exact ⟨w, hw, hweights w hw⟩
  have htotal := Scalar.sum_pos (fun w hw ↦ Scalar.nonneg_of_pos (hweights w hw)) hsome
  obtain ⟨index, -, -, hindex, -⟩ :=
    hrecords.exists_candidate (hrecords.total ▸ Scalar.positive_iff.2 htotal) hne
  exact ⟨index, hindex⟩

/-- **A draw that gives less than was asked for has used up the pool.** -/
theorem drawOrdinary_perm_of_length_lt {life : Life R} {n : Nat} {pool : List (Opportunity R)}
    {source : Counted G} (h : (drawOrdinary life n pool source).1.length < n) :
    (drawOrdinary life n pool source).1.Perm pool := by
  induction n generalizing pool source with
  | zero => exact absurd h (Nat.not_lt_zero _)
  | succ n ih =>
    by_cases hpool : pool = []
    · rw [hpool]
      rfl
    obtain ⟨index, hdrawn⟩ := exists_drawOne life hpool source
    have hlt := drawOne_lt hdrawn
    rw [drawOrdinary_of_some hpool hdrawn, List.getElem?_eq_getElem hlt] at h ⊢
    have hrest := ih (Nat.lt_of_succ_lt_succ h)
    exact (hrest.cons _).trans (List.getElem_cons_eraseIdx_perm hlt)

/-- An offer of fewer choices than were asked for has as many ordinary ones as there are. -/
theorem length_ordinaries_le {catalog : Catalog R} {config : Config R} {count : Nat}
    {life : Life R} {source : Counted G}
    (h : (drawn catalog config count life source).1.length < count) :
    (ordinaries catalog config.showTestEvents life).length ≤
      ((drawn catalog config count life source).1.filter fun o ↦ !o.choice.special).length := by
  obtain ⟨first, later, -, -, hdrawn⟩ := exists_drawn_eq catalog config count life source
  rw [hdrawn, List.length_append] at h
  have hperm := drawOrdinary_perm_of_length_lt (Nat.lt_sub_of_add_lt (Nat.add_comm _ _ ▸ h))
  have hordinary : (ordinaries catalog config.showTestEvents life).filter
      (fun o ↦ !o.choice.special) = ordinaries catalog config.showTestEvents life :=
    List.filter_eq_self.2 fun _ ho ↦ (List.mem_filter.1 ho).2
  rw [hdrawn, List.filter_append, List.length_append, (hperm.filter _).length_eq, hordinary]
  exact Nat.le_add_left _ _

end Lawful

/-! ### Offers -/

/-- Whatever is special among what is drawn comes first. -/
theorem special_of_mem_tail_drawn {catalog : Catalog R} {config : Config R} {count : Nat}
    {life : Life R} {source : Counted G} {o : Opportunity R}
    (h : o ∈ (drawn catalog config count life source).1.tail) : o.choice.special = false := by
  obtain ⟨first, later, -, hlength, hdrawn⟩ := exists_drawn_eq catalog config count life source
  have hothers : o ∈ (drawOrdinary life (count - first.length)
      (ordinaries catalog config.showTestEvents life) later).1 := by
    rw [hdrawn] at h
    rcases eq_nil_or_singleton hlength with rfl | ⟨first, rfl⟩
    · exact List.mem_of_mem_tail h
    · exact h
  have hordinary := (List.mem_filter.1 (drawOrdinary_subset life _ _ later hothers)).2
  simpa using hordinary

omit [Scalar R] in
theorem forall₂_toCandidates (opportunities : List (Opportunity R)) (source : Counted G) :
    List.Forall₂ (fun o candidate ↦ candidate.choice = o.choice ∧
      candidate.origin = ⟨o.event.id, o.event.title, o.event.text⟩)
      opportunities (toCandidates opportunities source).1 := by
  induction opportunities generalizing source with
  | nil => exact .nil
  | cons o rest ih => exact .cons ⟨rfl, rfl⟩ (ih _)

end Opportunity

/-- A candidate stands at a place that is open: it is the choice there, and comes from the event
there. -/
def Candidate.StandsAt {R : Type} [Scalar R] (candidate : Candidate R) (catalog : Catalog R)
    (showTests : Bool) (life : Life R) (place : Catalog.Place) : Prop :=
  ∃ o, catalog.OpenAt showTests life place o ∧ candidate.choice = o.choice ∧
    candidate.origin = ⟨o.event.id, o.event.title, o.event.text⟩

namespace Catalog

open Opportunity

variable {R G : Type} [Scalar R] [RandomSource G]

/-- The places that are drawn: part of those that are open, with what is drawn there. -/
theorem exists_placed_drawn (catalog : Catalog R) (config : Config R) (count : Nat) (life : Life R)
    (source : Counted G) :
    ∃ part : List (Place × Opportunity R),
      part.Subperm (placed catalog config.showTestEvents life) ∧
        part.map Prod.snd = (drawn catalog config count life source).1 := by
  have hdrawn := drawn_subperm catalog config count life source
  rw [← map_snd_placed] at hdrawn
  exact exists_subperm_of_subperm_map hdrawn

/-- An offer of fewer choices than were asked for has those of all ordinary places. -/
theorem mem_of_length_lt [LawfulUnit R] {catalog : Catalog R} {config : Config R} {count : Nat}
    {life : Life R} {source : Counted G} {part : List (Place × Opportunity R)}
    (hpart : part.Subperm (placed catalog config.showTestEvents life))
    (hdrawn : part.map Prod.snd = (drawn catalog config count life source).1)
    (h : (drawn catalog config count life source).1.length < count) {place : Place}
    {o : Opportunity R} (hopen : catalog.OpenAt config.showTestEvents life place o)
    (hordinary : o.choice.special = false) : (place, o) ∈ part := by
  let ordinary (x : Place × Opportunity R) : Bool := !x.2.choice.special
  have hmap : ∀ l : List (Place × Opportunity R),
      (l.filter ordinary).length = ((l.map Prod.snd).filter fun o ↦ !o.choice.special).length := by
    intro l
    rw [List.filter_map, List.length_map]
    rfl
  -- There are no more ordinary places than those that are drawn.
  have hperm : (part.filter ordinary).Perm
      ((placed catalog config.showTestEvents life).filter ordinary) := by
    refine (hpart.filter ordinary).perm_of_length_le ?_
    rw [hmap, hmap, map_snd_placed, hdrawn]
    exact length_ordinaries_le h
  have hmem : (place, o) ∈ (placed catalog config.showTestEvents life).filter ordinary :=
    List.mem_filter.2 ⟨(mem_placed ..).2 hopen, congrArg (!·) hordinary⟩
  exact (List.mem_filter.1 (hperm.mem_iff.2 hmem)).1

/-- The candidates of an offer stand at the places that are drawn. -/
theorem forall₂_standsAt {catalog : Catalog R} {config : Config R} {count : Nat} {life : Life R}
    {source : Counted G} {part : List (Place × Opportunity R)}
    (hpart : part.Subperm (placed catalog config.showTestEvents life))
    (hdrawn : part.map Prod.snd = (drawn catalog config count life source).1) :
    List.Forall₂
      (fun place candidate ↦ candidate.StandsAt catalog config.showTestEvents life place)
      (part.map Prod.fst) (catalog.drawCandidates config count life source).1 := by
  have hopen : ∀ x ∈ part, catalog.OpenAt config.showTestEvents life x.1 x.2 :=
    fun x hx ↦ (mem_placed ..).1 (hpart.subset hx)
  have hmade := forall₂_toCandidates (drawn catalog config count life source).1
    (drawn catalog config count life source).2
  rw [← drawCandidates_eq, ← hdrawn, List.forall₂_map_left_iff] at hmade
  refine List.forall₂_map_left_iff.2 (((List.forall₂_and_left _ _).2 ⟨hopen, hmade⟩).imp ?_)
  exact fun x _ hx ↦ ⟨x.2, hx⟩

/-- Whatever is special in an offer comes first. -/
theorem special_of_mem_tail_drawCandidates {catalog : Catalog R} {config : Config R} {count : Nat}
    {life : Life R} {source : Counted G} {candidate : Candidate R}
    (h : candidate ∈ (catalog.drawCandidates config count life source).1.tail) :
    candidate.choice.special = false := by
  have hchoices := map_choice_toCandidates (drawn catalog config count life source).1
    (drawn catalog config count life source).2
  rw [← drawCandidates_eq] at hchoices
  have hmem : candidate.choice ∈
      (drawn catalog config count life source).1.tail.map Opportunity.choice := by
    rw [List.map_tail, ← hchoices, ← List.map_tail]
    exact List.mem_map_of_mem h
  obtain ⟨o, ho, heq⟩ := List.mem_map.1 hmem
  rw [← heq]
  exact special_of_mem_tail_drawn ho

/-- **Offers are drawn without replacement from exactly what is open.** When something is asked
for, the choices of an offer stand at different places of the catalog, each at an event that may
take place and at a choice of it that may be made; whatever is special among them comes first, so
that there is one at most; and there are no more than were asked for. In exact arithmetic, and in
double precision as well, an offer of fewer choices has those of all ordinary places that are
open. -/
theorem offers_are_drawn_without_replacement (catalog : Catalog R) (config : Config R)
    {count : Nat} (life : Life R) (source : Counted G) (hcount : 1 ≤ count) :
    let offer := (catalog.drawCandidates config count life source).1
    ∃ places : List Place, places.Nodup ∧
      List.Forall₂ (fun place candidate ↦
        candidate.StandsAt catalog config.showTestEvents life place) places offer ∧
      (∀ candidate ∈ offer.tail, candidate.choice.special = false) ∧
      offer.length ≤ count ∧
      (LawfulUnit R → offer.length < count →
        ∀ place o, catalog.OpenAt config.showTestEvents life place o →
          o.choice.special = false → place ∈ places) := by
  intro offer
  obtain ⟨part, hpart, hdrawn⟩ := exists_placed_drawn catalog config count life source
  have hlength : offer.length = (drawn catalog config count life source).1.length :=
    catalog.length_drawCandidates ..
  refine ⟨part.map Prod.fst, ?_, forall₂_standsAt hpart hdrawn,
    fun _ hmem ↦ special_of_mem_tail_drawCandidates hmem, ?_,
    fun _ hfew place o hopen hordinary ↦ ?_⟩
  · obtain ⟨ordered, hperm, hsublist⟩ := hpart
    exact (hperm.map _).nodup_iff.1 ((nodup_places ..).sublist (hsublist.map _))
  · rw [hlength]
    exact (length_drawn_le_iff ..).2 fun hnone ↦ Nat.ne_of_gt hcount hnone.1
  · rw [hlength] at hfew
    exact List.mem_map_of_mem (mem_of_length_lt hpart hdrawn hfew hopen hordinary)

/-- A market where one may buy, sell or steal. -/
def market : Event Float :=
  ⟨"market", "Market", "", [], [.plain (some "buy") "Buy", .plain (some "sell") "Sell",
    { Choice.plain (some "steal") "Steal" with special := true }], [], none, false, false⟩

/-- A catalog of two markets that are alike. -/
def twinMarkets : Catalog Float := { Catalog.ofBase .empty with events := [market, market] }

/-- Of six choices that are asked for on the markets five are offered: to steal on one of them, and
to buy and to sell on each. -/
theorem twin_markets_are_both_offered :
    let offer := (twinMarkets.drawCandidates .default 6 (.fresh 50)
      (.fresh (⟨0, 0⟩ : Stepper))).1
    offer.length = 5 ∧ (∀ candidate ∈ offer.tail, candidate.choice.special = false) ∧
      ∃ places : List Place, places.Nodup ∧ places.length = 5 ∧
        ⟨0, 0⟩ ∈ places ∧ ⟨0, 1⟩ ∈ places ∧ ⟨1, 0⟩ ∈ places ∧ ⟨1, 1⟩ ∈ places := by
  intro offer
  have hlength : offer.length = 5 := by decide +kernel
  obtain ⟨places, hnodup, hstand, hspecial, -, hall⟩ :=
    offers_are_drawn_without_replacement twinMarkets .default (.fresh 50)
      (.fresh (⟨0, 0⟩ : Stepper)) (show 1 ≤ 6 by decide)
  have hfew : offer.length < 6 := hlength ▸ by decide
  have hmem : ∀ place choice, twinMarkets.OpenAt false (.fresh 50) place ⟨market, choice⟩ →
      choice.special = false → place ∈ places :=
    fun place choice hopen ↦ hall inferInstance hfew place ⟨market, choice⟩ hopen
  refine ⟨hlength, hspecial, places, hnodup, hstand.length_eq.trans hlength, ?_, ?_, ?_, ?_⟩
  · exact hmem _ (.plain (some "buy") "Buy")
      ⟨rfl, rfl, by decide +kernel, by decide +kernel⟩ rfl
  · exact hmem _ (.plain (some "sell") "Sell")
      ⟨rfl, rfl, by decide +kernel, by decide +kernel⟩ rfl
  · exact hmem _ (.plain (some "buy") "Buy")
      ⟨rfl, rfl, by decide +kernel, by decide +kernel⟩ rfl
  · exact hmem _ (.plain (some "sell") "Sell")
      ⟨rfl, rfl, by decide +kernel, by decide +kernel⟩ rfl

end Catalog

end LifeStory
