import LifeStory.ChoiceDraw
import LifeStory.EventDraw

/-!
# What the record of a draw says

A draw among candidates gives a position, and leaves a record with the weights and the roll. The
record tells the position again (`Trace.Records`): to walk the recorded weights with the recorded
roll leads to it, and the name that was taken down is that of the candidate there. Nothing is drawn
without a positive sum of weights; of the buckets of a choice the last one counts then.

The walk ends inside the list that it is given (`Draw.pickByRoll_lt`), so that a position can be
looked up in every list with an element for each candidate.
-/

namespace LifeStory

variable {R : Type} [Scalar R]

/-- A sum of weights by which something can be drawn: it is defined, and not zero or less. -/
def Scalar.Positive (total : R) : Prop := ¬ (Scalar.isNaN total ∨ total ≤ 0.0)

/-! ### The walk -/

namespace Draw

variable {weights : List R}

/-- The walk ends at one of the weights. -/
theorem pickByRoll_lt {roll : R} {position : Nat} (h : pickByRoll weights roll = some position) :
    position < weights.length := by
  induction weights generalizing roll position with
  | nil => cases h
  | cons weight more ih =>
    cases more with
    | nil =>
      obtain rfl := Option.some.inj h
      exact Nat.zero_lt_one
    | cons next rest =>
      rw [pickByRoll] at h
      · split at h
        · obtain rfl := Option.some.inj h
          exact Nat.zero_lt_succ _
        · obtain ⟨further, hfurther, rfl⟩ := Option.map_eq_some_iff.1 h
          exact Nat.succ_lt_succ (ih hfurther)
      · exact List.cons_ne_nil _ _

/-- Where there are weights the walk ends. -/
theorem exists_pickByRoll (h : weights ≠ []) (roll : R) :
    ∃ position, pickByRoll weights roll = some position := by
  induction weights generalizing roll with
  | nil => exact absurd rfl h
  | cons weight more ih =>
    cases more with
    | nil => exact ⟨0, rfl⟩
    | cons next rest =>
      rw [pickByRoll]
      · split
        · exact ⟨0, rfl⟩
        · obtain ⟨position, hposition⟩ := ih (List.cons_ne_nil _ _) (roll - weight)
          exact ⟨position + 1, by rw [hposition]; rfl⟩
      · exact List.cons_ne_nil _ _

variable {G : Type} [RandomSource G]

/-- With a positive sum of weights there is a roll, and the walk with it tells the position. -/
theorem byWeight_of_positive (h : Scalar.Positive (Scalar.sum weights)) (source : Counted G) :
    ∃ roll later, byWeight weights source =
      ((pickByRoll weights roll).map (·, roll), later) := by
  rw [byWeight]
  exact ⟨_, _, if_neg h⟩

/-- Without a positive sum nothing is taken from the source. -/
theorem byWeight_of_not_positive (h : ¬ Scalar.Positive (Scalar.sum weights))
    (source : Counted G) : byWeight weights source = (none, source) :=
  if_pos (Decidable.not_not.1 h)

end Draw

/-! ### Records -/

namespace Trace

/-- The record of a draw from the pool with the given name, among the given candidates, that gave a
position or none. -/
structure Records (trace : Trace R) (name : String) (among : List (Weighted R))
    (position : Option Nat) : Prop where
  pool : trace.pool = name
  candidates : trace.candidates = among
  total : trace.total = Scalar.sum (among.map Weighted.weight)
  /-- The recorded weights and the recorded roll lead to the position. -/
  replay : Scalar.Positive trace.total →
    Draw.pickByRoll (among.map Weighted.weight) trace.roll = position
  /-- The name that was taken down is that of the candidate at the position. -/
  chosen : trace.chosen = (position.bind (among[·]?)).map Weighted.id

variable {trace : Trace R} {name : String} {among : List (Weighted R)} {position : Option Nat}

/-- If there is something to draw from, a record gives its position again, and the candidate there
is the one whose name was taken down. -/
theorem Records.exists_candidate (h : trace.Records name among position)
    (hpositive : Scalar.Positive trace.total) (hne : among ≠ []) :
    ∃ index candidate, Draw.pickByRoll (trace.candidates.map Weighted.weight) trace.roll =
        some index ∧ position = some index ∧ trace.candidates[index]? = some candidate ∧
        trace.chosen = some candidate.id := by
  have hweights : among.map Weighted.weight ≠ [] := fun hnil ↦ hne (List.map_eq_nil_iff.1 hnil)
  obtain ⟨index, hindex⟩ := Draw.exists_pickByRoll hweights trace.roll
  have hposition : position = some index := (h.replay hpositive).symm.trans hindex
  have hlt : index < among.length := by
    have hlt := Draw.pickByRoll_lt hindex
    rwa [List.length_map] at hlt
  have hget : among[index]? = some among[index] := List.getElem?_eq_getElem hlt
  rw [h.candidates, h.chosen, hposition, Option.bind_some, hget]
  exact ⟨index, among[index], hindex, rfl, hget, rfl⟩

variable {G : Type} [RandomSource G] {source later : Counted G}

theorem draw_of_some {index : Nat} {roll : R}
    (h : Draw.byWeight (trace.candidates.map Weighted.weight) source =
      (some (index, roll), later)) :
    trace.draw source = (some index, { trace with
      roll := roll, chosen := (trace.candidates[index]?).map Weighted.id }, later) := by
  rw [draw, h]

theorem draw_of_none
    (h : Draw.byWeight (trace.candidates.map Weighted.weight) source = (none, later)) :
    trace.draw source = (none, trace, later) := by
  rw [draw, h]

/-- **A draw is recorded as it took place**, and without a positive sum of weights nothing is
drawn. -/
theorem records_draw (name : String) (among : List (Weighted R)) (source : Counted G) :
    let drawn := (ofCandidates name among).draw source
    drawn.2.1.Records name among drawn.1 ∧
      (¬ Scalar.Positive drawn.2.1.total → drawn.1 = none) := by
  by_cases hpositive : Scalar.Positive (Scalar.sum (among.map Weighted.weight))
  · obtain ⟨roll, later, hroll⟩ := Draw.byWeight_of_positive hpositive source
    cases hpick : Draw.pickByRoll (among.map Weighted.weight) roll with
    | some index =>
      rw [hpick] at hroll
      rw [draw_of_some hroll]
      exact ⟨⟨rfl, rfl, rfl, fun _ ↦ hpick, rfl⟩, fun hnot ↦ absurd hpositive hnot⟩
    | none =>
      -- Only a walk along no weights ends nowhere.
      have hnil : among.map Weighted.weight = [] := by
        refine Classical.byContradiction fun hne ↦ ?_
        obtain ⟨index, hindex⟩ := Draw.exists_pickByRoll hne roll
        rw [hpick] at hindex
        cases hindex
      rw [hpick] at hroll
      rw [draw_of_none hroll]
      refine ⟨⟨rfl, rfl, rfl, fun _ ↦ ?_, rfl⟩, fun _ ↦ rfl⟩
      rw [hnil]
      rfl
  · rw [draw_of_none (Draw.byWeight_of_not_positive hpositive source)]
    exact ⟨⟨rfl, rfl, rfl, fun h ↦ absurd h hpositive, rfl⟩, fun _ ↦ rfl⟩

end Trace

/-! ### How a choice turns out -/

/-- A list of outcomes that a choice may come to: its own when it has no buckets, else those of a
bucket. -/
def Choice.MayComeTo (choice : Choice R) (outcomes : List (Directive R)) : Prop :=
  choice.results = [] ∧ outcomes = choice.outcomes ∨
    ∃ bucket ∈ choice.results, outcomes = bucket.outcomes

theorem Bucket.length_weightedAll (buckets : List (Bucket R)) :
    (weightedAll buckets).length = buckets.length :=
  List.length_mapIdx

omit [Scalar R] in
theorem Resolution.ofBucket_of_some {buckets : List (Bucket R)} {position : Nat}
    {bucket : Bucket R} (h : buckets[position]? = some bucket) (trace : Trace R) :
    ofBucket buckets position trace =
      ⟨bucket.feedback, bucket.outcomes, some position, some trace⟩ := by
  rw [ofBucket, h]
  rfl

namespace Choice

variable {G : Type} [RandomSource G] {choice : Choice R}

/-- A choice without buckets has its own feedback and outcomes, and draws nothing. -/
theorem resolve_of_plain (h : choice.results = []) (source : Counted G) :
    choice.resolve source = (⟨choice.feedback, choice.outcomes, none, none⟩, source) :=
  if_pos (List.isEmpty_iff.2 h)

/-- The draw of a bucket. -/
def drawBucket (choice : Choice R) (source : Counted G) : Option Nat × Trace R × Counted G :=
  (Trace.ofCandidates "results" (Bucket.weightedAll choice.results)).draw source

/-- A choice with buckets comes to the one that is drawn, or to the last one. -/
theorem resolve_eq (h : choice.results ≠ []) (source : Counted G) :
    (choice.resolve source).1 =
      match (choice.drawBucket source).1 with
      | some position => .ofBucket choice.results position (choice.drawBucket source).2.1
      | none => .ofBucket choice.results (choice.results.length - 1)
          { (choice.drawBucket source).2.1 with
            chosen := some (bucketLabel (choice.results.length - 1)) } := by
  have hbuckets : ¬ choice.results.isEmpty = true := fun hempty ↦ h (List.isEmpty_iff.1 hempty)
  rw [resolve, drawBucket, if_neg hbuckets]
  split <;> next hdraw => rw [hdraw]

/-- **A choice with buckets comes to one of them**, the one that its record names; without a
positive sum of weights it is the last. -/
theorem resolve_of_buckets (h : choice.results ≠ []) (source : Counted G) :
    ∃ position bucket trace, choice.results[position]? = some bucket ∧
      (choice.resolve source).1 =
        ⟨bucket.feedback, bucket.outcomes, some position, some trace⟩ ∧
      trace.Records "results" (Bucket.weightedAll choice.results) (some position) ∧
      (¬ Scalar.Positive trace.total → position + 1 = choice.results.length) := by
  obtain ⟨hrecords, hundrawn⟩ :=
    Trace.records_draw "results" (Bucket.weightedAll choice.results) source
  have hlength := Bucket.length_weightedAll choice.results
  have hpos : 0 < choice.results.length := List.length_pos_iff.2 h
  by_cases hpositive : Scalar.Positive (choice.drawBucket source).2.1.total
  · have hne : Bucket.weightedAll choice.results ≠ [] := by
      rwa [← List.length_pos_iff, hlength]
    obtain ⟨index, candidate, -, hindex, hcandidate, -⟩ := hrecords.exists_candidate hpositive hne
    have hlt : index < choice.results.length := by
      rw [hrecords.candidates] at hcandidate
      obtain ⟨hlt, -⟩ := List.getElem?_eq_some_iff.1 hcandidate
      rwa [hlength] at hlt
    have hget := List.getElem?_eq_getElem hlt
    refine ⟨index, choice.results[index], (choice.drawBucket source).2.1, hget, ?_,
      hindex ▸ hrecords, fun hnot ↦ absurd hpositive hnot⟩
    rw [resolve_eq h, drawBucket, hindex]
    exact Resolution.ofBucket_of_some hget _
  · -- Nothing is drawn, and the last bucket counts.
    have hnone : (choice.drawBucket source).1 = none := hundrawn hpositive
    have hlt : choice.results.length - 1 < choice.results.length := Nat.sub_one_lt_of_lt hpos
    have hget := List.getElem?_eq_getElem hlt
    refine ⟨choice.results.length - 1, choice.results[choice.results.length - 1],
      { (choice.drawBucket source).2.1 with
        chosen := some (bucketLabel (choice.results.length - 1)) }, hget, ?_, ?_,
      fun _ ↦ Nat.sub_add_cancel hpos⟩
    · rw [resolve_eq h, hnone]
      exact Resolution.ofBucket_of_some hget _
    · refine ⟨hrecords.pool, hrecords.candidates, hrecords.total,
        fun htotal ↦ absurd htotal hpositive, ?_⟩
      rw [Option.bind_some, Bucket.weightedAll, List.getElem?_mapIdx, hget]
      rfl

/-- What comes of a choice is a list of outcomes that it may come to. -/
theorem mayComeTo_resolve (choice : Choice R) (source : Counted G) :
    choice.MayComeTo (choice.resolve source).1.outcomes := by
  by_cases h : choice.results = []
  · rw [resolve_of_plain h]
    exact .inl ⟨h, rfl⟩
  · obtain ⟨position, bucket, trace, hget, hresolve, -⟩ := resolve_of_buckets h source
    rw [hresolve]
    exact .inr ⟨bucket, List.mem_of_getElem? hget, rfl⟩

omit [Scalar R] in
/-- A list of outcomes that the choice may come to is among all that it may do. -/
theorem MayComeTo.subset {outcomes : List (Directive R)} (h : choice.MayComeTo outcomes) :
    outcomes ⊆ choice.allOutcomes := by
  rw [allOutcomes]
  rcases h with ⟨hplain, rfl⟩ | ⟨bucket, hbucket, rfl⟩
  · rw [if_pos (List.isEmpty_iff.2 hplain)]
    exact List.Subset.refl _
  · rw [if_neg fun hempty ↦ List.ne_nil_of_mem hbucket (List.isEmpty_iff.1 hempty)]
    exact fun d hd ↦ List.mem_flatMap.2 ⟨bucket, hbucket, hd⟩

end Choice

end LifeStory
