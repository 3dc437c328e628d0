import LifeStory.Proofs.Course

/-!
# The numbers of the lines

A log numbers its lines in the order in which they are written, and keeps the latest ones. After
`total` lines it holds as many of them as it has room for, with the numbers just below `total`
(`Log.Holds`). Numbers stay at the largest one when they get there.

A change of a life writes one line at most (`Life.Change.log_cases`), so that every life which a run
has reached has such a log, with lines whose numbers are below the number of the next one.
-/

namespace LifeStory

namespace Log

/-- A log of `total` lines, of which it keeps the latest. -/
structure Holds (log : Log) (total : Nat) : Prop where
  nextSeq : log.nextSeq = min total maxSeq
  length : log.entries.length = min total (max log.capacity 1)
  seqs : log.entries.map LogEntry.seq =
    (List.range' (total - log.entries.length) log.entries.length).map (min · maxSeq)

theorem holds_empty (capacity : Nat) : (empty capacity).Holds 0 :=
  ⟨rfl, (Nat.zero_min _).symm, rfl⟩

theorem succUpTo_min (limit n : Nat) : succUpTo limit (min n limit) = min (n + 1) limit := by
  rw [succUpTo]
  split <;> omega

/-- A log holds one line more after a line is written. -/
theorem Holds.push {log : Log} {total : Nat} (h : log.Holds total) (turn : Nat) (kind : LogKind)
    (title : Option String) (text : String) :
    (log.push turn kind title text).Holds (total + 1) := by
  have hlength := h.length
  have hlen : (log.push turn kind title text).entries.length =
      log.entries.length - (log.entries.length + 1 - max log.capacity 1) + 1 := by
    simp [Log.push]
  refine ⟨?_, ?_, ?_⟩
  · show succUpTo maxSeq log.nextSeq = _
    rw [h.nextSeq, succUpTo_min]
  · show _ = min (total + 1) (max log.capacity 1)
    omega
  · rw [hlen]
    generalize hdropped : log.entries.length + 1 - max log.capacity 1 = dropped
    -- The lines that are kept come first, with the numbers that they had.
    have hkept : (log.push turn kind title text).entries.map LogEntry.seq =
        (List.range' (total - log.entries.length + dropped) (log.entries.length - dropped)).map
          (min · maxSeq) ++ [min total maxSeq] := by
      simp only [Log.push, hdropped, List.map_append, List.map_drop, h.seqs, h.nextSeq]
      rw [← List.map_drop, List.drop_range', Nat.mul_one]
      rfl
    have hstart : total + 1 - (log.entries.length - dropped + 1) =
        total - log.entries.length + dropped := by omega
    have hlast : total - log.entries.length + dropped + (log.entries.length - dropped) = total := by
      omega
    rw [hkept, hstart, List.range'_concat, Nat.one_mul, hlast, List.map_append]
    rfl

/-- The lines have numbers below the next one, unless there are no more numbers. -/
theorem Holds.seq_lt {log : Log} {total : Nat} (h : log.Holds total) (hroom : total ≤ maxSeq) :
    ∀ line ∈ log.entries, line.seq < log.nextSeq := by
  intro line hline
  have hseq : line.seq ∈ log.entries.map LogEntry.seq := List.mem_map_of_mem hline
  rw [h.seqs] at hseq
  obtain ⟨number, hrange, hnumbered⟩ := List.mem_map.1 hseq
  have hbound := List.mem_range'_1.1 hrange
  have hlength := h.length
  have hnext := h.nextSeq
  omega

/-- No line has a number from the next one on, unless there are no more numbers. -/
theorem Holds.since_nextSeq {log : Log} {total : Nat} (h : log.Holds total)
    (hroom : log.nextSeq < maxSeq) : log.since log.nextSeq = [] := by
  have hnext := h.nextSeq
  refine List.filter_eq_nil_iff.2 fun line hline hnumber ↦ ?_
  exact Nat.not_le.2 (h.seq_lt (by omega) line hline) (of_decide_eq_true hnumber)

end Log

namespace Life

variable {R : Type} [Scalar R]

/-- A change leaves the log as it is or writes a line to it. -/
theorem Change.log_cases {catalog : Catalog R} {allowed : Directive R → Prop} {life next : Life R}
    (h : Change catalog allowed life next) :
    next.log = life.log ∨
      ∃ kind title text, next.log = life.log.push life.turn kind title text := by
  cases h with
  | settle =>
    rcases life.settleDebt_cases with hsettle | ⟨_, line, hsettle⟩ <;> rw [hsettle]
    · exact .inl rfl
    · exact .inr ⟨.feedback, none, line, rfl⟩
  | obey directive _ obeyed => exact .inl (kept_of_obey? obeyed).log
  | note kind title text => exact .inr ⟨kind, title, text, rfl⟩
  | die cause => exact .inr ⟨_, _, _, rfl⟩
  | close ending title text => exact .inr ⟨_, _, _, rfl⟩
  | grow | wearStatuses | wearModifiers | stage | choose => exact .inl rfl

/-- Every life that a run has reached has numbered its lines in order. -/
theorem Reached.holds {A G : Type} [AchievementSink A] [SeededSource G] {life : Life R}
    (h : Reached A G life) : ∃ total, life.log.Holds total := by
  refine h.induction (P := fun life ↦ ∃ total, life.log.Holds total) ?_ (fun _ _ h ↦ h) ?_
  · exact fun _ capacity talents ↦ ⟨2, ((Log.holds_empty capacity).push ..).push ..⟩
  · rintro catalog life next hchange ⟨total, htotal⟩
    rcases hchange.log_cases with hlog | ⟨kind, title, text, hlog⟩
    · exact ⟨total, hlog ▸ htotal⟩
    · exact ⟨total + 1, hlog ▸ htotal.push life.turn kind title text⟩

end Life

end LifeStory
