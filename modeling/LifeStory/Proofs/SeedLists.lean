import LifeStory.Proofs.ConditionalText
import LifeStory.Trial.Seeds
import Mathlib.Data.Nat.Digits.Defs
import Mathlib.Tactic.IntervalCases

/-!
# How lists of seeds are written

What a token stands for is said without the reader: a seed is spelled in one of three ways
(`SpellsSeed`), and a token gives one seed, those between two that are set apart by two dots, or
none if it is blank (`Gives`). The reader accepts a token exactly if it gives something, and reads
what it gives (`ofToken_eq_ok_iff`). This is put together from one statement of this kind for each
part of the reader: digits, signed and marked numbers, blanks, and the cut at two dots. Two parts
cannot be confused, since no character of a spelled seed is a blank or a dot.

A list of seeds keeps of each seed the place where it comes first (`FirstSeen`). There is only one
such list (`FirstSeen.unique`), so that the list is determined by what the tokens give.
-/

namespace LifeStory

/-! ### Blanks around a text -/

namespace Text

/-- A text with nothing but blanks before and after the given one. -/
def Padded (core text : List Char) : Prop :=
  ∃ front back, (∀ c ∈ front, isBlank c = true) ∧ (∀ c ∈ back, isBlank c = true) ∧
    text = front ++ (core ++ back)

variable {core text blanks : List Char}

theorem Padded.refl (text : List Char) : Padded text text :=
  ⟨[], [], nofun, nofun, by simp⟩

/-- Blanks may be put before a padded text. -/
theorem Padded.blanks_append (h : Padded core text) (hblanks : ∀ c ∈ blanks, isBlank c = true) :
    Padded core (blanks ++ text) := by
  obtain ⟨front, back, hfront, hback, rfl⟩ := h
  exact ⟨blanks ++ front, back, List.forall_mem_append.2 ⟨hblanks, hfront⟩, hback, by simp⟩

/-- Blanks may be put after a padded text. -/
theorem Padded.append_blanks (h : Padded core text) (hblanks : ∀ c ∈ blanks, isBlank c = true) :
    Padded core (text ++ blanks) := by
  obtain ⟨front, back, hfront, hback, rfl⟩ := h
  exact ⟨front, back ++ blanks, hfront, List.forall_mem_append.2 ⟨hback, hblanks⟩, by simp⟩

/-- Nothing is left of blanks that are taken off the end. -/
theorem dropBlankEnd_of_blank (h : ∀ c ∈ text, isBlank c = true) : dropBlankEnd text = [] := by
  induction text with
  | nil => rfl
  | cons c cs ih =>
    obtain ⟨hc, hcs⟩ := List.forall_mem_cons.1 h
    rw [dropBlankEnd, ih hcs]
    exact if_pos hc

/-- What is taken off the end of a text are blanks. -/
theorem exists_dropBlankEnd_append (text : List Char) :
    ∃ back, (∀ c ∈ back, isBlank c = true) ∧ text = dropBlankEnd text ++ back := by
  induction text with
  | nil => exact ⟨[], nofun, rfl⟩
  | cons c cs ih =>
    obtain ⟨back, hback, heq⟩ := ih
    by_cases hnil : dropBlankEnd cs = []
    · rw [hnil, List.nil_append] at heq
      by_cases hblank : isBlank c = true
      · refine ⟨c :: cs, List.forall_mem_cons.2 ⟨hblank, heq ▸ hback⟩, ?_⟩
        have hend : dropBlankEnd (c :: cs) = [] := by
          rw [dropBlankEnd, hnil]
          exact if_pos hblank
        rw [hend, List.nil_append]
      · exact ⟨cs, heq ▸ hback, by rw [dropBlankEnd_cons_of_not_blank hblank, hnil]; rfl⟩
    · refine ⟨back, hback, ?_⟩
      rw [dropBlankEnd]
      split
      next hempty => exact absurd hempty hnil
      next => exact congrArg (c :: ·) heq

/-- What is taken off the ends of a text are blanks. -/
theorem padded_trimChars (text : List Char) : Padded (trimChars text) text := by
  obtain ⟨back, hback, heq⟩ := exists_dropBlankEnd_append (text.dropWhile isBlank)
  refine ⟨text.takeWhile isBlank, back, fun c hc ↦ List.mem_takeWhile_imp hc, hback, ?_⟩
  rw [trimChars, ← heq, List.takeWhile_append_dropWhile]

/-- Blanks around a trimmed text are taken off. -/
theorem trimChars_of_padded (h : Padded core text) (hcore : trimChars core = core) :
    trimChars text = core := by
  obtain ⟨front, back, hfront, hback, rfl⟩ := h
  have hend : dropBlankEnd (core ++ back) = core := by
    rw [dropBlankEnd_append, if_pos (dropBlankEnd_of_blank hback), dropBlankEnd_of_trimmed hcore]
  rw [trimChars, List.dropWhile_append_of_pos hfront]
  by_cases hne : core = []
  · rw [hne, List.nil_append, List.dropWhile_eq_nil_iff.2 hback]
    rfl
  · obtain ⟨c, cs, rfl, hblank⟩ := exists_cons_of_trimmed hne hcore
    rwa [List.cons_append, List.dropWhile_cons_of_neg hblank]

/-- A text of blanks is nothing when it is trimmed, and no other text is. -/
theorem trimChars_eq_nil_iff : trimChars text = [] ↔ ∀ c ∈ text, isBlank c = true := by
  constructor
  · intro h
    obtain ⟨front, back, hfront, hback, heq⟩ := padded_trimChars text
    rw [heq, h, List.nil_append]
    exact List.forall_mem_append.2 ⟨hfront, hback⟩
  · intro h
    exact trimChars_of_padded ⟨text, [], h, nofun, by simp⟩ rfl

end Text

namespace Trial.Seeds

open Text

/-! ### Numbers -/

/-- A character is a digit of a base up to sixteen, in either case, and has the given value. -/
def IsDigit (base : Nat) (c : Char) (value : Nat) : Prop :=
  value < base ∧ (c = Nat.digitChar value ∨ c = (Nat.digitChar value).toUpper)

/-- Digits of which there is one at least, the one that weighs most first, spell a number. -/
def Spells (base : Nat) (digits : List Char) (n : Nat) : Prop :=
  ∃ values, List.Forall₂ (IsDigit base) digits values ∧ values ≠ [] ∧
    n = Nat.ofDigits base values.reverse

/-- A number up to a bound is spelled, perhaps with a plus sign before it. -/
def SpellsUpTo (base bound : Nat) (text : List Char) (n : Nat) : Prop :=
  n ≤ bound ∧ ∃ sign digits, (sign = [] ∨ sign = ['+']) ∧ text = sign ++ digits ∧
    Spells base digits n

variable {base bound n value : Nat} {c : Char} {text digits : List Char}

/-- A character between two others is found from its distance to the first. -/
theorem eq_ofNat_of_between {low high : Char} (offset : Nat) (hlow : low ≤ c) (hhigh : c ≤ high)
    (h : c.toNat - low.toNat + offset = value) :
    c = Char.ofNat (low.toNat + (value - offset)) ∧ offset ≤ value ∧
      value ≤ high.toNat - low.toNat + offset := by
  have hlow' : low.toNat ≤ c.toNat := hlow
  have hhigh' : c.toNat ≤ high.toNat := hhigh
  have hc : low.toNat + (value - offset) = c.toNat := by omega
  rw [hc, Char.ofNat_toNat]
  exact ⟨rfl, by omega, by omega⟩

/-- A character has a value in a base exactly if it is a digit of it. -/
theorem digit?_eq_some_iff (h : base ≤ 16) : digit? base c = some value ↔ IsDigit base c value := by
  rw [digit?, Text.hexValue?, Option.filter_eq_some_iff, IsDigit, decide_eq_true_iff, and_comm]
  refine and_congr_right fun hvalue ↦ ⟨fun hread ↦ ?_, ?_⟩
  -- There are ten digits, and six letters in each of two cases.
  · split_ifs at hread with hdigit hlower hupper
    · simp only [Char.isDigit, Bool.and_eq_true, decide_eq_true_eq] at hdigit
      obtain ⟨rfl, -, hle⟩ := eq_ofNat_of_between 0 hdigit.1 hdigit.2 (Option.some.inj hread)
      clear hread hdigit
      change value ≤ 9 at hle
      left
      interval_cases value <;> rfl
    · obtain ⟨rfl, hge, hle⟩ := eq_ofNat_of_between 10 hlower.1 hlower.2 (Option.some.inj hread)
      clear hread hlower hdigit
      change value ≤ 15 at hle
      left
      interval_cases value <;> rfl
    · obtain ⟨rfl, hge, hle⟩ := eq_ofNat_of_between 10 hupper.1 hupper.2 (Option.some.inj hread)
      clear hread hupper hdigit hlower
      change value ≤ 15 at hle
      right
      interval_cases value <;> rfl
  · have hlt : value < 16 := by omega
    clear hvalue
    rintro (rfl | rfl) <;> interval_cases value <;> rfl

/-- What has no value is no digit. -/
theorem not_isDigit (h : base ≤ 16) (hc : digit? base c = none) : ¬ IsDigit base c value :=
  fun hdigit ↦ by
    rw [(digit?_eq_some_iff h).2 hdigit] at hc
    cases hc

/-- Digits that are read after others move those before them to the left. -/
theorem foldlM_digits_eq_some_iff (h : base ≤ 16) {read : Nat} :
    digits.foldlM (fun n c ↦ (digit? base c).map (n * base + ·)) read = some n ↔
      ∃ values, List.Forall₂ (IsDigit base) digits values ∧
        n = read * base ^ digits.length + Nat.ofDigits base values.reverse := by
  induction digits generalizing read with
  | nil =>
    constructor
    · intro hread
      obtain rfl := Option.some.inj hread
      exact ⟨[], .nil, by simp⟩
    · rintro ⟨values, hvalues, rfl⟩
      cases hvalues
      simp
  | cons c cs ih =>
    rw [List.foldlM_cons, Option.bind_eq_bind, Option.bind_eq_some_iff]
    simp only [Option.map_eq_some_iff, ih, List.length_cons]
    have hmove : ∀ value values, List.Forall₂ (IsDigit base) cs values →
        (read * base + value) * base ^ cs.length + Nat.ofDigits base values.reverse =
          read * base ^ (cs.length + 1) + Nat.ofDigits base (value :: values).reverse := by
      intro value values hvalues
      rw [List.reverse_cons, Nat.ofDigits_append, List.length_reverse, ← hvalues.length_eq,
        Nat.ofDigits_singleton]
      ring
    constructor
    · rintro ⟨_, ⟨value, hdigit, rfl⟩, values, hvalues, rfl⟩
      exact ⟨value :: values, .cons ((digit?_eq_some_iff h).1 hdigit) hvalues,
        hmove value values hvalues⟩
    · rintro ⟨_, hall, rfl⟩
      obtain ⟨value, values, hdigit, hvalues, rfl⟩ := List.forall₂_cons_left_iff.1 hall
      exact ⟨_, ⟨value, (digit?_eq_some_iff h).2 hdigit, rfl⟩, values, hvalues,
        (hmove value values hvalues).symm⟩

/-- Digits are read as a number exactly if they spell it. -/
theorem digits?_eq_some_iff (h : base ≤ 16) : digits? base text = some n ↔ Spells base text n := by
  have hne : ∀ {values}, List.Forall₂ (IsDigit base) text values → (values ≠ [] ↔ text ≠ []) := by
    intro values hvalues
    rw [← List.length_pos_iff, ← List.length_pos_iff, hvalues.length_eq]
  rw [digits?, Spells]
  split
  next hnil =>
    refine iff_of_false nofun ?_
    rintro ⟨values, hvalues, hsome, -⟩
    exact (hne hvalues).1 hsome hnil
  next hsome =>
    rw [foldlM_digits_eq_some_iff h]
    simp only [Nat.zero_mul, Nat.zero_add]
    exact exists_congr fun values ↦ and_congr_right fun hvalues ↦
      (and_iff_right ((hne hvalues).2 hsome)).symm

/-- The characters that spelled seeds are made of. -/
def seedChars : List Char := "0123456789abcdefABCDEFxX+-".toList

/-- No character of a seed is a blank or a dot. -/
theorem plain_of_mem_seedChars : ∀ c ∈ seedChars, ¬ isBlank c = true ∧ c ≠ '.' := by
  -- Bounded by a list, and not by the type of characters, this is decided at once.
  rw [← List.forall_iff_forall_mem]
  decide

/-- A digit is one of the characters that seeds are spelled with. -/
theorem IsDigit.mem_seedChars (hdigit : IsDigit base c value) (h : base ≤ 16) : c ∈ seedChars := by
  obtain ⟨hvalue, hc⟩ := hdigit
  have hlt : value < 16 := by omega
  clear hvalue
  rcases hc with rfl | rfl <;> interval_cases value <;> decide

/-- Each character of digits is one of them. -/
theorem Spells.exists_isDigit (h : Spells base digits n) (hc : c ∈ digits) :
    ∃ value, IsDigit base c value := by
  obtain ⟨values, hvalues, -⟩ := h
  induction hvalues with
  | nil => cases hc
  | @cons first value _ _ hfirst _ ih =>
    rcases List.mem_cons.1 hc with rfl | hc
    · exact ⟨value, hfirst⟩
    · exact ih hc

/-- Digits do not begin with a character that is no digit. -/
theorem not_spells_cons (h : base ≤ 16) (hc : digit? base c = none) (rest : List Char) :
    ¬ Spells base (c :: rest) n := fun hspells ↦ by
  obtain ⟨value, hdigit⟩ := hspells.exists_isDigit List.mem_cons_self
  exact not_isDigit h hc hdigit

/-- A number up to a bound is read exactly if it is spelled, with a sign of plus or without one. -/
theorem natural?_eq_some_iff (h : base ≤ 16) :
    natural? base bound text = some n ↔ SpellsUpTo base bound text n := by
  rw [natural?.eq_def, SpellsUpTo, Option.filter_eq_some_iff, decide_eq_true_iff, and_comm]
  refine and_congr_right fun _ ↦ ?_
  rw [digits?_eq_some_iff h]
  constructor
  · intro hspells
    split at hspells
    next rest => exact ⟨['+'], rest, .inr rfl, rfl, hspells⟩
    next => exact ⟨[], text, .inl rfl, rfl, hspells⟩
  · rintro ⟨sign, digits, rfl | rfl, rfl, hspells⟩
    · split
      next rest => exact absurd hspells (not_spells_cons h rfl rest)
      next => exact hspells
    · exact hspells

/-- A minus sign is no part of a number that is not negative. -/
theorem not_spellsUpTo_minus (rest : List Char) : ¬ SpellsUpTo 10 bound ('-' :: rest) n := by
  rintro ⟨-, sign, digits, rfl | rfl, heq, hspells⟩
  · rw [List.nil_append] at heq
    rw [← heq] at hspells
    exact not_spells_cons (by decide) rfl rest hspells
  · cases heq

theorem SpellsUpTo.of_spells (hn : n ≤ bound) (h : Spells base text n) :
    SpellsUpTo base bound text n :=
  ⟨hn, [], text, .inl rfl, rfl, h⟩

theorem le_maxSeed (n : UInt64) : n.toNat ≤ maxSeed :=
  Nat.le_of_lt_succ n.toNat_lt

/-- No character but those of seeds stands in a number. -/
theorem SpellsUpTo.mem_seedChars (h : SpellsUpTo base bound text n) (hbase : base ≤ 16)
    (hc : c ∈ text) : c ∈ seedChars := by
  obtain ⟨-, sign, digits, hsign, rfl, hspells⟩ := h
  rcases List.mem_append.1 hc with hc | hc
  · rcases hsign with rfl | rfl
    · cases hc
    · obtain rfl := List.mem_singleton.1 hc
      decide
  · obtain ⟨value, hdigit⟩ := hspells.exists_isDigit hc
    exact hdigit.mem_seedChars hbase

/-- Whatever the base, a number is spelled by its digits. -/
theorem spells_toDigits (hlow : 1 < base) (hhigh : base ≤ 16) (n : Nat) :
    Spells base (Nat.toDigits base n) n := by
  have hdigit : ∀ {d}, d < base → IsDigit base (Nat.digitChar d) d := fun hd ↦ ⟨hd, .inl rfl⟩
  induction n using Nat.strongRecOn with
  | ind n ih =>
    rw [Nat.toDigits_eq_if hlow]
    split
    next hlt => exact ⟨[n], .cons (hdigit hlt) .nil, List.cons_ne_nil _ _, by simp⟩
    next hge =>
      obtain ⟨values, hvalues, -, hvalue⟩ := ih (n / base) (Nat.div_lt_self (by omega) hlow)
      have hlast : IsDigit base (n % base).digitChar (n % base) := hdigit (Nat.mod_lt _ (by omega))
      refine ⟨values ++ [n % base], List.rel_append hvalues (.cons hlast .nil), by simp, ?_⟩
      rw [List.reverse_append, List.reverse_singleton, List.singleton_append, Nat.ofDigits_cons,
        ← hvalue]
      exact (Nat.mod_add_div n base).symm

/-! ### Seeds -/

/-- How a seed is spelled: in decimal or, behind a mark, in hexadecimal, up to the largest seed, or
as a negative number of 64 bits, for its magnitude. -/
inductive SpellsSeed : List Char → Nat → Prop where
  | decimal {cs : List Char} {seed : Nat} (h : SpellsUpTo 10 maxSeed cs seed) : SpellsSeed cs seed
  | hex {mark : Char} {cs : List Char} {seed : Nat} (hmark : mark = 'x' ∨ mark = 'X')
      (h : SpellsUpTo 16 maxSeed cs seed) : SpellsSeed ('0' :: mark :: cs) seed
  | negative {cs : List Char} {seed : Nat} (h : Spells 10 cs seed) (hseed : seed ≤ 2 ^ 63) :
      SpellsSeed ('-' :: cs) seed

/-- No character but those of seeds stands in a seed. -/
theorem SpellsSeed.mem_seedChars (h : SpellsSeed text n) (hc : c ∈ text) : c ∈ seedChars := by
  cases h with
  | decimal h => exact h.mem_seedChars (by decide) hc
  | hex hmark h =>
    rcases List.mem_cons.1 hc with rfl | hc
    · decide
    rcases List.mem_cons.1 hc with rfl | hc
    · rcases hmark with rfl | rfl <;> decide
    · exact h.mem_seedChars (by decide) hc
  | negative h =>
    rcases List.mem_cons.1 hc with rfl | hc
    · decide
    · obtain ⟨value, hdigit⟩ := h.exists_isDigit hc
      exact hdigit.mem_seedChars (by decide)

/-- A seed has no blanks around it that could be trimmed. -/
theorem SpellsSeed.trimChars_eq (h : SpellsSeed text n) : trimChars text = text :=
  trimChars_of_no_blank fun _ hc ↦ (plain_of_mem_seedChars _ (h.mem_seedChars hc)).1

theorem SpellsSeed.ne_nil (h : SpellsSeed text n) : text ≠ [] := by
  rintro rfl
  cases h with
  | decimal h =>
    obtain ⟨-, sign, digits, -, hnil, values, hvalues, hne, -⟩ := h
    obtain ⟨-, rfl⟩ := List.append_eq_nil_iff.1 hnil.symm
    cases hvalues
    exact hne rfl

/-- What stands after the mark of a hexadecimal seed. -/
theorem afterHexMark?_eq_some_iff :
    afterHexMark? text = some digits ↔
      ∃ mark, (mark = 'x' ∨ mark = 'X') ∧ text = '0' :: mark :: digits := by
  constructor
  · intro h
    rw [afterHexMark?.eq_def] at h
    split at h
    next rest => exact ⟨'x', .inl rfl, by rw [Option.some.inj h]⟩
    next rest => exact ⟨'X', .inr rfl, by rw [Option.some.inj h]⟩
    next => cases h
  · rintro ⟨mark, rfl | rfl, rfl⟩ <;> rfl

/-- The magnitude of a negative seed is what its digits spell, down to the least number of 64 bits.
-/
theorem magnitude?_eq_some_iff :
    magnitude? text = some n ↔
      ∃ digits, text = '-' :: digits ∧ Spells 10 digits n ∧ n ≤ 2 ^ 63 := by
  constructor
  · intro h
    rw [magnitude?.eq_def] at h
    split at h
    next digits =>
      rw [Option.filter_eq_some_iff, digits?_eq_some_iff (by decide)] at h
      exact ⟨digits, rfl, h.1, of_decide_eq_true h.2⟩
    next => cases h
  · rintro ⟨digits, rfl, hspells, hn⟩
    rw [magnitude?, Option.filter_eq_some_iff, digits?_eq_some_iff (by decide)]
    exact ⟨hspells, decide_eq_true hn⟩

/-- A seed is spelled, with nothing but blanks around it. -/
def SpellsPadded (text : List Char) (n : Nat) : Prop :=
  ∃ core, Padded core text ∧ SpellsSeed core n

/-- No seed is spelled with the mark of a hexadecimal number by decimal digits. -/
theorem afterHexMark?_eq_none (h : SpellsUpTo 10 bound text n) : afterHexMark? text = none := by
  refine Option.eq_none_iff_forall_ne_some.2 fun digits hread ↦ ?_
  obtain ⟨mark, hmark, rfl⟩ := afterHexMark?_eq_some_iff.1 hread
  obtain ⟨-, sign, digits', hsign, heq, hspells⟩ := h
  have hmem : mark ∈ digits' := by
    rcases hsign with rfl | rfl
    · rw [List.nil_append] at heq
      rw [← heq]
      simp
    · cases heq
  obtain ⟨value, hdigit⟩ := hspells.exists_isDigit hmem
  rcases hmark with rfl | rfl <;> exact not_isDigit (by decide) rfl hdigit

/-- **A seed is read exactly where one is spelled.** -/
theorem seed?_eq_ok_iff : seed? text = .ok n ↔ SpellsPadded text n := by
  constructor
  · intro h
    refine ⟨trimChars text, padded_trimChars text, ?_⟩
    rw [seed?] at h
    split at h
    next digits hread =>
      obtain ⟨mark, hmark, heq⟩ := afterHexMark?_eq_some_iff.1 hread
      split at h
      next seed hseed =>
        obtain rfl := Except.ok.inj h
        rw [heq]
        exact .hex hmark ((natural?_eq_some_iff (by decide)).1 hseed)
      next => cases h
    next =>
      split at h
      next seed hseed =>
        obtain rfl := Except.ok.inj h
        rcases Option.or_eq_some_iff.1 hseed with hnatural | ⟨-, hmagnitude⟩
        · exact .decimal ((natural?_eq_some_iff (by decide)).1 hnatural)
        · obtain ⟨digits, heq, hspells, hn⟩ := magnitude?_eq_some_iff.1 hmagnitude
          rw [heq]
          exact .negative hspells hn
      next => cases h
  · rintro ⟨core, hpadded, hcore⟩
    rw [seed?, trimChars_of_padded hpadded hcore.trimChars_eq]
    cases hcore with
    | decimal h =>
      rw [afterHexMark?_eq_none h, (natural?_eq_some_iff (by decide)).2 h]
      rfl
    | @hex mark digits _ hmark h =>
      rw [afterHexMark?_eq_some_iff.2 ⟨mark, hmark, rfl⟩]
      dsimp only
      rw [(natural?_eq_some_iff (by decide)).2 h]
    | @negative digits _ h hn =>
      have hnatural : natural? 10 maxSeed ('-' :: digits) = none := by
        refine Option.eq_none_iff_forall_ne_some.2 fun seed hseed ↦ ?_
        exact not_spellsUpTo_minus digits ((natural?_eq_some_iff (by decide)).1 hseed)
      rw [hnatural, magnitude?_eq_some_iff.2 ⟨digits, rfl, h, hn⟩]
      rfl

/-- Blanks may be put around a seed that is padded already. -/
theorem SpellsPadded.of_padded {inner : List Char} (h : SpellsPadded inner n)
    (hpadded : Padded inner text) : SpellsPadded text n := by
  obtain ⟨core, hcore, hspells⟩ := h
  obtain ⟨front, back, hfront, hback, rfl⟩ := hpadded
  exact ⟨core, (hcore.append_blanks hback).blanks_append hfront, hspells⟩

theorem dot_not_mem_of_blank (h : ∀ c ∈ text, isBlank c = true) : '.' ∉ text :=
  fun hdot ↦ absurd (h '.' hdot) (by decide)

/-- There is no dot in a padded seed, so that no range is cut within it. -/
theorem SpellsPadded.dot_not_mem (h : SpellsPadded text n) : '.' ∉ text := by
  obtain ⟨core, ⟨front, back, hfront, hback, rfl⟩, hspells⟩ := h
  have hcore : '.' ∉ core := fun hdot ↦
    (plain_of_mem_seedChars '.' (hspells.mem_seedChars hdot)).2 rfl
  simp only [List.mem_append, not_or]
  exact ⟨dot_not_mem_of_blank hfront, hcore, dot_not_mem_of_blank hback⟩

/-! ### Ranges -/

/-- A text is cut in two at its first two dots. -/
structure CutAtDots (text start stop : List Char) : Prop where
  eq : text = start ++ '.' :: '.' :: stop
  first : ¬ ['.', '.'] <:+: start ++ ['.']

variable {start stop : List Char}

/-- A text is cut at two dots that no other dot comes before. -/
theorem CutAtDots.of_not_mem (h : '.' ∉ start) :
    CutAtDots (start ++ '.' :: '.' :: stop) start stop where
  eq := rfl
  first htwo := by
    have hcount := htwo.sublist.count_le '.'
    rw [List.count_append, List.count_eq_zero.2 h] at hcount
    exact absurd hcount (by decide)

/-- The reader cuts a token at its first two dots. -/
theorem cutRange?_eq_some_iff :
    cutRange? text = some (start, stop) ↔ CutAtDots text start stop := by
  constructor
  · intro h
    fun_induction cutRange? text generalizing start with
    | case1 => cases h
    | case2 rest =>
      obtain ⟨rfl, rfl⟩ := Prod.mk.inj (Option.some.inj h)
      exact ⟨rfl, by decide⟩
    | case3 c rest hdots ih =>
      obtain ⟨⟨front, back⟩, hrest, heq⟩ := Option.map_eq_some_iff.1 h
      obtain ⟨rfl, rfl⟩ := Prod.mk.inj heq
      obtain ⟨rfl, hfirst⟩ := ih hrest
      refine ⟨rfl, fun htwo ↦ ?_⟩
      rcases List.infix_cons_iff.1 htwo with hprefix | htwo
      -- Two dots in front would have been found.
      · obtain ⟨rfl, hnext⟩ := List.cons_prefix_cons.1 hprefix
        cases front with
        | nil => exact hdots _ rfl rfl
        | cons d front =>
          obtain ⟨rfl, -⟩ := List.cons_prefix_cons.1 hnext
          exact hdots _ rfl rfl
      · exact hfirst htwo
  · rintro ⟨rfl, hfirst⟩
    induction start with
    | nil => rfl
    | cons c start ih =>
      have hrest := ih fun htwo ↦ hfirst (htwo.trans (List.suffix_cons _ _).isInfix)
      rw [List.cons_append, cutRange?, hrest]
      · rfl
      · rintro rest rfl heq
        cases start with
        | nil => exact hfirst (List.infix_rfl)
        | cons d start =>
          obtain ⟨rfl, -⟩ := List.cons_eq_cons.1 heq
          exact hfirst ⟨[], start ++ ['.'], rfl⟩

/-- A range gives all seeds between its ends, if they are in order and not too many. -/
theorem range_eq_ok_iff {token : String} {first last : Nat} {seeds : List Nat} :
    range token first last = .ok seeds ↔
      first ≤ last ∧ last - first < 10000 ∧ seeds = List.range' first (last - first + 1) := by
  rw [range, List.range'_eq_map_range]
  split
  next hbackwards => exact iff_of_false nofun fun h ↦ Nat.not_le_of_lt hbackwards h.1
  next hforwards =>
    split
    next hwide => exact iff_of_false nofun fun h ↦ Nat.not_le_of_lt h.2.1 hwide
    next hnarrow =>
      have hspan : last - first < 10000 := Nat.lt_of_not_le hnarrow
      rw [Except.ok.injEq, and_iff_right (Nat.le_of_not_lt hforwards), and_iff_right hspan, eq_comm]

/-! ### Tokens -/

/-- What a token gives: nothing if it is blank, else one seed, or those between two seeds that two
dots set apart, with both of them. -/
inductive Gives : List Char → List Nat → Prop where
  | blank {token : List Char} (h : ∀ c ∈ token, isBlank c = true) : Gives token []
  | seed {token : List Char} {seed : Nat} (h : SpellsPadded token seed) : Gives token [seed]
  | range {token start stop : List Char} {first last : Nat} (hcut : CutAtDots token start stop)
      (hfirst : SpellsPadded start first) (hlast : SpellsPadded stop last) (hle : first ≤ last)
      (hspan : last - first < 10000) : Gives token (List.range' first (last - first + 1))

/-- **A token is read exactly as what it gives.** -/
theorem ofToken_eq_ok_iff {token : String} {seeds : List Nat} :
    ofToken token = .ok seeds ↔ Gives token.toList seeds := by
  constructor
  · intro h
    rw [ofToken] at h
    split at h
    next hblank =>
      obtain rfl := Except.ok.inj h
      exact .blank (trimChars_eq_nil_iff.1 hblank)
    next =>
      split at h
      next start stop hcut =>
        obtain ⟨heq, -⟩ := cutRange?_eq_some_iff.1 hcut
        cases hfirst : seed? start with
        | error => rw [hfirst] at h; cases h
        | ok first =>
          cases hlast : seed? stop with
          | error => rw [hfirst, hlast] at h; cases h
          | ok last =>
            rw [hfirst, hlast] at h
            obtain ⟨hle, hspan, rfl⟩ := range_eq_ok_iff.1 h
            obtain ⟨front, back, hfront, hback, htoken⟩ := padded_trimChars token.toList
            have hstart : SpellsPadded (front ++ start) first :=
              (seed?_eq_ok_iff.1 hfirst).of_padded ((Padded.refl start).blanks_append hfront)
            have hstop : SpellsPadded (stop ++ back) last :=
              (seed?_eq_ok_iff.1 hlast).of_padded ((Padded.refl stop).append_blanks hback)
            have hwhole : token.toList = (front ++ start) ++ '.' :: '.' :: (stop ++ back) := by
              rw [htoken, heq]
              simp
            rw [hwhole]
            exact .range (.of_not_mem hstart.dot_not_mem) hstart hstop hle hspan
      next =>
        cases hseed : seed? (trimChars token.toList) with
        | error => rw [hseed] at h; cases h
        | ok seed =>
          rw [hseed] at h
          obtain rfl := Except.ok.inj h
          exact .seed ((seed?_eq_ok_iff.1 hseed).of_padded (padded_trimChars _))
  · intro h
    rw [ofToken]
    generalize token.toList = text at h
    cases h with
    | blank h => rw [trimChars_eq_nil_iff.2 h]; rfl
    | @seed seed h =>
      obtain ⟨core, hpadded, hspells⟩ := h
      have hcore : SpellsPadded core seed := ⟨core, .refl core, hspells⟩
      have hcut : cutRange? core = none := by
        refine Option.eq_none_iff_forall_ne_some.2 fun ⟨start, stop⟩ hcut ↦ hcore.dot_not_mem ?_
        rw [(cutRange?_eq_some_iff.1 hcut).eq]
        simp
      rw [trimChars_of_padded hpadded hspells.trimChars_eq, if_neg hspells.ne_nil, hcut]
      dsimp only
      rw [seed?_eq_ok_iff.2 hcore]
      rfl
    | @range start stop first last hcut hfirst hlast hle hspan =>
      obtain ⟨low, ⟨front, gap, hfront, hgap, rfl⟩, hlow⟩ := hfirst
      obtain ⟨high, ⟨gap', back, hgap', hback, rfl⟩, hhigh⟩ := hlast
      have hstart : SpellsPadded (low ++ gap) first :=
        ⟨low, (Padded.refl low).append_blanks hgap, hlow⟩
      have hstop : SpellsPadded (gap' ++ high) last :=
        ⟨high, (Padded.refl high).blanks_append hgap', hhigh⟩
      have hcut' : CutAtDots ((low ++ gap) ++ '.' :: '.' :: (gap' ++ high)) (low ++ gap)
          (gap' ++ high) := .of_not_mem hstart.dot_not_mem
      -- The two seeds are at the ends of what is left when the token is trimmed.
      have htrim : trimChars text = (low ++ gap) ++ '.' :: '.' :: (gap' ++ high) := by
        refine trimChars_of_padded ⟨front, back, hfront, hback, ?_⟩ ?_
        · rw [hcut.eq]
          simp
        · have hbetween := trimChars_between hlow.ne_nil hlow.trimChars_eq hhigh.ne_nil
            hhigh.trimChars_eq (gap ++ '.' :: '.' :: gap')
          simpa using hbetween
      rw [htrim, if_neg (by simp), cutRange?_eq_some_iff.2 hcut']
      dsimp only
      rw [seed?_eq_ok_iff.2 hstart, seed?_eq_ok_iff.2 hstop]
      exact range_eq_ok_iff.2 ⟨hle, hspan, rfl⟩

/-! ### Lists -/

/-- Of each seed that is given, the place where it comes first is kept. -/
structure FirstSeen (given seeds : List Nat) : Prop where
  mem_iff : ∀ seed, seed ∈ seeds ↔ seed ∈ given
  ordered : seeds.Pairwise fun a b ↦ given.idxOf a < given.idxOf b

variable {given seeds : List Nat}

/-- In a list of what comes first nothing comes twice. -/
theorem FirstSeen.nodup (h : FirstSeen given seeds) : seeds.Nodup :=
  h.ordered.imp fun hlt ↦ ne_of_apply_ne given.idxOf hlt.ne

/-- There is one way to keep the first places. -/
theorem FirstSeen.unique {seeds' : List Nat} (h : FirstSeen given seeds)
    (h' : FirstSeen given seeds') : seeds = seeds' := by
  have hperm : seeds.Perm seeds' := (List.perm_ext_iff_of_nodup h.nodup h'.nodup).2 fun seed ↦
    (h.mem_iff seed).trans (h'.mem_iff seed).symm
  exact hperm.eq_of_pairwise (fun _ _ _ _ hlt hgt ↦ absurd hgt (Nat.lt_asymm hlt)) h.ordered
    h'.ordered

/-- A seed that is given last is kept if it has not been given before. -/
theorem FirstSeen.concat (h : FirstSeen given seeds) (seed : Nat) :
    FirstSeen (given ++ [seed]) (seeds ++ if seed ∈ given then [] else [seed]) := by
  have hidx : ∀ {a}, a ∈ seeds → (given ++ [seed]).idxOf a = given.idxOf a := fun ha ↦
    List.idxOf_append_of_mem ((h.mem_iff _).1 ha)
  have hordered : seeds.Pairwise fun a b ↦
      (given ++ [seed]).idxOf a < (given ++ [seed]).idxOf b :=
    h.ordered.imp_of_mem fun ha hb hlt ↦ by rwa [hidx ha, hidx hb]
  split
  next hold =>
    rw [List.append_nil]
    refine ⟨fun a ↦ ?_, hordered⟩
    rw [h.mem_iff, List.mem_append, List.mem_singleton, or_iff_left_of_imp]
    rintro rfl
    exact hold
  next hnew =>
    refine ⟨fun a ↦ by rw [List.mem_append, List.mem_append, h.mem_iff], ?_⟩
    refine List.pairwise_append.2 ⟨hordered, List.pairwise_singleton _ _, fun a ha b hb ↦ ?_⟩
    obtain rfl := List.mem_singleton.1 hb
    rw [hidx ha, List.idxOf_append_of_notMem hnew]
    exact Nat.lt_add_right _ (List.idxOf_lt_length_of_mem ((h.mem_iff a).1 ha))

/-- Without its repetitions a list is one of what comes first in it. -/
theorem firstSeen_eraseDups (given : List Nat) : FirstSeen given given.eraseDups := by
  induction given using List.reverseRecOn with
  | nil => exact ⟨fun _ ↦ Iff.rfl, .nil⟩
  | append_singleton given seed ih =>
    have hlast : ([seed].removeAll given).eraseDups = if seed ∈ given then [] else [seed] := by
      by_cases hold : seed ∈ given <;> simp [List.removeAll, List.eraseDups_cons, hold]
    rw [List.eraseDups_append, hlast]
    exact ih.concat seed

/-- **A list of what comes first** is the list without its repetitions. -/
theorem firstSeen_iff : FirstSeen given seeds ↔ seeds = given.eraseDups := by
  constructor
  · intro h
    exact h.unique (firstSeen_eraseDups given)
  · rintro rfl
    exact firstSeen_eraseDups given

/-- Tokens are read exactly if each of them gives something. -/
theorem mapM_ofToken_eq_ok_iff {tokens : List String} {expansions : List (List Nat)} :
    tokens.mapM ofToken = .ok expansions ↔
      List.Forall₂ (fun token seeds ↦ Gives token.toList seeds) tokens expansions := by
  induction tokens generalizing expansions with
  | nil =>
    rw [List.mapM_nil, List.forall₂_nil_left_iff]
    exact ⟨fun h ↦ (Except.ok.inj h).symm, fun h ↦ h ▸ rfl⟩
  | cons token tokens ih =>
    rw [List.mapM_cons, List.forall₂_cons_left_iff]
    constructor
    · intro h
      cases hseeds : ofToken token with
      | error => rw [hseeds] at h; cases h
      | ok seeds =>
        cases hrest : tokens.mapM ofToken with
        | error => rw [hseeds, hrest] at h; cases h
        | ok rest =>
          rw [hseeds, hrest] at h
          exact ⟨seeds, rest, ofToken_eq_ok_iff.1 hseeds, ih.1 hrest, (Except.ok.inj h).symm⟩
    · rintro ⟨seeds, rest, hseeds, hrest, rfl⟩
      rw [ofToken_eq_ok_iff.2 hseeds, ih.2 hrest]
      rfl

/-- A list of seeds is that of the expansions of its tokens, without repetitions, and is not empty.
-/
theorem ofTokens_eq_ok_iff {tokens : List String} :
    ofTokens tokens = .ok seeds ↔
      ∃ expansions, tokens.mapM ofToken = .ok expansions ∧
        seeds = expansions.flatten.eraseDups ∧ seeds ≠ [] := by
  rw [ofTokens]
  cases tokens.mapM ofToken with
  | error => exact iff_of_false nofun fun ⟨_, h, _⟩ ↦ nomatch h
  | ok expansions =>
    dsimp only [bind, Except.bind]
    constructor
    · intro h
      split at h
      next => cases h
      next hne =>
        obtain rfl := Except.ok.inj h
        exact ⟨expansions, rfl, rfl, hne⟩
    · rintro ⟨_, heq, rfl, hne⟩
      obtain rfl := Except.ok.inj heq
      rw [if_neg hne]
      rfl

/-- A token gives one thing only. -/
theorem Gives.unique {token : String} {seeds seeds' : List Nat} (h : Gives token.toList seeds)
    (h' : Gives token.toList seeds') : seeds = seeds' :=
  Except.ok.inj ((ofToken_eq_ok_iff.2 h).symm.trans (ofToken_eq_ok_iff.2 h'))

/-- All tokens can be expanded exactly if each of them can. -/
theorem exists_expansions_iff {tokens : List String} :
    (∃ expansions, List.Forall₂ (fun token seeds ↦ Gives token.toList seeds) tokens expansions) ↔
      ∀ token ∈ tokens, ∃ seeds, Gives token.toList seeds := by
  induction tokens with
  | nil => exact iff_of_true ⟨[], .nil⟩ nofun
  | cons token tokens ih =>
    rw [List.forall_mem_cons, ← ih]
    constructor
    · rintro ⟨_, _ | ⟨hseeds, hrest⟩⟩
      exact ⟨⟨_, hseeds⟩, _, hrest⟩
    · rintro ⟨⟨seeds, hseeds⟩, rest, hrest⟩
      exact ⟨seeds :: rest, .cons hseeds hrest⟩

/-- The seeds that tokens give are those that one of them gives. -/
theorem mem_flatten_iff {tokens : List String} {expansions : List (List Nat)}
    (h : List.Forall₂ (fun token seeds ↦ Gives token.toList seeds) tokens expansions) {seed : Nat} :
    seed ∈ expansions.flatten ↔
      ∃ token ∈ tokens, ∃ seeds, seed ∈ seeds ∧ Gives token.toList seeds := by
  induction h with
  | nil => simp
  | @cons token seeds tokens expansions hseeds _ ih =>
    rw [List.flatten_cons, List.mem_append, ih, List.exists_mem_cons_iff]
    refine or_congr_left ⟨fun hseed ↦ ⟨seeds, hseed, hseeds⟩, ?_⟩
    rintro ⟨seeds', hseed, hseeds'⟩
    rwa [hseeds.unique hseeds']

/-- **A list of seeds is read faithfully.** It is read exactly if each token gives something and
some token gives a seed, and what is read are the seeds that the tokens give, each where it comes
first. All whole numbers of 64 bits can be spelled, in decimal and in hexadecimal. -/
theorem seed_lists_are_expanded_faithfully :
    (∀ tokens, (∃ seeds, ofTokens tokens = .ok seeds) ↔
      (∀ token ∈ tokens, ∃ seeds, Gives token.toList seeds) ∧
        ∃ token ∈ tokens, ∃ seeds, seeds ≠ [] ∧ Gives token.toList seeds) ∧
    (∀ tokens seeds, ofTokens tokens = .ok seeds ↔
      ∃ expansions, List.Forall₂ (fun token seeds ↦ Gives token.toList seeds) tokens expansions ∧
        FirstSeen expansions.flatten seeds ∧ seeds ≠ []) ∧
    ∀ n : UInt64, seed? (Nat.toDigits 10 n.toNat) = .ok n.toNat ∧
      seed? ('0' :: 'x' :: Nat.toDigits 16 n.toNat) = .ok n.toNat := by
  have hread : ∀ tokens seeds, ofTokens tokens = .ok seeds ↔
      ∃ expansions, List.Forall₂ (fun token seeds ↦ Gives token.toList seeds) tokens expansions ∧
        FirstSeen expansions.flatten seeds ∧ seeds ≠ [] := fun tokens seeds ↦ by
    simp only [ofTokens_eq_ok_iff, mapM_ofToken_eq_ok_iff, firstSeen_iff]
  refine ⟨fun tokens ↦ ⟨?_, ?_⟩, hread, fun n ↦ ⟨?_, ?_⟩⟩
  · rintro ⟨seeds, hseeds⟩
    obtain ⟨expansions, hgives, hfirst, hne⟩ := (hread tokens seeds).1 hseeds
    obtain ⟨seed, hseed⟩ := List.exists_mem_of_ne_nil seeds hne
    obtain ⟨token, htoken, given, hgiven, htoken'⟩ :=
      (mem_flatten_iff hgives).1 ((hfirst.mem_iff seed).1 hseed)
    exact ⟨exists_expansions_iff.1 ⟨expansions, hgives⟩, token, htoken, given,
      List.ne_nil_of_mem hgiven, htoken'⟩
  · rintro ⟨hall, token, htoken, given, hne, htoken'⟩
    obtain ⟨expansions, hgives⟩ := exists_expansions_iff.2 hall
    obtain ⟨seed, hgiven⟩ := List.exists_mem_of_ne_nil given hne
    have hseed : seed ∈ expansions.flatten :=
      (mem_flatten_iff hgives).2 ⟨token, htoken, given, hgiven, htoken'⟩
    have hfirst := firstSeen_eraseDups expansions.flatten
    exact ⟨_, (hread tokens _).2 ⟨expansions, hgives, hfirst,
      List.ne_nil_of_mem ((hfirst.mem_iff seed).2 hseed)⟩⟩
  · have hspells : Spells 10 (Nat.toDigits 10 n.toNat) n.toNat :=
      spells_toDigits (by decide) (by decide) n.toNat
    exact seed?_eq_ok_iff.2 ⟨_, .refl _, .decimal (.of_spells (le_maxSeed n) hspells)⟩
  · have hspells : Spells 16 (Nat.toDigits 16 n.toNat) n.toNat :=
      spells_toDigits (by decide) (by decide) n.toNat
    exact seed?_eq_ok_iff.2 ⟨_, .refl _, .hex (.inl rfl) (.of_spells (le_maxSeed n) hspells)⟩

example : ofTokens ["5", " 1 ..3", "", "0x2", "-7"] = .ok [5, 1, 2, 3, 7] := by decide +kernel

end Trial.Seeds

end LifeStory
