import LifeStory.Proofs.PlainText
import Mathlib.Algebra.Group.Nat.Even
import Mathlib.Data.List.DropRight

/-!
# What it means to hold escapes

Escapes are held by one scan of a text and resolved by another. Both pair backslashes from the left,
and the scan that holds leaves alone what only the other one knows, so that it does not matter for
what is resolved whether escapes were held before (`resolve_hold`).

In between the braces that are left open and close groups. Which ones are left is decided by the
backslashes right before a brace: they pair up, and one that remains takes the meaning from the
brace. A text can therefore be held in two parts wherever an even number of backslashes stands
before the cut (`hold_append`); all that is said of a single brace comes from cutting before it.
-/

namespace LifeStory.Template

/-! ### Escapes that are held and escapes that are not -/

variable {c d mark brace : Char} {rest before after : List Char}

/-- What can be held is resolved to itself when it is not held. -/
theorem escaped?_of_held? (h : held? d = some mark) : escaped? d = some d := by
  rcases isSome_held?_iff.1 (Option.isSome_of_mem h) with rfl | rfl | rfl <;> rfl

theorem heldFor_of_held? (h : held? d = some mark) : heldFor d = mark := by
  rw [heldFor, h, Option.getD_some]

/-- What is held is released as it was. -/
theorem released_of_held? (h : held? d = some mark) : released mark = d := by
  rw [← heldFor_of_held? h, released_heldFor_iff]
  rcases isSome_held?_iff.1 (Option.isSome_of_mem h) with rfl | rfl | rfl <;> decide

/-- What is not held is nothing special. -/
theorem not_special_of_held?_eq_none (h : held? d = none) : ¬ IsSpecial d := fun hspecial ↦ by
  rw [← isSome_held?_iff, h] at hspecial
  cases hspecial

theorem ne_backslash_of_held?_eq_none (h : held? d = none) : d ≠ '\\' :=
  fun heq ↦ not_special_of_held?_eq_none h (.inl heq)

theorem not_special_of_held? (h : held? d = some mark) : ¬ IsSpecial mark :=
  heldFor_of_held? h ▸ not_special_heldFor d

/-- An escape of something special is held by its mark. -/
theorem hold_pair (h : held? d = some mark) : hold ('\\' :: d :: rest) = mark :: hold rest := by
  rw [hold, if_pos rfl, h]

/-- A backslash is left before a character that cannot be held, and so is the character. -/
theorem hold_lone (h : held? d = none) : hold ('\\' :: d :: rest) = '\\' :: d :: hold rest := by
  rw [hold, if_pos rfl, h, hold_cons_of_ne (ne_backslash_of_held?_eq_none h)]

/-- An escape is resolved to what it stands for. -/
theorem resolve_pair (h : escaped? d = some c) :
    resolve ('\\' :: d :: rest) = c :: resolve rest := by
  rw [resolve, if_pos rfl, h]

/-- A backslash before anything else stays. -/
theorem resolve_lone (h : escaped? d = none) :
    resolve ('\\' :: d :: rest) = '\\' :: resolve (d :: rest) := by
  rw [resolve, if_pos rfl, h]

/-- **A text is resolved to the same, whether its escapes are held before or not.** -/
theorem resolve_hold (text : List Char) : resolve (hold text) = resolve text := by
  fun_induction hold text with
  | case1 => rfl
  | case2 c => rfl
  | case3 d rest mark hheld ih =>
    have hne : mark ≠ '\\' := fun h ↦ not_special_of_held? hheld (.inl h)
    rw [resolve_cons_of_ne hne, released_of_held? hheld, ih,
      resolve_pair (escaped?_of_held? hheld)]
  | case4 d rest hheld ih =>
    have hne := ne_backslash_of_held?_eq_none hheld
    rw [hold_cons_of_ne hne] at ih ⊢
    cases hescaped : escaped? d with
    | some e =>
      -- The escape of a line break or a tab, which takes the character with it.
      rw [resolve_cons_of_ne hne, resolve_cons_of_ne hne, List.cons_inj_right] at ih
      rw [resolve_pair hescaped, resolve_pair hescaped, ih]
    | none => rw [resolve_lone hescaped, resolve_lone hescaped, ih]
  | case5 c d rest hne ih => rw [resolve_cons_of_ne hne, ih, resolve_cons_of_ne hne]

/-! ### Backslashes at the end -/

/-- How many backslashes a text ends in. -/
def endSlashes (text : List Char) : Nat := (text.rtakeWhile (· = '\\')).length

theorem endSlashes_le_length (text : List Char) : endSlashes text ≤ text.length :=
  List.rtakeWhile_suffix _ _ |>.length_le

theorem endSlashes_cons (c : Char) (cs : List Char) :
    endSlashes (c :: cs) =
      if endSlashes cs = cs.length ∧ c = '\\' then cs.length + 1 else endSlashes cs := by
  simp only [endSlashes, List.rtakeWhile, List.length_reverse, List.reverse_cons,
    List.takeWhile_append, List.takeWhile_cons, List.takeWhile_nil, decide_eq_true_iff]
  grind

theorem endSlashes_cons_of_ne (h : c ≠ '\\') (cs : List Char) :
    endSlashes (c :: cs) = endSlashes cs := by
  rw [endSlashes_cons, if_neg fun hc ↦ h hc.2]

/-- A backslash and what it is paired with at the front of a text do not change whether the number
is even. -/
theorem even_endSlashes_pair (d : Char) (cs : List Char) :
    Even (endSlashes ('\\' :: d :: cs)) ↔ Even (endSlashes cs) := by
  have hle := endSlashes_le_length cs
  have hfirst := endSlashes_cons '\\' (d :: cs)
  have hsecond := endSlashes_cons d cs
  simp only [List.length_cons, and_true] at hfirst
  split at hsecond <;> split at hfirst <;> rw [hfirst, Nat.even_iff, Nat.even_iff] <;> omega

/-- An odd number of backslashes is an even one and one more. -/
theorem exists_of_odd_endSlashes {text : List Char} (h : ¬ Even (endSlashes text)) :
    ∃ front, text = front ++ ['\\'] ∧ Even (endSlashes front) := by
  rcases List.eq_nil_or_concat text with rfl | ⟨front, c, rfl⟩
  · exact absurd (by decide) h
  · rw [List.concat_eq_append, endSlashes, List.rtakeWhile_concat] at h
    split at h
    next hc =>
      rw [List.length_append, List.length_singleton, Nat.even_add_one, not_not] at h
      exact ⟨front, by rw [List.concat_eq_append, of_decide_eq_true hc], h⟩
    next => exact absurd (by decide) h

/-! ### Cutting a text -/

/-- **A text is held in two parts where an even number of backslashes stands before the cut.** -/
theorem hold_append (h : Even (endSlashes before)) (after : List Char) :
    hold (before ++ after) = hold before ++ hold after := by
  fun_induction hold before with
  | case1 => rfl
  | case2 c =>
    have hne : c ≠ '\\' := by
      rintro rfl
      exact absurd h (by decide)
    exact hold_cons_of_ne hne after
  | case3 d rest mark hheld ih =>
    rw [even_endSlashes_pair] at h
    rw [List.cons_append, List.cons_append, hold_pair hheld, ih h, List.cons_append]
  | case4 d rest hheld ih =>
    have hne := ne_backslash_of_held?_eq_none hheld
    rw [even_endSlashes_pair, ← endSlashes_cons_of_ne hne] at h
    have hrest := ih h
    rw [hold_cons_of_ne hne, List.cons_append, hold_cons_of_ne hne] at hrest
    rw [List.cons_append, List.cons_append, hold_lone hheld, hrest, hold_cons_of_ne hne]
    rfl
  | case5 c d rest hne ih =>
    rw [endSlashes_cons_of_ne hne] at h
    rw [List.cons_append, hold_cons_of_ne hne, ih h, List.cons_append]

/-- Whether a character opens or closes a group. -/
def IsBrace (c : Char) : Prop := c = '\x7b' ∨ c = '\x7d'

theorem IsBrace.ne_backslash (h : IsBrace brace) : brace ≠ '\\' := by
  rcases h with rfl | rfl <;> decide

theorem IsBrace.held (h : IsBrace brace) : held? brace = some (heldFor brace) := by
  rcases h with rfl | rfl <;> rfl

/-- A brace after an even number of backslashes is left in place. -/
theorem hold_brace_of_even (hbrace : IsBrace brace) (h : Even (endSlashes before))
    (after : List Char) : hold (before ++ brace :: after) = hold before ++ brace :: hold after := by
  rw [hold_append h, hold_cons_of_ne hbrace.ne_backslash]

/-- A brace after an odd number of backslashes is held, together with the last of them. -/
theorem hold_brace_of_odd (hbrace : IsBrace brace) (h : ¬ Even (endSlashes before))
    (after : List Char) :
    hold (before ++ brace :: after) = hold before.dropLast ++ heldFor brace :: hold after := by
  obtain ⟨front, rfl, hfront⟩ := exists_of_odd_endSlashes h
  rw [List.dropLast_concat, List.append_assoc, List.singleton_append, hold_append hfront,
    hold_pair hbrace.held]

/-- Each brace that is left stood after an even number of backslashes. -/
theorem exists_of_brace_mem_hold (hbrace : IsBrace brace) {text shown later : List Char}
    (h : hold text = shown ++ brace :: later) :
    ∃ before after, text = before ++ brace :: after ∧ Even (endSlashes before) ∧
      hold before = shown ∧ hold after = later := by
  fun_induction hold text generalizing shown with
  | case1 => exact absurd h (by simp)
  | case2 c =>
    obtain ⟨rfl, rfl, rfl⟩ : shown = [] ∧ c = brace ∧ later = [] := by
      cases shown <;> simp_all
    exact ⟨[], [], rfl, by decide, rfl, rfl⟩
  | case3 d rest mark hheld ih =>
    cases shown with
    | nil =>
      obtain ⟨rfl, -⟩ := List.cons_eq_cons.1 h
      exact absurd (.inr hbrace) (not_special_of_held? hheld)
    | cons first shown =>
      obtain ⟨rfl, hrest⟩ := List.cons_eq_cons.1 h
      obtain ⟨before, after, rfl, heven, rfl, rfl⟩ := ih hrest
      exact ⟨'\\' :: d :: before, after, rfl, (even_endSlashes_pair d before).2 heven,
        hold_pair hheld, rfl⟩
  | case4 d rest hheld ih =>
    cases shown with
    | nil =>
      obtain ⟨rfl, -⟩ := List.cons_eq_cons.1 h
      exact absurd rfl hbrace.ne_backslash
    | cons first shown =>
      obtain ⟨rfl, hrest⟩ := List.cons_eq_cons.1 h
      obtain ⟨before, after, htext, heven, rfl, rfl⟩ := ih hrest
      -- The character after the backslash is no brace, so that the brace comes later.
      cases before with
      | nil =>
        obtain ⟨rfl, -⟩ := List.cons_eq_cons.1 htext
        exact absurd (.inr hbrace) (not_special_of_held?_eq_none hheld)
      | cons first before =>
        obtain ⟨rfl, rfl⟩ := List.cons_eq_cons.1 htext
        have hne := ne_backslash_of_held?_eq_none hheld
        rw [endSlashes_cons_of_ne hne] at heven
        exact ⟨'\\' :: d :: before, after, rfl, (even_endSlashes_pair d before).2 heven,
          by rw [hold_lone hheld, hold_cons_of_ne hne], rfl⟩
  | case5 c d rest hne ih =>
    cases shown with
    | nil =>
      obtain ⟨rfl, rfl⟩ := List.cons_eq_cons.1 h
      exact ⟨[], d :: rest, rfl, by decide, rfl, rfl⟩
    | cons first shown =>
      obtain ⟨rfl, hrest⟩ := List.cons_eq_cons.1 h
      obtain ⟨before, after, htext, heven, rfl, rfl⟩ := ih hrest
      rw [htext]
      exact ⟨c :: before, after, rfl, by rwa [endSlashes_cons_of_ne hne], hold_cons_of_ne hne _,
        rfl⟩

/-- A brace stays where it is exactly if an even number of backslashes stands before it. -/
theorem hold_brace_iff (hbrace : IsBrace brace) :
    hold (before ++ brace :: after) = hold before ++ brace :: hold after ↔
      Even (endSlashes before) := by
  refine ⟨fun hstays ↦ not_not.1 fun hodd ↦ ?_, fun heven ↦ hold_brace_of_even hbrace heven after⟩
  rw [hold_brace_of_odd hbrace hodd] at hstays
  obtain ⟨front, rfl, hfront⟩ := exists_of_odd_endSlashes hodd
  rw [List.dropLast_concat, hold_append hfront, List.append_assoc] at hstays
  -- What is held for the brace would have to be the backslash that was held with it.
  obtain ⟨hslash, -⟩ := List.cons_eq_cons.1 (List.append_cancel_left hstays)
  exact not_special_heldFor brace (.inl hslash)

/-! ### Meaning -/

/-- **To hold escapes does not change their meaning.** Every text, also one with characters that
stand for others, is resolved to the same whether its escapes are held before or not. A brace of a
text is left as it is exactly if the run of backslashes that ends right before it has even length;
otherwise it is held together with the last backslash. So the braces that are left are just those
behind runs of even length, each between what is held of the text on its two sides. -/
theorem holding_keeps_the_meaning :
    (∀ text, resolve (hold text) = resolve text) ∧
    (∀ brace, IsBrace brace → ∀ before after,
      (hold (before ++ brace :: after) = hold before ++ brace :: hold after ↔
        Even (endSlashes before)) ∧
      (¬ Even (endSlashes before) →
        hold (before ++ brace :: after) = hold before.dropLast ++ heldFor brace :: hold after)) ∧
    ∀ brace, IsBrace brace → ∀ text shown later,
      hold text = shown ++ brace :: later ↔
        ∃ before after, text = before ++ brace :: after ∧ Even (endSlashes before) ∧
          hold before = shown ∧ hold after = later := by
  refine ⟨resolve_hold, fun brace hbrace before after ↦
    ⟨hold_brace_iff hbrace, fun hodd ↦ hold_brace_of_odd hbrace hodd after⟩,
    fun brace hbrace text shown later ↦ ⟨exists_of_brace_mem_hold hbrace, ?_⟩⟩
  rintro ⟨before, after, rfl, heven, rfl, rfl⟩
  exact hold_brace_of_even hbrace heven after

/-- Behind two backslashes a brace opens a group, and behind three it does not. -/
theorem two_backslashes_leave_a_brace :
    let opened := "\\\\\x7bcalm".toList
    let literal := "\\\\\\\x7bcalm".toList
    hold opened = heldBackslash :: '\x7b' :: "calm".toList ∧
      hold literal = heldBackslash :: heldOpen :: "calm".toList ∧
      resolve (hold literal) = "\\\x7bcalm".toList := by
  intro opened literal
  obtain ⟨hmeaning, hbraces, -⟩ := holding_keeps_the_meaning
  have hbrace : IsBrace '\x7b' := .inl rfl
  obtain ⟨hopened, -⟩ := hbraces '\x7b' hbrace "\\\\".toList "calm".toList
  obtain ⟨-, hliteral⟩ := hbraces '\x7b' hbrace "\\\\\\".toList "calm".toList
  exact ⟨hopened.2 (by decide), hliteral (by decide), (hmeaning literal).trans (by decide)⟩

end LifeStory.Template
