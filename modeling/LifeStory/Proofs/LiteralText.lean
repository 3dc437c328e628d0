import LifeStory.Random.Stepper
import LifeStory.Scalar.Float
import LifeStory.Template.Render

/-!
# Literal text

Every text can be written as a template that shows it as it is: a backslash goes before each
backslash and each brace (`Template.escape`). To hold the escapes of such a template gives the text
with its backslashes and braces replaced by the characters that stand for them
(`Template.hold_escapeChars`). No brace is left in it, so that it has no groups and all stages but
the last leave it alone, and no backslash, so that the last one does nothing but put the characters
back.

Only the characters that stand for others cannot be told from what they stand for. A text that has
one of them is shown as it is only when there is nothing to escape in it, for then nothing is
resolved at all.
-/

namespace LifeStory.Template

/-! ### Texts without braces or backslashes -/

/-- A text without closing braces has no closed pieces. -/
theorem pieces_of_not_mem {text : List Char} (h : '\x7d' ∉ text) : pieces text = ([], text) := by
  induction text with
  | nil => rfl
  | cons c cs ih =>
    rw [pieces, ih (List.not_mem_of_not_mem_cons h)]
    exact if_neg (List.ne_of_not_mem_cons h).symm

/-- A text without closing braces has no groups. -/
theorem resolveGroups_of_not_mem {α σ : Type} {kind? : List Char → Option α}
    {replace : α → σ → Option (List Char) × σ} {text : List Char} (h : '\x7d' ∉ text)
    (source : σ) : resolveGroups kind? replace text source = (text, source) := by
  rw [resolveGroups, pieces_of_not_mem h]
  rfl

theorem resolve_cons_of_ne {c : Char} (h : c ≠ '\\') (cs : List Char) :
    resolve (c :: cs) = released c :: resolve cs := by
  cases cs with
  | nil => rfl
  | cons d rest => rw [resolve, if_neg h]

/-- In a text without backslashes only the characters that stand for others are resolved. -/
theorem resolve_of_not_mem {text : List Char} (h : '\\' ∉ text) :
    resolve text = text.map released := by
  induction text with
  | nil => rfl
  | cons c cs ih =>
    rw [resolve_cons_of_ne (List.ne_of_not_mem_cons h).symm,
      ih (List.not_mem_of_not_mem_cons h), List.map_cons]

theorem hold_cons_of_ne {c : Char} (h : c ≠ '\\') (cs : List Char) :
    hold (c :: cs) = c :: hold cs := by
  cases cs with
  | nil => rfl
  | cons d rest => rw [hold, if_neg h]

variable {R G : Type} [Scalar R] [RandomSource G]

/-- A text without braces and backslashes goes through the stages up to the last one. -/
theorem renderStages_of_hold {text : List Char} (hclose : '\x7d' ∉ hold text)
    (hslash : '\\' ∉ hold text) (life : Life R) (source : Counted G) :
    renderStages life text source = ((hold text).map released, source) := by
  rw [renderStages, resolveConditionals, resolveGroups_of_not_mem hclose, resolveRandom]
  dsimp only
  rw [resolveGroups_of_not_mem hclose, resolveVariables]
  dsimp only
  rw [resolveGroups_of_not_mem hclose, resolve_of_not_mem hslash]

/-! ### Escaping -/

/-- Whether a character means something in a template, unless it is escaped. -/
def IsSpecial (c : Char) : Prop := c = '\\' ∨ c = '\x7b' ∨ c = '\x7d'

instance (c : Char) : Decidable (IsSpecial c) := inferInstanceAs (Decidable (_ ∨ _ ∨ _))

/-- Puts a backslash before each backslash and each brace. -/
def escapeChars (text : List Char) : List Char :=
  text.flatMap fun c ↦ if IsSpecial c then ['\\', c] else [c]

/-- The template that shows a text as it is. -/
def escape (text : String) : String := String.ofList (escapeChars text.toList)

/-- The characters that stand for others. -/
def heldMarks : List Char := [heldBackslash, heldOpen, heldClose]

/-- The character as it is held when it is escaped. -/
def heldFor (c : Char) : Char := (held? c).getD c

theorem isSome_held?_iff {c : Char} : (held? c).isSome = true ↔ IsSpecial c := by
  simp only [held?, IsSpecial]
  grind

theorem heldFor_of_not_special {c : Char} (h : ¬ IsSpecial c) : heldFor c = c := by
  rw [heldFor, Option.not_isSome_iff_eq_none.1 (mt isSome_held?_iff.1 h)]
  rfl

/-- Escaped characters are held, and all others are not touched. -/
theorem hold_escapeChars (text : List Char) : hold (escapeChars text) = text.map heldFor := by
  induction text with
  | nil => rfl
  | cons c cs ih =>
    rw [escapeChars, List.flatMap_cons, ← escapeChars, List.map_cons, ← ih]
    split
    next hspecial =>
      obtain ⟨mark, hmark⟩ := Option.isSome_iff_exists.1 (isSome_held?_iff.2 hspecial)
      show hold ('\\' :: c :: escapeChars cs) = heldFor c :: hold (escapeChars cs)
      rw [hold, if_pos rfl, heldFor, hmark]
      rfl
    next hplain =>
      rw [List.singleton_append, hold_cons_of_ne fun h ↦ hplain (.inl h),
        heldFor_of_not_special hplain]

/-- Nothing special is left where characters are held. -/
theorem not_special_heldFor (c : Char) : ¬ IsSpecial (heldFor c) := by
  by_cases h : IsSpecial c
  · rcases h with rfl | rfl | rfl <;> decide
  · rwa [heldFor_of_not_special h]

/-- What is held is released again as it was, unless it is a character that stands for another. -/
theorem released_heldFor_iff {c : Char} : released (heldFor c) = c ↔ c ∉ heldMarks := by
  by_cases h : IsSpecial c
  · rcases h with rfl | rfl | rfl <;> decide
  · rw [heldFor_of_not_special h, released, heldMarks]
    simp only [IsSpecial, not_or] at h
    simp only [List.mem_cons, List.not_mem_nil, or_false]
    grind

/-- A template of escaped text is resolved if there was something to escape. -/
theorem needsRendering_escapeChars {text : List Char} :
    needsRendering (escapeChars text) = true ↔ ∃ c ∈ text, IsSpecial c := by
  simp only [needsRendering, List.any_eq_true, escapeChars, List.mem_flatMap]
  constructor
  · rintro ⟨d, ⟨c, hc, hd⟩, hneeds⟩
    refine ⟨c, hc, ?_⟩
    split at hd
    next hspecial => exact hspecial
    next =>
      obtain rfl := List.mem_singleton.1 hd
      rcases Bool.or_eq_true_iff.1 hneeds with hopen | hslash
      · exact .inr (.inl (of_decide_eq_true hopen))
      · exact .inl (of_decide_eq_true hslash)
  · rintro ⟨c, hc, hspecial⟩
    refine ⟨'\\', ⟨c, hc, ?_⟩, rfl⟩
    rw [if_pos hspecial]
    exact List.mem_cons_self

/-- Nothing is put into a text with nothing to escape. -/
theorem escapeChars_of_plain {text : List Char} (h : ∀ c ∈ text, ¬ IsSpecial c) :
    escapeChars text = text := by
  induction text with
  | nil => rfl
  | cons c cs ih =>
    obtain ⟨hc, hcs⟩ := List.forall_mem_cons.1 h
    rw [escapeChars, List.flatMap_cons, ← escapeChars, ih hcs, if_neg hc, List.singleton_append]

/-- All stages together release what they hold of an escaped text. -/
theorem renderStages_escapeChars (life : Life R) (text : List Char) (source : Counted G) :
    renderStages life (escapeChars text) source =
      (text.map fun c ↦ released (heldFor c), source) := by
  have hmem : ∀ c, IsSpecial c → c ∉ hold (escapeChars text) := by
    intro c hspecial hc
    rw [hold_escapeChars] at hc
    obtain ⟨d, -, rfl⟩ := List.mem_map.1 hc
    exact not_special_heldFor d hspecial
  rw [renderStages_of_hold (hmem _ (.inr (.inr rfl))) (hmem _ (.inl rfl)), hold_escapeChars,
    List.map_map]
  rfl

/-- All that is held is released as it was exactly if no character stands for another. -/
theorem map_released_heldFor_iff {text : List Char} :
    text.map (fun c ↦ released (heldFor c)) = text ↔ ∀ mark ∈ heldMarks, mark ∉ text := by
  have hmap : text.map (fun c ↦ released (heldFor c)) = text ↔
      ∀ c ∈ text, released (heldFor c) = c := by
    have hpoint := List.map_inj_left (l := text) (f := fun c ↦ released (heldFor c)) (g := id)
    rwa [List.map_id] at hpoint
  rw [hmap]
  simp only [released_heldFor_iff]
  exact ⟨fun h mark hmark hmem ↦ h mark hmem hmark, fun h c hc hmark ↦ h c hmark hc⟩

/-! ### Rendering -/

theorem render_escape_of_special (life : Life R) {text : String}
    (h : ∃ c ∈ text.toList, IsSpecial c) (source : Counted G) :
    render life (escape text) source =
      (String.ofList (text.toList.map fun c ↦ released (heldFor c)), source) := by
  have hneeds := needsRendering_escapeChars.2 h
  rw [← String.toList_ofList (l := escapeChars text.toList), ← escape] at hneeds
  rw [render, if_pos hneeds, escape, String.toList_ofList, renderStages_escapeChars]

theorem render_escape_of_plain (life : Life R) {text : String}
    (h : ∀ c ∈ text.toList, ¬ IsSpecial c) (source : Counted G) :
    render life (escape text) source = (text, source) := by
  have hescape : escape text = text := by
    rw [escape, escapeChars_of_plain h, String.ofList_toList]
  have hneeds : ¬ needsRendering text.toList = true := by
    rw [← escapeChars_of_plain h, needsRendering_escapeChars]
    exact fun ⟨c, hc, hspecial⟩ ↦ h c hc hspecial
  rw [hescape, render, if_neg hneeds]

/-- **An escaped text is shown as it is.** The template that a text is escaped to draws nothing. It
shows the text, in whatever life, if no character of the text stands for another; if one does, then
exactly if there is nothing to escape in the text. -/
theorem escaped_text_is_literal (life : Life R) (text : String) (source : Counted G) :
    (render life (escape text) source).2 = source ∧
      ((render life (escape text) source).1 = text ↔
        (∀ mark ∈ heldMarks, mark ∉ text.toList) ∨ ∀ c ∈ text.toList, ¬ IsSpecial c) := by
  by_cases hspecial : ∃ c ∈ text.toList, IsSpecial c
  · have hnot : ¬ ∀ c ∈ text.toList, ¬ IsSpecial c := by
      obtain ⟨c, hc, hchar⟩ := hspecial
      exact fun h ↦ h c hc hchar
    rw [render_escape_of_special life hspecial, or_iff_left hnot, ← map_released_heldFor_iff,
      ← String.toList_inj, String.toList_ofList]
    exact ⟨rfl, Iff.rfl⟩
  · have hplain : ∀ c ∈ text.toList, ¬ IsSpecial c := fun c hc h ↦ hspecial ⟨c, hc, h⟩
    rw [render_escape_of_plain life hplain]
    exact ⟨rfl, iff_of_true rfl (.inr hplain)⟩

/-- What would be a line break and a draw is shown as it is. -/
theorem backslash_and_braces_are_shown :
    let source : Counted Stepper := .fresh ⟨0, 1⟩
    render (Life.fresh 50 : Life Float) (escape "\\n\x7bcalm|uneasy\x7d") source =
      ("\\n\x7bcalm|uneasy\x7d", source) := by
  intro source
  obtain ⟨hdraws, hshown⟩ := escaped_text_is_literal (Life.fresh 50 : Life Float)
    "\\n\x7bcalm|uneasy\x7d" source
  have hmarks : ∀ mark ∈ heldMarks, mark ∉ "\\n\x7bcalm|uneasy\x7d".toList := by
    simp [heldMarks, heldBackslash, heldOpen, heldClose]
  exact Prod.ext (hshown.2 (.inl hmarks)) hdraws

end LifeStory.Template
