import LifeStory.Proofs.Groups
import Mathlib.Data.Bool.AllAny

/-!
# Texts with nothing to resolve

A template without an opening brace and without a backslash is taken as it is, and its stages are
passed over. If they are gone through all the same, most of them leave it alone: there is no
backslash to hold, and without an opening brace there is no pair of braces (`unpaired_of_not_mem`).
Only the last stage may do something. It takes a character that stands for another for an escaped
one, also where an author has written it (`renderStages_of_plain`), so that the two ways differ on
just the templates with such a character.
-/

namespace LifeStory.Template

/-- Without backslashes there is nothing to hold. -/
theorem hold_of_not_mem {text : List Char} (h : '\\' ∉ text) : hold text = text := by
  induction text with
  | nil => rfl
  | cons c cs ih =>
    rw [hold_cons_of_ne (List.ne_of_not_mem_cons h).symm, ih (List.not_mem_of_not_mem_cons h)]

/-- A character stands for itself, unless it stands for another. -/
theorem released_eq_self_iff {c : Char} : released c = c ↔ c ∉ heldMarks := by
  constructor
  · intro hself hmark
    simp only [heldMarks, List.mem_cons, List.not_mem_nil, or_false] at hmark
    rcases hmark with rfl | rfl | rfl <;> exact absurd hself (by decide)
  · intro hmark
    simp only [heldMarks, List.mem_cons, List.not_mem_nil, or_false, not_or] at hmark
    obtain ⟨hbackslash, hopen, hclose⟩ := hmark
    rw [released, if_neg hbackslash, if_neg hopen, if_neg hclose]

/-- Nothing is released in a text exactly if no character of it stands for another. -/
theorem map_released_eq_self_iff {text : List Char} :
    text.map released = text ↔ ∀ mark ∈ heldMarks, mark ∉ text := by
  induction text with
  | nil => exact iff_of_true rfl fun _ _ ↦ List.not_mem_nil
  | cons c cs ih =>
    rw [List.map_cons, List.cons_eq_cons, ih, released_eq_self_iff]
    constructor
    · rintro ⟨hc, hcs⟩ mark hmark
      exact List.not_mem_cons_of_ne_of_not_mem (ne_of_mem_of_not_mem hmark hc) (hcs mark hmark)
    · intro h
      exact ⟨fun hc ↦ h c hc List.mem_cons_self,
        fun mark hmark ↦ List.not_mem_of_not_mem_cons (h mark hmark)⟩

variable {R G : Type} [Scalar R] [RandomSource G]

/-- All stages but the last leave a text without opening braces and backslashes as it is. -/
theorem renderStages_of_plain (life : Life R) {text : List Char} (hopen : '\x7b' ∉ text)
    (hslash : '\\' ∉ text) (source : Counted G) :
    renderStages life text source = (text.map released, source) := by
  have hunpaired : Unpaired text := unpaired_of_not_mem hopen
  rw [renderStages, hold_of_not_mem hslash, resolveConditionals,
    resolveGroups_of_unpaired hunpaired, resolveRandom]
  dsimp only
  rw [resolveGroups_of_unpaired hunpaired, resolveVariables]
  dsimp only
  rw [resolveGroups_of_unpaired hunpaired, resolve_of_not_mem hslash]

theorem render_of_plain (life : Life R) {template : String} (hopen : '\x7b' ∉ template.toList)
    (hslash : '\\' ∉ template.toList) (source : Counted G) :
    render life template source = (template, source) := by
  have hneeds : ¬ needsRendering template.toList = true := by
    rw [needsRendering, List.any_eq_true]
    rintro ⟨c, hc, hmeans⟩
    rcases Bool.or_eq_true_iff.1 hmeans with hbrace | hbackslash
    · exact hopen (of_decide_eq_true hbrace ▸ hc)
    · exact hslash (of_decide_eq_true hbackslash ▸ hc)
  rw [render, if_neg hneeds]

/-- **Where there is nothing to resolve, the stages may be passed over**: in whatever life, the
stages of a template without opening braces and backslashes draw nothing, and they give the
template itself, which is what is shown of it, exactly if no character of it stands for another. -/
theorem stages_may_be_passed_over (life : Life R) {template : String}
    (hopen : '\x7b' ∉ template.toList) (hslash : '\\' ∉ template.toList) (source : Counted G) :
    let staged := renderStages life template.toList source
    staged.2 = source ∧
      (staged.1 = template.toList ↔ ∀ mark ∈ heldMarks, mark ∉ template.toList) ∧
      ((String.ofList staged.1, staged.2) = render life template source ↔
        ∀ mark ∈ heldMarks, mark ∉ template.toList) := by
  intro staged
  have hstaged : staged = (template.toList.map released, source) :=
    renderStages_of_plain life hopen hslash source
  rw [hstaged, render_of_plain life hopen hslash, ← map_released_eq_self_iff]
  refine ⟨rfl, Iff.rfl, ?_⟩
  rw [Prod.mk.injEq, ← String.toList_inj, String.toList_ofList]
  exact and_iff_left rfl

/-- A closing brace and letters of any kind are shown as they are, in both ways. -/
theorem closing_brace_is_shown :
    let source : Counted Stepper := .fresh ⟨0, 1⟩
    let template := "naïve \x7d 水 | $health:\n"
    ('\x7b' ∉ template.toList ∧ '\\' ∉ template.toList) ∧
      renderStages (Life.fresh 50 : Life Float) template.toList source =
        (template.toList, source) := by
  intro source template
  have hopen : '\x7b' ∉ template.toList := by decide
  have hslash : '\\' ∉ template.toList := by decide
  obtain ⟨hdraws, hshown, -⟩ :=
    stages_may_be_passed_over (Life.fresh 50 : Life Float) hopen hslash source
  have hmarks : ∀ mark ∈ heldMarks, mark ∉ template.toList :=
    List.all_iff_forall_prop.1 (by decide)
  exact ⟨⟨hopen, hslash⟩, Prod.ext (hshown.2 hmarks) hdraws⟩

/-- The character that stands for an escaped backslash is shown as it is, for there is nothing to
resolve; the stages would make a backslash of it. -/
theorem stages_make_a_backslash :
    let source : Counted Stepper := .fresh ⟨0, 1⟩
    let template := String.ofList [heldBackslash]
    ('\x7b' ∉ template.toList ∧ '\\' ∉ template.toList) ∧
      (renderStages (Life.fresh 50 : Life Float) template.toList source).1 = ['\\'] ∧
      (render (Life.fresh 50 : Life Float) template source).1 = template := by
  refine ⟨⟨by decide, by decide⟩, by decide +kernel, by decide +kernel⟩

end LifeStory.Template
