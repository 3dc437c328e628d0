import LifeStory.Proofs.DrawCounts
import LifeStory.Proofs.LiteralText
import LifeStory.Scalar.Rational
import Mathlib.Data.List.Infix

/-!
# Groups are resolved where they stand

A template is read from left to right: where the text goes on with a group of a kind, the group is
taken as a whole, and else a character by itself (`ReadAs`). There is exactly one such reading of
each text (`exists_readAs`, `ReadAs.unique`), and to resolve the groups of the kind is to put
something else in the place of the groups and to copy the characters (`resolveGroups_of_readAs`).
That the stages cut a text at its closing braces first is thereby no more than a way to get there.

A group ends at the first closing brace after its opening one. So a text in which every opening
brace has a closing one behind it (`Settled`) is read in the same way whatever follows it
(`ReadAs.append`): no group reaches over its end. And in a text in which no closing brace stands
behind an opening one (`Unpaired`), all is copied.
-/

namespace LifeStory.Template

variable {α σ : Type}

/-! ### The reading of a text -/

/-- A group with its braces. -/
def braced (content : List Char) : List Char := '\x7b' :: content ++ ['\x7d']

theorem braced_append (content rest : List Char) :
    braced content ++ rest = '\x7b' :: (content ++ '\x7d' :: rest) := by
  rw [braced, List.cons_append, List.cons_append, List.append_assoc, List.singleton_append]

/-- A part of a text: a character by itself, or a group with what its content is read as. -/
inductive Part (α : Type) where
  | char (c : Char)
  | group (content : List Char) (read : α)

/-- The text goes on with a group of a kind. -/
def StartsWithGroup (kind? : List Char → Option α) (text : List Char) : Prop :=
  ∃ content a rest, text = braced content ++ rest ∧ '\x7d' ∉ content ∧ kind? content = some a

/-- The parts that a text is read as, from left to right. -/
inductive ReadAs (kind? : List Char → Option α) : List Char → List (Part α) → Prop where
  | nil : ReadAs kind? [] []
  | char {c : Char} {cs : List Char} {parts : List (Part α)}
      (plain : ¬ StartsWithGroup kind? (c :: cs)) (rest : ReadAs kind? cs parts) :
      ReadAs kind? (c :: cs) (.char c :: parts)
  | group {content cs : List Char} {a : α} {parts : List (Part α)}
      (closed : '\x7d' ∉ content) (kind : kind? content = some a) (rest : ReadAs kind? cs parts) :
      ReadAs kind? (braced content ++ cs) (.group content a :: parts)

variable {kind? : List Char → Option α} {replace : α → σ → Option (List Char) × σ}

theorem takeWhile_until {d : Char} {front : List Char} (h : d ∉ front) (rest : List Char) :
    (front ++ d :: rest).takeWhile (· ≠ d) = front := by
  have hfront : ∀ c ∈ front, decide (c ≠ d) = true :=
    fun c hc ↦ decide_eq_true (ne_of_mem_of_not_mem hc h)
  rw [List.takeWhile_append_of_pos hfront, List.takeWhile_cons_of_neg (by simp), List.append_nil]

/-- There is one first closing brace. -/
theorem close_inj {content content' rest rest' : List Char} (h : '\x7d' ∉ content)
    (h' : '\x7d' ∉ content') (heq : content ++ '\x7d' :: rest = content' ++ '\x7d' :: rest') :
    content = content' ∧ rest = rest' := by
  have hcontent : content = content' := by rw [← takeWhile_until h rest, heq, takeWhile_until h']
  subst hcontent
  exact ⟨rfl, (List.cons.inj (List.append_cancel_left heq)).2⟩

/-- Every text can be read. -/
theorem exists_readAs (kind? : List Char → Option α) (text : List Char) :
    ∃ parts, ReadAs kind? text parts := by
  by_cases hgroup : StartsWithGroup kind? text
  · obtain ⟨content, a, rest, htext, hclosed, hkind⟩ := hgroup
    obtain ⟨parts, hparts⟩ := exists_readAs kind? rest
    rw [htext]
    exact ⟨_, .group hclosed hkind hparts⟩
  · cases text with
    | nil => exact ⟨_, .nil⟩
    | cons c cs =>
      obtain ⟨parts, hparts⟩ := exists_readAs kind? cs
      exact ⟨_, .char hgroup hparts⟩
termination_by text.length
decreasing_by
  · rw [htext, braced_append, List.length_cons, List.length_append, List.length_cons]
    omega
  · rw [List.length_cons]
    omega

/-- There is one way to read a text. -/
theorem ReadAs.unique {text : List Char} {parts parts' : List (Part α)}
    (h : ReadAs kind? text parts) (h' : ReadAs kind? text parts') : parts = parts' := by
  induction h generalizing parts' with
  | nil => cases h' with
    | nil => rfl
  | char plain _ ih =>
    generalize htext : _ :: _ = text at h' plain
    cases h' with
    | nil => cases htext
    | char _ rest' =>
      obtain ⟨rfl, rfl⟩ := List.cons.inj htext
      rw [ih rest']
    | group closed kind _ => exact absurd ⟨_, _, _, rfl, closed, kind⟩ plain
  | group closed kind _ ih =>
    generalize htext : braced _ ++ _ = text at h'
    cases h' with
    | nil => cases htext
    | char plain _ => exact absurd ⟨_, _, _, htext.symm, closed, kind⟩ plain
    | group closed' kind' rest' =>
      rw [braced_append, braced_append, List.cons_inj_right] at htext
      obtain ⟨rfl, rfl⟩ := close_inj closed closed' htext
      rw [ih rest', Option.some.inj (kind.symm.trans kind')]

/-! ### The parts of a text are shown in order -/

/-- Shows a part: a group as its replacement, or as it is if it has none. -/
def Part.shown (replace : α → σ → Option (List Char) × σ) : Part α → σ → List Char × σ
  | char c, source => ([c], source)
  | group content a, source =>
    let (replacement, source) := replace a source
    (replacement.getD (braced content), source)

/-- Shows parts from left to right. -/
def showParts (replace : α → σ → Option (List Char) × σ) : List (Part α) → σ → List Char × σ
  | [], source => ([], source)
  | part :: parts, source =>
    let (first, source) := part.shown replace source
    let (others, source) := showParts replace parts source
    (first ++ others, source)

theorem showParts_append (front back : List (Part α)) (source : σ) :
    showParts replace (front ++ back) source =
      ((showParts replace front source).1 ++
          (showParts replace back (showParts replace front source).2).1,
        (showParts replace back (showParts replace front source).2).2) := by
  induction front generalizing source with
  | nil => rfl
  | cons part parts ih =>
    rw [List.cons_append, showParts, showParts]
    dsimp only
    rw [ih, List.append_assoc]

/-- Characters by themselves are copied. -/
theorem showParts_chars (text : List Char) (source : σ) :
    showParts replace (text.map Part.char) source = (text, source) := by
  induction text with
  | nil => rfl
  | cons c cs ih =>
    rw [List.map_cons, showParts]
    dsimp only [Part.shown]
    rw [ih, List.singleton_append]

/-! ### Resolving is reading and showing -/

/-- A text is cut at its first closing brace, and then its rest is. -/
theorem pieces_close {content : List Char} (h : '\x7d' ∉ content) (cs : List Char) :
    pieces (content ++ '\x7d' :: cs) = (content :: (pieces cs).1, (pieces cs).2) := by
  induction content with
  | nil => rfl
  | cons c content ih =>
    rw [List.cons_append, pieces, ih (List.not_mem_of_not_mem_cons h)]
    exact if_neg (List.ne_of_not_mem_cons h).symm

/-- What stands before the first closing brace is one piece, and the rest is resolved after it. -/
theorem resolveGroups_close {content : List Char} (h : '\x7d' ∉ content) (cs : List Char)
    (source : σ) :
    resolveGroups kind? replace (content ++ '\x7d' :: cs) source =
      ((resolvePiece kind? replace content source).1 ++
          (resolveGroups kind? replace cs (resolvePiece kind? replace content source).2).1,
        (resolveGroups kind? replace cs (resolvePiece kind? replace content source).2).2) := by
  rw [resolveGroups, pieces_close h]
  dsimp only [resolvePieces]
  rw [List.append_assoc]
  rfl

/-- The group at the front of a piece is the one that is replaced. -/
theorem resolvePiece_group {content : List Char} {a : α} (h : kind? content = some a)
    (source : σ) :
    resolvePiece kind? replace ('\x7b' :: content) source =
      (Part.group content a).shown replace source := by
  have hfind : findGroup kind? ('\x7b' :: content) = some ([], a) := by
    rw [findGroup, if_pos rfl, h]
  rw [resolvePiece, hfind, Part.shown]
  dsimp only
  rcases replace a source with ⟨_ | replacement, source⟩ <;> rfl

/-- A character that no group begins with is copied. -/
theorem resolvePiece_cons {c : Char} {content : List Char}
    (h : c = '\x7b' → kind? content = none) (source : σ) :
    resolvePiece kind? replace (c :: content) source =
      (c :: (resolvePiece kind? replace content source).1,
        (resolvePiece kind? replace content source).2) := by
  have hfind : findGroup kind? (c :: content) =
      (findGroup kind? content).map fun found ↦ (c :: found.1, found.2) := by
    rw [findGroup]
    split
    · next a ha =>
      obtain ⟨hc, hkind⟩ := Option.ite_none_right_eq_some.1 ha
      exact absurd ((h hc).symm.trans hkind) (Option.some_ne_none a).symm
    · rfl
  rw [resolvePiece, resolvePiece, hfind]
  cases findGroup kind? content with
  | none => rfl
  | some found =>
    obtain ⟨before, a⟩ := found
    dsimp only [Option.map_some]
    rcases replace a source with ⟨_ | replacement, source⟩ <;> rfl

/-- A character that the text does not go on from with a group is copied. -/
theorem resolveGroups_char {c : Char} {cs : List Char}
    (h : ¬ StartsWithGroup kind? (c :: cs)) (source : σ) :
    resolveGroups kind? replace (c :: cs) source =
      (c :: (resolveGroups kind? replace cs source).1,
        (resolveGroups kind? replace cs source).2) := by
  by_cases hc : c = '\x7d'
  · subst hc
    exact resolveGroups_close (List.not_mem_nil : '\x7d' ∉ []) cs source
  · by_cases hcs : '\x7d' ∈ cs
    · obtain ⟨content, rest, rfl, hclosed⟩ := List.eq_append_cons_of_mem hcs
      have hplain : c = '\x7b' → kind? content = none := by
        rintro rfl
        refine Option.eq_none_iff_forall_ne_some.2 fun a ha ↦ h ⟨content, a, rest, ?_, hclosed, ha⟩
        rw [braced_append]
      have hclosed' : '\x7d' ∉ c :: content :=
        List.not_mem_cons_of_ne_of_not_mem (Ne.symm hc) hclosed
      rw [← List.cons_append, resolveGroups_close hclosed', resolvePiece_cons hplain,
        resolveGroups_close hclosed]
      rfl
    · rw [resolveGroups_of_not_mem hcs,
        resolveGroups_of_not_mem (List.not_mem_cons_of_ne_of_not_mem (Ne.symm hc) hcs)]

/-- **Resolving the groups of a text shows its parts.** Whatever the parts are that a text is read
as, its groups are replaced from left to right and all else is copied. -/
theorem resolveGroups_of_readAs {text : List Char} {parts : List (Part α)}
    (h : ReadAs kind? text parts) (source : σ) :
    resolveGroups kind? replace text source = showParts replace parts source := by
  induction h generalizing source with
  | nil => rfl
  | char plain _ ih =>
    rw [resolveGroups_char plain, ih]
    rfl
  | @group content cs a parts closed kind _ ih =>
    have hopen : '\x7d' ∉ '\x7b' :: content :=
      List.not_mem_cons_of_ne_of_not_mem (by decide) closed
    rw [braced_append, ← List.cons_append, resolveGroups_close hopen, resolvePiece_group kind, ih]
    rfl

/-! ### Settled texts -/

/-- No opening brace stands behind the last closing one, and none at all if there is no closing
one. -/
def Settled (text : List Char) : Prop :=
  ∀ rest, rest <:+ text → '\x7d' ∉ rest → '\x7b' ∉ rest

instance (text : List Char) : Decidable (Settled text) :=
  decidable_of_iff (∀ rest ∈ text.tails, '\x7d' ∉ rest → '\x7b' ∉ rest) <|
    forall_congr' fun rest ↦ by rw [List.mem_tails]

theorem Settled.of_suffix {text rest : List Char} (h : Settled text) (hrest : rest <:+ text) :
    Settled rest := fun last hlast ↦ h last (hlast.trans hrest)

/-- What follows a settled text does not make its reading another. -/
theorem ReadAs.append {front back : List Char} {parts parts' : List (Part α)}
    (h : ReadAs kind? front parts) (hfront : Settled front) (h' : ReadAs kind? back parts') :
    ReadAs kind? (front ++ back) (parts ++ parts') := by
  induction h with
  | nil => exact h'
  | @char c cs parts plain _ ih =>
    refine .char ?_ (ih (hfront.of_suffix (List.suffix_cons c cs)))
    rintro ⟨content, a, rest, heq, hclosed, hkind⟩
    rw [braced_append] at heq
    obtain ⟨rfl, heq⟩ := List.cons.inj heq
    -- the opening brace has a closing one in front of what follows, where the group ends
    have hclose : '\x7d' ∈ cs := by
      by_contra hcs
      exact hfront _ List.suffix_rfl (List.not_mem_cons_of_ne_of_not_mem (by decide) hcs)
        List.mem_cons_self
    obtain ⟨content', rest', rfl, hclosed'⟩ := List.eq_append_cons_of_mem hclose
    replace heq : content' ++ '\x7d' :: (rest' ++ back) = content ++ '\x7d' :: rest := by
      rwa [← List.cons_append, ← List.append_assoc]
    obtain ⟨rfl, -⟩ := close_inj hclosed' hclosed heq
    exact plain ⟨content', a, rest', (braced_append ..).symm, hclosed, hkind⟩
  | group closed kind _ ih =>
    rw [List.append_assoc]
    exact .group closed kind (ih (hfront.of_suffix (List.suffix_append ..)))

/-- The groups of a settled text are resolved by themselves, and then those of what follows. -/
theorem resolveGroups_append {front : List Char} (h : Settled front) (back : List Char)
    (source : σ) :
    resolveGroups kind? replace (front ++ back) source =
      ((resolveGroups kind? replace front source).1 ++
          (resolveGroups kind? replace back (resolveGroups kind? replace front source).2).1,
        (resolveGroups kind? replace back (resolveGroups kind? replace front source).2).2) := by
  obtain ⟨parts, hparts⟩ := exists_readAs kind? front
  obtain ⟨parts', hparts'⟩ := exists_readAs kind? back
  rw [resolveGroups_of_readAs (hparts.append h hparts'), showParts_append,
    resolveGroups_of_readAs hparts, resolveGroups_of_readAs hparts']

/-! ### Texts without a pair of braces -/

/-- No closing brace stands behind an opening one. -/
def Unpaired (text : List Char) : Prop :=
  ∀ rest, '\x7b' :: rest <:+ text → '\x7d' ∉ rest

theorem unpaired_of_not_mem {text : List Char} (h : '\x7b' ∉ text) : Unpaired text :=
  fun _ hrest ↦ absurd (hrest.subset List.mem_cons_self) h

/-- A text without a pair of braces is read as its characters. -/
theorem Unpaired.readAs {text : List Char} (h : Unpaired text) :
    ReadAs kind? text (text.map .char) := by
  induction text with
  | nil => exact .nil
  | cons c cs ih =>
    refine .char ?_ (ih fun rest hrest ↦ h rest (hrest.trans (List.suffix_cons c cs)))
    rintro ⟨content, a, rest, heq, -, -⟩
    rw [braced_append] at heq
    rw [heq] at h
    exact h _ List.suffix_rfl (List.mem_append_right _ List.mem_cons_self)

/-- A text without pairs of braces is left as it is, and nothing is drawn for it. -/
theorem resolveGroups_of_unpaired {text : List Char} (h : Unpaired text) (source : σ) :
    resolveGroups kind? replace text source = (text, source) := by
  rw [resolveGroups_of_readAs h.readAs, showParts_chars]

/-! ### The stages -/

/-- Shows a part by what a group of the kind says. -/
def Part.shownBy (text : α → List Char) : Part α → List Char
  | char c => [c]
  | group _ a => text a

theorem showParts_pure (text : α → List Char) (parts : List (Part α)) :
    showParts (fun a (_ : Unit) ↦ (some (text a), ())) parts () =
      (parts.flatMap (Part.shownBy text), ()) := by
  induction parts with
  | nil => rfl
  | cons part parts ih =>
    rw [showParts]
    dsimp only
    rw [ih, List.flatMap_cons]
    cases part <;> rfl

/-- Whether one of several options is drawn for a part. -/
def Part.isDrawn : Part (List (List Char)) → Bool
  | char _ => false
  | group _ options => 2 ≤ options.length

variable {R G : Type} [Scalar R] [RandomSource G]

/-- An option is drawn with one word, if there is more than one. -/
theorem source_drawOption (options : List (List Char)) (source : Counted G) :
    (drawOption R options source).2 = source.later (if 2 ≤ options.length then 1 else 0) := by
  rw [drawOption]
  by_cases hfew : options.length ≤ 1
  · rw [if_pos hfew, if_neg (by omega)]
    rfl
  · rw [if_neg hfew, if_pos (by omega)]
    rfl

/-- The source is drawn from once for each group of several options. -/
theorem source_showParts (parts : List (Part (List (List Char)))) (source : Counted G) :
    (showParts (drawOption R) parts source).2 = source.later (parts.countP Part.isDrawn) := by
  induction parts generalizing source with
  | nil => rfl
  | cons part parts ih =>
    have hpart : (part.shown (drawOption R) source).2 =
        source.later (if part.isDrawn then 1 else 0) := by
      cases part with
      | char c => rfl
      | group content options =>
        rw [Part.shown, Part.isDrawn]
        dsimp only
        rw [source_drawOption]
        simp only [decide_eq_true_eq]
    rw [showParts]
    dsimp only
    rw [ih, hpart, ← Counted.later_add, List.countP_cons, Nat.add_comm]

/-- **The stages of a template are local.** What stands in front of a text, if it is settled, is
resolved by itself, with the draws for it first. A text without a pair of braces is left as it is.
And whatever parts a text is read as by a stage, the stage replaces its groups and copies all else;
one draw is made for each group of several options, and no other. -/
theorem stages_are_local (life : Life R) :
    (∀ front back, Settled front →
      resolveConditionals life (front ++ back) =
          resolveConditionals life front ++ resolveConditionals life back ∧
        resolveVariables life (front ++ back) =
          resolveVariables life front ++ resolveVariables life back ∧
        ∀ source : Counted G,
          let first := resolveRandom R front source
          let second := resolveRandom R back first.2
          resolveRandom R (front ++ back) source = (first.1 ++ second.1, second.2)) ∧
      (∀ text, Unpaired text →
        resolveConditionals life text = text ∧ resolveVariables life text = text ∧
          ∀ source : Counted G, resolveRandom R text source = (text, source)) ∧
      ∀ text,
        (∃ parts, ReadAs conditional? text parts ∧
          resolveConditionals life text = parts.flatMap (Part.shownBy (·.chosen life))) ∧
        (∃ parts, ReadAs variableRef? text parts ∧
          resolveVariables life text = parts.flatMap (Part.shownBy (shownVariable life))) ∧
        ∃ parts, ReadAs options? text parts ∧ ∀ source : Counted G,
          resolveRandom R text source = showParts (drawOption R) parts source ∧
            (resolveRandom R text source).2 = source.later (parts.countP Part.isDrawn) := by
  refine ⟨fun front back hfront ↦ ⟨?_, ?_, fun source ↦ ?_⟩,
    fun text htext ↦ ⟨?_, ?_, fun source ↦ ?_⟩, fun text ↦ ⟨?_, ?_, ?_⟩⟩
  · rw [resolveConditionals, resolveGroups_append hfront]
    rfl
  · rw [resolveVariables, resolveGroups_append hfront]
    rfl
  · exact resolveGroups_append hfront back source
  · rw [resolveConditionals, resolveGroups_of_unpaired htext]
  · rw [resolveVariables, resolveGroups_of_unpaired htext]
  · exact resolveGroups_of_unpaired htext source
  · obtain ⟨parts, hparts⟩ := exists_readAs conditional? text
    refine ⟨parts, hparts, ?_⟩
    rw [resolveConditionals, resolveGroups_of_readAs hparts, showParts_pure]
  · obtain ⟨parts, hparts⟩ := exists_readAs variableRef? text
    refine ⟨parts, hparts, ?_⟩
    rw [resolveVariables, resolveGroups_of_readAs hparts, showParts_pure]
  · obtain ⟨parts, hparts⟩ := exists_readAs options? text
    have hshown : ∀ source : Counted G,
        resolveRandom R text source = showParts (drawOption R) parts source :=
      resolveGroups_of_readAs hparts
    refine ⟨parts, hparts, fun source ↦ ⟨hshown source, ?_⟩⟩
    rw [hshown, source_showParts]

/-- A mood that is drawn from two, and a group that has one option only. -/
def mood : List Char := "\x7bcalm|uneasy\x7d, \x7balone\x7d. ".toList

/-- A way that is drawn from two, and a brace that is left open. -/
def way : List Char := "Go \x7bleft|right\x7d \x7b".toList

/-- The source of which each word is the last one and half of all words. -/
def halves : Counted Stepper := .fresh ⟨0, 0x8000000000000000⟩

/-- The mood is drawn first and then the way, by two draws in all. -/
theorem mood_and_way_are_drawn_in_turn :
    Settled mood ∧
      (resolveRandom ℚ (mood ++ way) halves).1 =
        "calm, \x7balone\x7d. Go right \x7b".toList ∧
      (resolveRandom ℚ (mood ++ way) halves).2.draws = 2 := by
  obtain ⟨hlocal, -, -⟩ := stages_are_local (R := ℚ) (G := Stepper) (Life.fresh 50)
  have hsettled : Settled mood := by decide
  have hdrawn := (hlocal mood way hsettled).2.2 halves
  dsimp only at hdrawn
  rw [hdrawn]
  exact ⟨hsettled, by decide +kernel, by decide +kernel⟩

end LifeStory.Template
