import LifeStory.Proofs.Groups
import LifeStory.Proofs.NormalConditions
import Mathlib.Data.Bool.AllAny
import Mathlib.Data.List.TakeWhile

/-!
# Conditional text follows its grammar

An author writes a conditional group as a comparison and two texts (`WrittenConditional`): a name, a
symbol, a number or a tag or a status effect, and behind a colon the text for either case. Two cuts
have to find these parts again. The comparison is cut at its first symbol, which is the one that was
meant, for no name contains a character of a symbol (`cutComparison_written`). The condition is cut
from the texts at the latest colon that serves, and this need not be the one that was meant: a colon
behind `tag` or `status` may stand inside of a condition, and so may the one behind an id that ends
in such a word, as long as two texts follow a later colon. That is all that can go wrong
(`conditional?_content`): `WrittenConditional.RunsOn` says exactly when it does.
-/

namespace LifeStory

/-! ### Trimmed texts -/

namespace Text

theorem length_dropBlankEnd_le (cs : List Char) : (dropBlankEnd cs).length ≤ cs.length := by
  induction cs with
  | nil => exact Nat.le_refl 0
  | cons c cs ih =>
    rw [dropBlankEnd]
    split
    · split <;> simp
    · simpa using ih

/-- The blanks at the end of a text are those at the end of its last part, unless that is blank. -/
theorem dropBlankEnd_append (front back : List Char) :
    dropBlankEnd (front ++ back) =
      if dropBlankEnd back = [] then dropBlankEnd front else front ++ dropBlankEnd back := by
  induction front with
  | nil =>
    split
    · next hnil => exact hnil
    · rfl
  | cons c front ih =>
    rw [List.cons_append, dropBlankEnd, ih]
    by_cases hback : dropBlankEnd back = []
    · rw [if_pos hback, if_pos hback, dropBlankEnd]
    · rw [if_neg hback, if_neg hback, List.cons_append]
      split
      · next hnil => exact absurd (List.append_eq_nil_iff.1 hnil).2 hback
      · rfl

/-- A text that is trimmed and not empty begins with a character that is not blank. -/
theorem exists_cons_of_trimmed {text : List Char} (hne : text ≠ []) (h : trimChars text = text) :
    ∃ c cs, text = c :: cs ∧ ¬ isBlank c = true := by
  obtain ⟨c, cs, rfl⟩ := List.exists_cons_of_ne_nil hne
  refine ⟨c, cs, rfl, fun hblank ↦ ?_⟩
  have hlength := congrArg List.length h
  rw [trimChars, List.dropWhile_cons_of_pos hblank, List.length_cons] at hlength
  have hle := length_dropBlankEnd_le (cs.dropWhile isBlank)
  have hdrop := (List.dropWhile_suffix isBlank (l := cs)).length_le
  omega

/-- A trimmed text has no blanks at its end. -/
theorem dropBlankEnd_of_trimmed {text : List Char} (h : trimChars text = text) :
    dropBlankEnd text = text := by
  by_cases hne : text = []
  · rw [hne, dropBlankEnd]
  · obtain ⟨c, cs, rfl, hblank⟩ := exists_cons_of_trimmed hne h
    rwa [trimChars, List.dropWhile_cons_of_neg hblank] at h

/-- What is left of a text without its first character ends in no blank if the text does not. -/
theorem dropBlankEnd_tail {c : Char} {cs : List Char} (h : dropBlankEnd (c :: cs) = c :: cs) :
    dropBlankEnd cs = cs := by
  rw [dropBlankEnd] at h
  split at h
  · next hnil =>
    split at h
    · cases h
    · rw [hnil, (List.cons.inj h).2]
  · exact (List.cons.inj h).2

/-- A text that ends in no blank has a character that is not blank. -/
theorem exists_dropWhile_cons {text : List Char} (h : dropBlankEnd text = text) (hne : text ≠ []) :
    ∃ c rest, text.dropWhile isBlank = c :: rest ∧ c ∈ text := by
  cases hdrop : text.dropWhile isBlank with
  | nil =>
    have hblank : dropBlankEnd text = [] := by
      have hall := List.dropWhile_eq_nil_iff.1 hdrop
      clear h hne hdrop
      induction text with
      | nil => rfl
      | cons c cs ih =>
        rw [dropBlankEnd, ih fun d hd ↦ hall d (List.mem_cons_of_mem c hd)]
        exact if_pos (hall c List.mem_cons_self)
    exact absurd (h.symm.trans hblank) hne
  | cons c rest =>
    refine ⟨c, rest, rfl, (List.dropWhile_suffix isBlank).subset ?_⟩
    rw [hdrop]
    exact List.mem_cons_self

/-- A text between two trimmed ones has no blanks to take off. -/
theorem trimChars_between {front back : List Char} (hfront : front ≠ [])
    (htrimmed : trimChars front = front) (hback : back ≠ []) (hlast : trimChars back = back)
    (middle : List Char) : trimChars (front ++ (middle ++ back)) = front ++ (middle ++ back) := by
  obtain ⟨c, cs, rfl, hblank⟩ := exists_cons_of_trimmed hfront htrimmed
  have hend := dropBlankEnd_of_trimmed hlast
  rw [trimChars, List.cons_append, List.dropWhile_cons_of_neg hblank, ← List.cons_append,
    ← List.append_assoc, dropBlankEnd_append, hend, if_neg hback]

/-- A text without blanks is trimmed. -/
theorem trimChars_of_no_blank {text : List Char} (h : ∀ c ∈ text, ¬ isBlank c = true) :
    trimChars text = text := by
  have hdrop : dropBlankEnd text = text := by
    induction text with
    | nil => rfl
    | cons c cs ih =>
      rw [dropBlankEnd_cons_of_not_blank (h c List.mem_cons_self),
        ih fun d hd ↦ h d (List.mem_cons_of_mem c hd)]
  rw [trimChars]
  cases text with
  | nil => rfl
  | cons c cs => rwa [List.dropWhile_cons_of_neg (h c List.mem_cons_self)]

end Text

namespace Template

open Text

/-! ### A conditional group as it is written -/

/-- The characters that cut a conditional group, and the end of a line. -/
def separators : List Char := [':', '\x7b', '\x7d', '|', '\n']

/-- A name: it is not empty, has no blanks at its ends, and nothing cuts it. -/
structure IsName (text : List Char) : Prop where
  ne_nil : text ≠ []
  trimmed : trimChars text = text
  uncut : ∀ c ∈ text, c ∉ separators

/-- The characters that symbols of comparisons are made of. -/
def symbolChars : List Char := ['<', '>', '=', '!']

/-- The characters that decimal numbers are made of. -/
def IsDecimalChar (c : Char) : Prop := c.isDigit = true ∨ c ∈ ['.', 'e', 'E', '-', '+']

/-- The right side of a comparison. -/
inductive Operand where
  | number (text : List Char)
  | tag (id : List Char)
  | status (id : List Char)

namespace Operand

/-- The operand as it is written. -/
def text : Operand → List Char
  | number text => text
  | tag id => "tag:".toList ++ id
  | status id => "status:".toList ++ id

/-- A number is made of the characters of decimal numbers; an id is a name. -/
def WellFormed : Operand → Prop
  | number text => text ≠ [] ∧ ∀ c ∈ text, IsDecimalChar c
  | tag id => IsName id
  | status id => IsName id

/-- What is compared with: the number, zero if the text spells none; or one if the tag is held or
the status effect in force, else zero. -/
def value {R : Type} [Scalar R] (life : Life R) : Operand → R
  | number text => definedOrZero ((Scalar.ofText? (String.ofList text)).getD 0.0)
  | tag id => presenceValue (life.hasTag (String.ofList id))
  | status id => presenceValue (life.hasStatus (String.ofList id))

end Operand

/-- A conditional group as an author writes it. -/
structure WrittenConditional where
  name : List Char
  op : Comparison
  operand : Operand
  whenTrue : List Char
  whenFalse : List Char
  isName : IsName name
  /-- No symbol begins within the name. -/
  noSymbol : ∀ c ∈ name, c ∉ symbolChars
  isSupported : op.isSupported = true
  wellFormed : operand.WellFormed
  whenTrue_ne_nil : whenTrue ≠ []
  whenTrue_uncut : '\x7d' ∉ whenTrue ∧ '|' ∉ whenTrue
  whenFalse_ne_nil : whenFalse ≠ []
  whenFalse_uncut : '\x7d' ∉ whenFalse

/-- A colon behind the text may stand inside of a condition. -/
def EndsInKey (text : List Char) : Prop := "tag".toList <:+ text ∨ "status".toList <:+ text

namespace WrittenConditional

/-- The comparison, with a blank on either side of its symbol. -/
def condition (g : WrittenConditional) : List Char :=
  g.name ++ ' ' :: (g.op.symbol.toList ++ ' ' :: g.operand.text)

/-- The comparison up to its right side. -/
def lead (g : WrittenConditional) : List Char := g.name ++ (' ' :: (g.op.symbol.toList ++ [' ']))

/-- The two texts with the bar between them. -/
def texts (g : WrittenConditional) : List Char := g.whenTrue ++ '|' :: g.whenFalse

/-- The content of the group. -/
def content (g : WrittenConditional) : List Char := '$' :: (g.condition ++ ':' :: g.texts)

/-- The group as it stands in a template. -/
def text (g : WrittenConditional) : List Char := braced g.content

/-- The condition runs on into the texts: its right side ends in a word that a colon may follow
inside of a condition, and behind a later colon, which no other colon keeps from being reached,
there are two texts again. -/
def RunsOn (g : WrittenConditional) : Prop :=
  EndsInKey g.operand.text ∧ ∃ front whenTrue whenFalse,
    g.texts = front ++ ':' :: (whenTrue ++ '|' :: whenFalse) ∧
      (whenTrue ≠ [] ∧ '|' ∉ whenTrue ∧ whenFalse ≠ []) ∧
      ∀ before after, front = before ++ ':' :: after → EndsInKey before

end WrittenConditional

/-! ### Operands -/

theorem not_blank_of_decimal {c : Char} (h : IsDecimalChar c) : ¬ isBlank c = true := by
  rcases h with hdigit | hother
  · simp only [Char.isDigit, Bool.and_eq_true, decide_eq_true_eq, UInt32.le_iff_toNat_le] at hdigit
    have hlow : 48 ≤ c.toNat := hdigit.1
    have hhigh : c.toNat ≤ 57 := hdigit.2
    simp only [isBlank, Bool.or_eq_true, Bool.and_eq_true, decide_eq_true_eq, beq_iff_eq]
    omega
  · simp only [List.mem_cons, List.not_mem_nil, or_false] at hother
    rcases hother with rfl | rfl | rfl | rfl | rfl <;> decide

/-- No number contains what is not made for numbers. -/
theorem not_mem_of_decimal {text : List Char} (h : ∀ c ∈ text, IsDecimalChar c) {c : Char}
    (hc : ¬ IsDecimalChar c) : c ∉ text := fun hmem ↦ hc (h c hmem)

instance (c : Char) : Decidable (IsDecimalChar c) := inferInstanceAs (Decidable (_ ∨ _))

namespace Operand

variable {operand : Operand}

theorem text_ne_nil (h : operand.WellFormed) : operand.text ≠ [] := by
  cases operand with
  | number text => exact h.1
  | tag id => exact List.cons_ne_nil _ _
  | status id => exact List.cons_ne_nil _ _

theorem trimmed_text (h : operand.WellFormed) : trimChars operand.text = operand.text := by
  cases operand with
  | number text => exact trimChars_of_no_blank fun c hc ↦ not_blank_of_decimal (h.2 c hc)
  | tag id =>
    exact trimChars_between (by decide : ['t'] ≠ []) (by decide) h.ne_nil h.trimmed "ag:".toList
  | status id =>
    exact trimChars_between (by decide : ['s'] ≠ []) (by decide) h.ne_nil h.trimmed
      "tatus:".toList

/-- Nothing cuts an operand but a colon. -/
theorem not_mem_text (h : operand.WellFormed) {c : Char} (hc : c ∈ separators) (hcolon : c ≠ ':') :
    c ∉ operand.text := by
  have hkeyed : ∀ {key id : List Char}, (∀ d ∈ key, d ∈ separators → d = ':') → IsName id →
      c ∉ key ++ id := by
    intro key id hkey hid hmem
    rcases List.mem_append.1 hmem with hmem | hmem
    · exact hcolon (hkey c hmem hc)
    · exact hid.uncut c hmem hc
  cases operand with
  | number text =>
    have hdecimal : ∀ d ∈ separators, ¬ IsDecimalChar d :=
      List.all_iff_forall_prop.1 (by decide)
    exact not_mem_of_decimal h.2 (hdecimal c hc)
  | tag id => exact hkeyed (List.all_iff_forall_prop.1 (by decide)) h
  | status id => exact hkeyed (List.all_iff_forall_prop.1 (by decide)) h

/-- An operand is read as it was meant. -/
theorem rightValue_text {R : Type} [Scalar R] (life : Life R) (h : operand.WellFormed) :
    rightValue life operand.text = operand.value life := by
  cases operand with
  | number text =>
    have hkey : ∀ {word : List Char}, (∃ c ∈ word, ¬ IsDecimalChar c) →
        ¬ word.isPrefixOf text = true := by
      rintro word ⟨c, hword, hc⟩ hprefix
      exact not_mem_of_decimal h.2 hc ((List.isPrefixOf_iff_prefix.1 hprefix).subset hword)
    show rightValue life text = _
    rw [rightValue, if_neg (hkey ⟨'t', by decide, by decide⟩),
      if_neg (hkey ⟨'t', by decide, by decide⟩)]
    rfl
  | tag id => rfl
  | status id => rfl

end Operand

/-! ### The comparison -/

/-- A character that is passed joins those in front of it, of which the last one stands first. -/
theorem reverse_cons_append (c : Char) (before cs : List Char) :
    (c :: before).reverse ++ cs = before.reverse ++ c :: cs := by
  rw [List.reverse_cons, List.append_assoc, List.singleton_append]

theorem exists_of_mem_comparisonSymbols {symbol : List Char} (h : symbol ∈ comparisonSymbols) :
    ∃ c rest, symbol = c :: rest ∧ c ∈ symbolChars := by
  simp only [comparisonSymbols, List.mem_cons, List.not_mem_nil, or_false] at h
  rcases h with rfl | rfl | rfl | rfl | rfl | rfl <;> exact ⟨_, _, rfl, by decide⟩

/-- No symbol stands where a character stands that begins none. -/
theorem findSome?_of_no_symbol {c : Char} (h : c ∉ symbolChars) (cs : List Char) :
    comparisonSymbols.findSome? (symbolThen? (c :: cs)) = none := by
  rw [List.findSome?_eq_none_iff]
  intro symbol hsymbol
  obtain ⟨first, rest, rfl, hfirst⟩ := exists_of_mem_comparisonSymbols hsymbol
  have hprefix : ¬ (first :: rest).isPrefixOf (c :: cs) = true := by
    rw [List.isPrefixOf_iff_prefix, List.cons_prefix_cons]
    rintro ⟨rfl, -⟩
    exact h hfirst
  rw [symbolThen?, if_neg hprefix]

/-- No symbol begins with a blank. -/
theorem exists_cons_of_isSupported {op : Comparison} (h : op.isSupported = true) :
    ∃ c rest, op.symbol.toList = c :: rest ∧ ¬ isBlank c = true := by
  cases op with
  | unsupported => exact Bool.noConfusion h
  | _ => exact ⟨_, _, rfl, by decide⟩

/-- A symbol is found where it stands, with what stands behind the blank after it. -/
theorem findSome?_symbol {op : Comparison} (hop : op.isSupported = true) {right : List Char}
    (hne : right ≠ []) (htrimmed : trimChars right = right) (hline : '\n' ∉ right) :
    comparisonSymbols.findSome? (symbolThen? (op.symbol.toList ++ ' ' :: right)) =
      some (op.symbol.toList, right) := by
  obtain ⟨c, cs, rfl, hblank⟩ := exists_cons_of_trimmed hne htrimmed
  have hdrop : (' ' :: c :: cs).dropWhile isBlank = c :: cs := by
    rw [List.dropWhile_cons_of_pos (by decide), List.dropWhile_cons_of_neg hblank]
  cases op with
  | unsupported => exact Bool.noConfusion hop
  | _ => simp [comparisonSymbols, symbolThen?, Comparison.symbol, hdrop, hline]

theorem cutComparison_cons {c : Char} (h : c ≠ '\n') (before cs : List Char) :
    cutComparison before (c :: cs) =
      match comparisonSymbols.findSome? (symbolThen? (cs.dropWhile isBlank)) with
      | some (symbol, right) => some ((c :: before).reverse, symbol, right)
      | none => cutComparison (c :: before) cs := by
  rw [cutComparison]
  exact if_neg h

/-- A comparison is cut at the symbol that was meant. The symbol is looked for behind each character
of the name; before the last one, the next character that is not blank is one of the name. -/
theorem cutComparison_written {c : Char} {name : List Char} {op : Comparison} {right : List Char}
    (hname : dropBlankEnd name = name) (hsymbol : ∀ d ∈ name, d ∉ symbolChars)
    (hlines : '\n' ∉ c :: name) (hop : op.isSupported = true) (hne : right ≠ [])
    (htrimmed : trimChars right = right) (hline : '\n' ∉ right) (before : List Char) :
    cutComparison before (c :: name ++ ' ' :: (op.symbol.toList ++ ' ' :: right)) =
      some (before.reverse ++ c :: name, op.symbol.toList, right) := by
  have hfirst : c ≠ '\n' := (List.ne_of_not_mem_cons hlines).symm
  rw [List.cons_append, cutComparison_cons hfirst]
  induction name generalizing c before with
  | nil =>
    obtain ⟨d, rest, hcons, hblank⟩ := exists_cons_of_isSupported hop
    have hdrop : (' ' :: (op.symbol.toList ++ ' ' :: right)).dropWhile isBlank =
        op.symbol.toList ++ ' ' :: right := by
      rw [List.dropWhile_cons_of_pos (by decide), hcons, List.cons_append,
        List.dropWhile_cons_of_neg hblank]
    rw [List.nil_append, hdrop, findSome?_symbol hop hne htrimmed hline, List.reverse_cons]
  | cons d name ih =>
    obtain ⟨e, rest, hdrop, he⟩ := exists_dropWhile_cons hname (List.cons_ne_nil d name)
    have hnone : comparisonSymbols.findSome? (symbolThen?
        ((d :: name ++ ' ' :: (op.symbol.toList ++ ' ' :: right)).dropWhile isBlank)) = none := by
      rw [List.dropWhile_append, hdrop, List.isEmpty_cons, if_neg Bool.false_ne_true,
        List.cons_append, findSome?_of_no_symbol (hsymbol e he)]
    have hlines' := List.not_mem_of_not_mem_cons hlines
    have hd : d ≠ '\n' := (List.ne_of_not_mem_cons hlines').symm
    rw [hnone]
    dsimp only
    rw [List.cons_append, cutComparison_cons hd, ih (dropBlankEnd_tail hname)
      (fun f hf ↦ hsymbol f (List.mem_cons_of_mem d hf)) hlines' (c :: before) hd,
      reverse_cons_append]

/-! ### The condition -/

theorem cutCondition_append {front : List Char} (h : ':' ∉ front) (before cs : List Char) :
    cutCondition before (front ++ cs) = cutCondition (front.reverse ++ before) cs := by
  induction front generalizing before with
  | nil => rfl
  | cons c front ih =>
    have hc : c ≠ ':' := (List.ne_of_not_mem_cons h).symm
    rw [List.cons_append, cutCondition, if_neg hc, ih (List.not_mem_of_not_mem_cons h),
      reverse_cons_append]

/-- At a colon a later one is tried first, if it may be passed. -/
theorem cutCondition_colon {before : List Char} (h : before ≠ []) (cs : List Char) :
    cutCondition before (':' :: cs) =
      (if allowsColon before then cutCondition (':' :: before) cs else none).or
        ((alternatives? cs).map fun texts ↦ ⟨before.reverse, texts.1, texts.2⟩) := by
  rw [cutCondition, if_pos rfl]
  dsimp only
  rw [if_neg h]
  cases if allowsColon before then cutCondition (':' :: before) cs else none <;> rfl

/-- What stands in front of a cut is a part of the condition. -/
theorem length_le_of_cutCondition {before cs : List Char} {cut : Conditional}
    (h : cutCondition before cs = some cut) : before.length ≤ cut.condition.length := by
  induction cs generalizing before with
  | nil => cases h
  | cons c cs ih =>
    by_cases hc : c = ':'
    · by_cases hbefore : before = []
      · rw [hbefore]
        exact Nat.zero_le _
      · rw [hc, cutCondition_colon hbefore, Option.or_eq_some_iff] at h
        rcases h with hlater | ⟨-, hhere⟩
        · obtain ⟨-, hlater⟩ := Option.ite_none_right_eq_some.1 hlater
          exact (Nat.le_succ _).trans (ih hlater)
        · obtain ⟨texts, -, rfl⟩ := Option.map_eq_some_iff.1 hhere
          exact (List.length_reverse ..).ge
    · rw [cutCondition, if_neg hc] at h
      exact (Nat.le_succ _).trans (ih h)

/-! ### The two texts -/

theorem alternatives?_append {front : List Char} (h : '|' ∉ front) (back : List Char) :
    alternatives? (front ++ '|' :: back) =
      if front = [] ∨ back = [] then none else some (front, back) := by
  have hbehind : (front ++ '|' :: back).dropWhile (· ≠ '|') = '|' :: back := by
    have hfront : ∀ c ∈ front, decide (c ≠ '|') = true :=
      fun c hc ↦ decide_eq_true (ne_of_mem_of_not_mem hc h)
    rw [List.dropWhile_append_of_pos hfront, List.dropWhile_cons_of_neg (by simp)]
  rw [alternatives?, hbehind]
  dsimp only
  rw [takeWhile_until h]
  rfl

/-- Two texts stand behind a colon exactly if there is a bar with something before it and
something behind it. -/
theorem alternatives?_eq_some_iff {cs whenTrue whenFalse : List Char} :
    alternatives? cs = some (whenTrue, whenFalse) ↔
      cs = whenTrue ++ '|' :: whenFalse ∧ whenTrue ≠ [] ∧ '|' ∉ whenTrue ∧ whenFalse ≠ [] := by
  constructor
  · intro h
    by_cases hbar : '|' ∈ cs
    · obtain ⟨front, back, rfl, hfront⟩ := List.eq_append_cons_of_mem hbar
      rw [alternatives?_append hfront, Option.ite_none_left_eq_some, not_or] at h
      obtain ⟨⟨hne, hne'⟩, hsome⟩ := h
      obtain ⟨rfl, rfl⟩ := Prod.mk.inj (Option.some.inj hsome)
      exact ⟨rfl, hne, hfront, hne'⟩
    · have hdrop : cs.dropWhile (· ≠ '|') = [] :=
        List.dropWhile_eq_nil_iff.2 fun c hc ↦ decide_eq_true (ne_of_mem_of_not_mem hc hbar)
      rw [alternatives?, hdrop] at h
      cases h
  · rintro ⟨rfl, hne, hbar, hne'⟩
    rw [alternatives?_append hbar, if_neg (not_or.2 ⟨hne, hne'⟩)]

/-- A condition can be cut at a colon of a text: every colon up to there may be passed, and two
texts stand behind it. -/
def Cuts (before cs : List Char) : Prop :=
  ∃ front whenTrue whenFalse, cs = front ++ ':' :: (whenTrue ++ '|' :: whenFalse) ∧
    (whenTrue ≠ [] ∧ '|' ∉ whenTrue ∧ whenFalse ≠ []) ∧
    ∀ passed after, front = passed ++ ':' :: after → EndsInKey (before.reverse ++ passed)

theorem not_cuts_nil (before : List Char) : ¬ Cuts before [] := by
  rintro ⟨front, whenTrue, whenFalse, heq, -⟩
  exact List.append_ne_nil_of_right_ne_nil front (List.cons_ne_nil _ _) heq.symm

/-- A character that is no colon is passed. -/
theorem cuts_cons_of_ne {c : Char} (h : c ≠ ':') (before cs : List Char) :
    Cuts before (c :: cs) ↔ Cuts (c :: before) cs := by
  constructor
  · rintro ⟨front, whenTrue, whenFalse, heq, htexts, hkeys⟩
    rcases List.cons_eq_append_iff.1 heq with ⟨-, heq⟩ | ⟨front, rfl, rfl⟩
    · exact absurd (List.cons.inj heq).1.symm h
    · refine ⟨front, whenTrue, whenFalse, rfl, htexts, fun passed after hfront ↦ ?_⟩
      rw [reverse_cons_append]
      exact hkeys (c :: passed) after (by rw [hfront, List.cons_append])
  · rintro ⟨front, whenTrue, whenFalse, rfl, htexts, hkeys⟩
    refine ⟨c :: front, whenTrue, whenFalse, rfl, htexts, fun passed after hfront ↦ ?_⟩
    rcases List.cons_eq_append_iff.1 hfront with ⟨-, heq⟩ | ⟨passed, rfl, rfl⟩
    · exact absurd (List.cons.inj heq).1.symm h
    · rw [← reverse_cons_append]
      exact hkeys passed after rfl

/-- At a colon a condition ends, or else the colon is passed. -/
theorem cuts_colon (before cs : List Char) :
    Cuts before (':' :: cs) ↔
      (alternatives? cs).isSome = true ∨ EndsInKey before.reverse ∧ Cuts (':' :: before) cs := by
  constructor
  · rintro ⟨front, whenTrue, whenFalse, heq, htexts, hkeys⟩
    rcases List.cons_eq_append_iff.1 heq with ⟨-, heq⟩ | ⟨front, rfl, rfl⟩
    · have htexts' := alternatives?_eq_some_iff.2 ⟨(List.cons.inj heq).2.symm, htexts⟩
      exact .inl (Option.isSome_of_eq_some htexts')
    · have hkey := hkeys [] front rfl
      rw [List.append_nil] at hkey
      refine .inr ⟨hkey, front, whenTrue, whenFalse, rfl, htexts, fun passed after hfront ↦ ?_⟩
      rw [reverse_cons_append]
      exact hkeys (':' :: passed) after (by rw [hfront, List.cons_append])
  · rintro (htexts | ⟨hkey, front, whenTrue, whenFalse, rfl, htexts, hkeys⟩)
    · obtain ⟨⟨whenTrue, whenFalse⟩, htexts⟩ := Option.isSome_iff_exists.1 htexts
      obtain ⟨rfl, hserve⟩ := alternatives?_eq_some_iff.1 htexts
      exact ⟨[], whenTrue, whenFalse, rfl, hserve, fun passed after hnil ↦
        absurd hnil.symm (List.append_ne_nil_of_right_ne_nil passed (List.cons_ne_nil _ _))⟩
    · refine ⟨':' :: front, whenTrue, whenFalse, rfl, htexts, fun passed after hfront ↦ ?_⟩
      rcases List.cons_eq_append_iff.1 hfront with ⟨rfl, -⟩ | ⟨passed, rfl, rfl⟩
      · rwa [List.append_nil]
      · rw [← reverse_cons_append]
        exact hkeys passed after rfl

theorem allowsColon_iff {before : List Char} :
    allowsColon before = true ↔ EndsInKey before.reverse := by
  rw [allowsColon, Bool.or_eq_true, List.isPrefixOf_iff_prefix, List.isPrefixOf_iff_prefix,
    ← List.reverse_suffix, ← List.reverse_suffix]
  rfl

/-- A condition that has begun is cut exactly if it can be. -/
theorem isSome_cutCondition_iff {before : List Char} (h : before ≠ []) (cs : List Char) :
    (cutCondition before cs).isSome = true ↔ Cuts before cs := by
  induction cs generalizing before with
  | nil => exact iff_of_false (fun hcut ↦ Bool.noConfusion hcut) (not_cuts_nil before)
  | cons c cs ih =>
    by_cases hc : c = ':'
    · rw [hc, cutCondition_colon h, cuts_colon, Option.isSome_or, Bool.or_eq_true,
        Option.isSome_map, or_comm, ← ih (List.cons_ne_nil ':' before), ← allowsColon_iff]
      by_cases hkey : allowsColon before = true
      · rw [if_pos hkey, and_iff_right hkey]
      · rw [if_neg hkey]
        exact or_congr_right (iff_of_false (fun hcut ↦ Bool.noConfusion hcut) fun hpass ↦
          hkey hpass.1)
    · rw [cutCondition, if_neg hc, cuts_cons_of_ne hc, ih (List.cons_ne_nil c before)]

theorem EndsInKey.append_left {text : List Char} (h : EndsInKey text) (front : List Char) :
    EndsInKey (front ++ text) :=
  h.imp (fun htag ↦ htag.trans (List.suffix_append front text))
    fun hstatus ↦ hstatus.trans (List.suffix_append front text)

/-- What stands in front of a character that no key contains does not matter for the end. -/
theorem endsInKey_append_cons {c : Char} (h : c ∉ "tag".toList ∧ c ∉ "status".toList)
    (front back : List Char) : EndsInKey (front ++ c :: back) ↔ EndsInKey back := by
  have hkey : ∀ {key : List Char}, c ∉ key → (key <:+ front ++ c :: back ↔ key <:+ back) := by
    intro key hc
    constructor
    · intro hsuffix
      rcases List.suffix_or_suffix_of_suffix hsuffix (List.suffix_append front (c :: back))
        with hshort | hlong
      · rcases List.suffix_cons_iff.1 hshort with rfl | hback
        · exact absurd List.mem_cons_self hc
        · exact hback
      · exact absurd (hlong.subset List.mem_cons_self) hc
    · intro hback
      exact hback.trans ((List.suffix_cons c back).trans (List.suffix_append front (c :: back)))
  rw [EndsInKey, hkey h.1, hkey h.2]
  rfl

/-- The colon within an operand is passed if two texts stand behind a later one. -/
theorem cutCondition_operand {operand : Operand} (h : operand.WellFormed) {texts : List Char}
    (htexts : (alternatives? texts).isSome = true) {before : List Char} (hbefore : before ≠ []) :
    cutCondition before (operand.text ++ ':' :: texts) =
      cutCondition (operand.text.reverse ++ before) (':' :: texts) := by
  have hkeyed : ∀ key id : List Char, ':' ∉ key → EndsInKey key → IsName id →
      cutCondition before (key ++ ':' :: (id ++ ':' :: texts)) =
        cutCondition ((key ++ ':' :: id).reverse ++ before) (':' :: texts) := by
    intro key id hkey hends hid
    have hcolon : ':' ∉ id := fun hmem ↦ hid.uncut ':' hmem (by decide)
    have hallows : allowsColon (key.reverse ++ before) = true := by
      rw [allowsColon_iff, List.reverse_append, List.reverse_reverse]
      exact hends.append_left before.reverse
    have hsome : (cutCondition (id.reverse ++ ':' :: (key.reverse ++ before))
        (':' :: texts)).isSome = true := by
      rw [isSome_cutCondition_iff (by simp), cuts_colon]
      exact .inl htexts
    rw [cutCondition_append hkey, cutCondition_colon (by simp [hbefore]), if_pos hallows,
      cutCondition_append hcolon, Option.or_of_isSome hsome]
    simp
  cases operand with
  | number text =>
    exact cutCondition_append (not_mem_of_decimal h.2 (by decide)) before (':' :: texts)
  | tag id =>
    exact hkeyed "tag".toList id (by decide) (.inl List.suffix_rfl) h
  | status id =>
    exact hkeyed "status".toList id (by decide) (.inr List.suffix_rfl) h

/-! ### What is shown -/

theorem ofSymbol_toList_symbol {op : Comparison} (h : op.isSupported = true) :
    Comparison.ofSymbol (String.ofList op.symbol.toList) = op := by
  cases op with
  | unsupported => exact Bool.noConfusion h
  | _ => decide

theorem not_mem_symbol {op : Comparison} (h : op.isSupported = true) {c : Char}
    (hc : c ∈ separators) : c ∉ op.symbol.toList := by
  have huncut : ∀ d ∈ separators, d ∉ op.symbol.toList := by
    cases op with
    | unsupported => exact Bool.noConfusion h
    | _ => exact List.all_iff_forall_prop.1 (by decide)
  exact huncut c hc

namespace WrittenConditional

variable (g : WrittenConditional)

theorem condition_eq : g.condition = g.lead ++ g.operand.text := by simp [condition, lead]

/-- Nothing cuts a condition in front of its right side. -/
theorem not_mem_lead {c : Char} (h : c ∈ separators) : c ∉ g.lead := by
  have hblank : c ≠ ' ' := by
    rintro rfl
    exact absurd h (by decide)
  simp only [lead, List.mem_append, List.mem_cons, List.not_mem_nil, or_false, not_or]
  exact ⟨fun hname ↦ g.isName.uncut c hname h, hblank, not_mem_symbol g.isSupported h, hblank⟩

theorem alternatives?_texts : alternatives? g.texts = some (g.whenTrue, g.whenFalse) :=
  alternatives?_eq_some_iff.2 ⟨rfl, g.whenTrue_ne_nil, g.whenTrue_uncut.2, g.whenFalse_ne_nil⟩

/-- The end of the condition is that of its operand. -/
theorem endsInKey_condition : EndsInKey g.condition ↔ EndsInKey g.operand.text := by
  have hsplit : g.condition =
      (g.name ++ ' ' :: g.op.symbol.toList) ++ ' ' :: g.operand.text := by simp [condition]
  rw [hsplit, endsInKey_append_cons (by decide)]

/-- The condition runs on exactly if a later cut can be made. -/
theorem runsOn_iff : g.RunsOn ↔
    EndsInKey g.operand.text ∧ Cuts (':' :: g.condition.reverse) g.texts := by
  have hpassed : ∀ passed,
      EndsInKey ((':' :: g.condition.reverse).reverse ++ passed) ↔ EndsInKey passed := by
    intro passed
    rw [reverse_cons_append, endsInKey_append_cons (by decide)]
  simp only [RunsOn, Cuts, hpassed]

/-- No number runs on. -/
theorem not_runsOn_of_number {text : List Char} (h : g.operand = .number text) : ¬ g.RunsOn := by
  rintro ⟨hkey, -⟩
  have hwellFormed := g.wellFormed
  rw [h] at hkey hwellFormed
  have ht : 't' ∉ text := not_mem_of_decimal hwellFormed.2 (by decide)
  rcases hkey with hkey | hkey <;> exact ht (hkey.subset (by decide))

/-- No condition runs on into texts without a colon. -/
theorem not_runsOn_of_not_mem (h : ':' ∉ g.texts) : ¬ g.RunsOn := by
  rintro ⟨-, front, whenTrue, whenFalse, heq, -⟩
  rw [heq] at h
  exact h (List.mem_append_right front List.mem_cons_self)

/-- The content is cut behind the condition, unless it is cut later. -/
theorem conditional?_content_eq_or : conditional? g.content =
    (if allowsColon g.condition.reverse then cutCondition (':' :: g.condition.reverse) g.texts
      else none).or (some ⟨g.condition, g.whenTrue, g.whenFalse⟩) := by
  have hlead : g.lead.reverse ≠ [] := by simp [lead]
  have hcondition : g.operand.text.reverse ++ g.lead.reverse = g.condition.reverse := by
    rw [condition_eq, List.reverse_append]
  have hne : g.condition.reverse ≠ [] := by simp [condition]
  have htexts := g.alternatives?_texts
  rw [content, conditional?, condition_eq, List.append_assoc,
    cutCondition_append (g.not_mem_lead (by decide)), List.append_nil,
    cutCondition_operand g.wellFormed (Option.isSome_of_eq_some htexts) hlead, hcondition,
    ← condition_eq, cutCondition_colon hne, htexts, Option.map_some, List.reverse_reverse]

/-- **The content is read as it was written exactly if its condition does not run on.** -/
theorem conditional?_content :
    conditional? g.content = some ⟨g.condition, g.whenTrue, g.whenFalse⟩ ↔ ¬ g.RunsOn := by
  rw [g.conditional?_content_eq_or, runsOn_iff, ← endsInKey_condition,
    ← isSome_cutCondition_iff (List.cons_ne_nil _ _)]
  by_cases hkey : allowsColon g.condition.reverse = true
  · have hends := allowsColon_iff.1 hkey
    rw [List.reverse_reverse] at hends
    rw [if_pos hkey, and_iff_right hends]
    cases hcut : cutCondition (':' :: g.condition.reverse) g.texts with
    | none => exact iff_of_true rfl fun h ↦ Bool.noConfusion h
    | some cut =>
      -- a later cut makes the condition longer
      have hlength := length_le_of_cutCondition hcut
      rw [List.length_cons, List.length_reverse] at hlength
      refine iff_of_false (fun h ↦ ?_) (not_not_intro rfl)
      rw [Option.some_or, Option.some.injEq] at h
      rw [h] at hlength
      exact Nat.not_succ_le_self _ hlength
  · rw [if_neg hkey, Option.none_or]
    refine iff_of_true rfl fun h ↦ hkey ?_
    rw [allowsColon_iff, List.reverse_reverse]
    exact h.1

/-- The condition is judged as the comparison that was meant. -/
theorem conditionHolds_condition {R : Type} [Scalar R] (life : Life R) :
    conditionHolds life (trimChars g.condition) = (g.op.compare?
      (leftValue life (String.ofList g.name)) (g.operand.value life)).getD false := by
  have htrimmed : trimChars g.condition = g.condition := by
    rw [condition_eq, lead, List.append_assoc]
    exact trimChars_between g.isName.ne_nil g.isName.trimmed (Operand.text_ne_nil g.wellFormed)
      (Operand.trimmed_text g.wellFormed) _
  have hcut : cutComparison [] g.condition =
      some (g.name, g.op.symbol.toList, g.operand.text) := by
    obtain ⟨c, cs, hname⟩ := List.exists_cons_of_ne_nil g.isName.ne_nil
    have hend := dropBlankEnd_of_trimmed g.isName.trimmed
    have hsymbol := g.noSymbol
    have hline : '\n' ∉ g.name := fun hmem ↦ g.isName.uncut '\n' hmem (by decide)
    rw [hname] at hend hsymbol hline
    rw [condition, hname]
    exact cutComparison_written (dropBlankEnd_tail hend)
      (fun d hd ↦ hsymbol d (List.mem_cons_of_mem c hd)) hline g.isSupported
      (Operand.text_ne_nil g.wellFormed) (Operand.trimmed_text g.wellFormed)
      (Operand.not_mem_text g.wellFormed (by decide) (by decide)) []
  rw [htrimmed, conditionHolds, hcut]
  dsimp only
  rw [ofSymbol_toList_symbol g.isSupported, g.isName.trimmed,
    Operand.trimmed_text g.wellFormed, Operand.rightValue_text life g.wellFormed]

/-- The group ends at its own closing brace. -/
theorem close_not_mem_content : '\x7d' ∉ g.content := by
  simp only [content, condition_eq, texts, List.mem_append, List.mem_cons, not_or]
  exact ⟨by decide, ⟨g.not_mem_lead (by decide),
    Operand.not_mem_text g.wellFormed (by decide) (by decide)⟩, by decide,
    g.whenTrue_uncut.1, by decide, g.whenFalse_uncut⟩

/-- **Conditional text follows its grammar.** A conditional group is read as it was written exactly
if its condition does not run on, and then it shows the one text if the comparison of its two sides
holds in the life and the other if not. No condition runs on that ends in a number, and none whose
texts contain no colon. -/
theorem conditional_text_follows_its_grammar {R : Type} [Scalar R] (life : Life R) :
    (conditional? g.content = some ⟨g.condition, g.whenTrue, g.whenFalse⟩ ↔ ¬ g.RunsOn) ∧
      (¬ g.RunsOn → resolveConditionals life g.text =
        if g.op.compare? (leftValue life (String.ofList g.name)) (g.operand.value life) = some true
        then trimChars g.whenTrue else trimChars g.whenFalse) ∧
      ((∃ text, g.operand = .number text) ∨ ':' ∉ g.texts → ¬ g.RunsOn) := by
  refine ⟨g.conditional?_content, fun hruns ↦ ?_, ?_⟩
  case refine_2 =>
    rintro (⟨text, htext⟩ | hcolon)
    · exact g.not_runsOn_of_number htext
    · exact g.not_runsOn_of_not_mem hcolon
  have hread : ReadAs conditional? g.text
      [.group g.content ⟨g.condition, g.whenTrue, g.whenFalse⟩] := by
    have hgroup := ReadAs.group g.close_not_mem_content (g.conditional?_content.2 hruns) .nil
    rwa [List.append_nil] at hgroup
  rw [resolveConditionals, resolveGroups_of_readAs hread, showParts_pure]
  dsimp only
  rw [List.flatMap_singleton, Part.shownBy, Conditional.chosen, g.conditionHolds_condition]
  cases g.op.compare? (leftValue life (String.ofList g.name)) (g.operand.value life) with
  | none => rfl
  | some holds => cases holds <;> rfl

end WrittenConditional

/-- A group that asks whether the tag of a stag is held, with a colon in its first text. -/
def stagSighted : WrittenConditional where
  name := "turn".toList
  op := .lt
  operand := .tag "stag".toList
  whenTrue := " Bonus: a deer".toList
  whenFalse := "None".toList
  isName := ⟨by decide, by decide, List.all_iff_forall_prop.1 (by decide)⟩
  noSymbol := List.all_iff_forall_prop.1 (by decide)
  isSupported := rfl
  wellFormed := ⟨by decide, by decide, List.all_iff_forall_prop.1 (by decide)⟩
  whenTrue_ne_nil := by decide
  whenTrue_uncut := by decide
  whenFalse_ne_nil := by decide
  whenFalse_uncut := by decide

/-- The same group without a colon in its texts. -/
def deerSighted : WrittenConditional :=
  { stagSighted with
    whenTrue := " A deer ".toList
    whenTrue_ne_nil := by decide
    whenTrue_uncut := by decide }

/-- A life at its beginning that has met a stag. -/
def hunter : Life ℚ := { Life.fresh 50 with tags := ["stag"] }

/-- An id that ends like the word for tags does no harm where no colon follows. -/
theorem deer_is_shown :
    ¬ deerSighted.RunsOn ∧ resolveConditionals hunter deerSighted.text = "A deer".toList := by
  obtain ⟨-, hshown, hends⟩ := deerSighted.conditional_text_follows_its_grammar hunter
  have hruns : ¬ deerSighted.RunsOn := hends (.inr (by decide))
  rw [hshown hruns]
  exact ⟨hruns, by decide +kernel⟩

/-- The stag is met, and still the text for the other case is shown: the first text up to its colon
is taken for a part of the id. -/
theorem stag_is_not_shown :
    stagSighted.op.compare? (leftValue hunter (String.ofList stagSighted.name))
        (stagSighted.operand.value hunter) = some true ∧
      resolveConditionals hunter stagSighted.text = "None".toList ∧
      trimChars stagSighted.whenTrue = "Bonus: a deer".toList ∧
      (conditional? stagSighted.content).map (String.ofList ·.condition) =
        some "turn < tag:stag: Bonus" := by
  exact ⟨by decide +kernel, by decide +kernel, by decide, by decide +kernel⟩

end Template

end LifeStory
