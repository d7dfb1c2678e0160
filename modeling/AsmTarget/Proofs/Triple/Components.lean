/-
**The components of a triple's text.**

The components of a text are what stands between its dashes once the blanks at its two ends are
left out. Here they are told by what puts the text together again, without regard to how a text is
taken apart, and every text turns out to have them in exactly one way.

* `Text.Stripped`: a text with blanks at its ends, and what stands between them;
  `Text.Stripped.trimmed`, `Text.stripped_trimmed`: this is what `trimmed` leaves;
* `Text.Divided`: a text and its words with a mark between them; `Text.Divided.split`,
  `Text.divided_split`: these are what `split` finds;
* `Triple.Components`: the components of a text; `Triple.components_iff`: **the words of a triple
  are the components of its text**.
-/

import AsmTarget.Proofs.Text.Boundary
import AsmTarget.Triple.Reading
import Mathlib.Data.List.TakeWhile

namespace AsmTarget

namespace Text

/-! ### Blanks at the ends -/

/-- A text with blanks at its ends, and what stands between them, which neither starts nor ends
with one. -/
inductive Stripped : List Char → List Char → Prop where
  | intro {before inner after : List Char} (blankBefore : ∀ c ∈ before, isBlank c = true)
    (blankAfter : ∀ c ∈ after, isBlank c = true) (starts : Stops isBlank inner)
    (ends : Stops isBlank inner.reverse) : Stripped (before ++ inner ++ after) inner

/-- Leading blanks end where something comes that is none. -/
theorem withoutLeading_append {leading rest : List Char} (blank : ∀ c ∈ leading, isBlank c = true)
    (stops : Stops isBlank rest) : withoutLeading (leading ++ rest) = rest := by
  rw [withoutLeading, List.dropWhile_append_of_pos blank]
  cases rest with
  | nil => rfl
  | cons c rest => exact List.dropWhile_cons_of_neg (by simp [stops c rfl])

/-- A text is the blanks that it starts with and what comes after them. -/
theorem exists_leading (text : List Char) :
    ∃ leading, (∀ c ∈ leading, isBlank c = true) ∧ text = leading ++ withoutLeading text :=
  ⟨text.takeWhile isBlank, fun _ => List.mem_takeWhile_imp, List.takeWhile_append_dropWhile.symm⟩

theorem stops_withoutLeading (text : List Char) : Stops isBlank (withoutLeading text) := by
  intro c first
  have stopped := List.head?_dropWhile_not isBlank text
  rw [show text.dropWhile isBlank = withoutLeading text from rfl, first] at stopped
  simpa using stopped

/-- The text without the blanks it ends with. -/
def withoutTrailing (text : List Char) : List Char :=
  (withoutLeading text.reverse).reverse

/-- A text is what comes before the blanks that it ends with, and these. -/
theorem exists_trailing (text : List Char) :
    ∃ trailing, (∀ c ∈ trailing, isBlank c = true) ∧ text = withoutTrailing text ++ trailing := by
  obtain ⟨leading, blank, backward⟩ := exists_leading text.reverse
  refine ⟨leading.reverse, by simpa using blank, ?_⟩
  rw [← List.reverse_inj, List.reverse_append, withoutTrailing, List.reverse_reverse,
    List.reverse_reverse]
  exact backward

theorem stops_reverse_withoutTrailing (text : List Char) :
    Stops isBlank (withoutTrailing text).reverse := by
  rw [withoutTrailing, List.reverse_reverse]
  exact stops_withoutLeading _

/-- **Trimming leaves what stands between the blanks.** -/
theorem Stripped.trimmed {text inner : List Char} (stripped : Stripped text inner) :
    trimmed text = inner := by
  cases stripped with
  | @intro before _ after blankBefore blankAfter starts ends =>
    have reversed : ∀ c ∈ after.reverse, isBlank c = true := by simpa using blankAfter
    rw [Text.trimmed, List.append_assoc]
    cases inner with
    | nil =>
      -- All of the text is blank.
      have blank : ∀ c ∈ before ++ after, isBlank c = true :=
        List.forall_mem_append.mpr ⟨blankBefore, blankAfter⟩
      have gone : withoutLeading (before ++ after ++ []) = [] :=
        withoutLeading_append blank (stops_nil isBlank)
      rw [List.nil_append, ← List.append_nil (before ++ after), gone]
      rfl
    | cons c rest =>
      have goesOn : Stops isBlank (c :: rest ++ after) := starts
      rw [withoutLeading_append blankBefore goesOn, List.reverse_append,
        withoutLeading_append reversed ends, List.reverse_reverse]

/-- Every text has two ends of blanks, of which either may be empty. -/
theorem stripped_trimmed (text : List Char) : Stripped text (trimmed text) := by
  obtain ⟨leading, blankLeading, whole⟩ := exists_leading text
  obtain ⟨trailing, blankTrailing, ended⟩ := exists_trailing (withoutLeading text)
  change withoutLeading text = trimmed text ++ trailing at ended
  have starts : Stops isBlank (trimmed text) := by
    intro c first
    refine stops_withoutLeading text c ?_
    rw [ended, List.head?_append, first]
    rfl
  have stripped := Stripped.intro blankLeading blankTrailing starts
    (stops_reverse_withoutTrailing (withoutLeading text))
  change Stripped (leading ++ trimmed text ++ trailing) (trimmed text) at stripped
  rwa [List.append_assoc, ← ended, ← whole] at stripped

/-! ### Words between marks -/

/-- A text that consists of words with a mark in front of each one but the first, and with no mark
in any of them. -/
structure Divided (mark : Char) (text first : List Char) (others : List (List Char)) : Prop where
  joined : first ++ others.flatMap (mark :: ·) = text
  firstFree : mark ∉ first
  othersFree : ∀ other ∈ others, mark ∉ other

section Splitting

variable {mark : Char} {text word rest : List Char} {others : List (List Char)}

theorem split_mark (rest : List Char) :
    split mark (mark :: rest) = ([], (split mark rest).1 :: (split mark rest).2) := by
  simp [split]

theorem split_other {c : Char} (notMark : c ≠ mark) (rest : List Char) :
    split mark (c :: rest) = (c :: (split mark rest).1, (split mark rest).2) := by
  simp [split, notMark]

theorem split_of_not_mem (free : mark ∉ word) : split mark word = (word, []) := by
  induction word with
  | nil => rfl
  | cons c word same =>
    obtain ⟨notMark, others⟩ := List.ne_and_not_mem_of_not_mem_cons free
    rw [split_other notMark.symm, same others]

theorem split_append (free : mark ∉ word) :
    split mark (word ++ mark :: rest) = (word, (split mark rest).1 :: (split mark rest).2) := by
  induction word with
  | nil => exact split_mark rest
  | cons c word same =>
    obtain ⟨notMark, others⟩ := List.ne_and_not_mem_of_not_mem_cons free
    rw [List.cons_append, split_other notMark.symm, same others]

/-- **Words that are put together with a mark between them are found again.** -/
theorem Divided.split (divided : Divided mark text word others) :
    split mark text = (word, others) := by
  obtain ⟨rfl, free, allFree⟩ := divided
  induction others generalizing word with
  | nil => rw [List.flatMap_nil, List.append_nil, split_of_not_mem free]
  | cons next others found =>
    obtain ⟨nextFree, othersFree⟩ := List.forall_mem_cons.mp allFree
    rw [List.flatMap_cons, List.cons_append, split_append free, found nextFree othersFree]

theorem split_free (mark : Char) (text : List Char) :
    mark ∉ (split mark text).1 ∧ ∀ other ∈ (split mark text).2, mark ∉ other := by
  induction text with
  | nil => exact ⟨List.not_mem_nil, nofun⟩
  | cons c rest free =>
    obtain ⟨firstFree, othersFree⟩ := free
    by_cases here : c = mark
    · rw [here, split_mark]
      exact ⟨List.not_mem_nil, List.forall_mem_cons.mpr ⟨firstFree, othersFree⟩⟩
    · rw [split_other here]
      exact ⟨List.not_mem_cons_of_ne_of_not_mem (Ne.symm here) firstFree, othersFree⟩

/-- Every text consists of words. -/
theorem divided_split (mark : Char) (text : List Char) :
    Divided mark text (split mark text).1 (split mark text).2 :=
  ⟨split_joined mark text, (split_free mark text).1, (split_free mark text).2⟩

end Splitting

end Text

/-! ### Components -/

namespace Triple

/-- The components of a text, the first one apart: what dashes separate in the text without the
blanks at its ends. -/
def Components (text first : String) (others : List String) : Prop :=
  ∃ inner, Text.Stripped text.toList inner ∧
    Text.Divided '-' inner first.toList (others.map String.toList)

theorem components_words (text : String) : Components text (words text).1 (words text).2 := by
  refine ⟨_, Text.stripped_trimmed text.toList, ?_⟩
  have divided := Text.divided_split '-' (Text.trimmed text.toList)
  simpa [words, Function.comp_def] using divided

/-- **The words of a triple are the components of its text.** -/
theorem components_iff {text first : String} {others : List String} :
    Components text first others ↔ words text = (first, others) := by
  constructor
  · rintro ⟨inner, stripped, divided⟩
    rw [words, stripped.trimmed, divided.split]
    simp [Function.comp_def]
  · intro found
    have components := components_words text
    rwa [found] at components

end Triple

end AsmTarget
