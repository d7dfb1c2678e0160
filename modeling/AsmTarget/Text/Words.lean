/-
**Words of a text.**

* `startsWith`: whether a text starts with another one; `startsWith_comparable`: two starts of one
  text start each other;
* `Apart`: texts neither of which starts the other, so that no text starts with both;
* `isBlank`: the characters with the Unicode property White_Space;
* `trimmed`: a text without the blanks at its two ends;
* `split`: the words of a text between the places of a mark, the first one apart, since there is
  always a first one; `split_joined`: the words give the text again.
-/

namespace AsmTarget.Text

/-- Whether a text starts with another one. -/
def startsWith (text start : String) : Bool :=
  start.toList.isPrefixOf text.toList

theorem startsWith_iff {text start : String} :
    startsWith text start = true ↔ start.toList <+: text.toList :=
  List.isPrefixOf_iff_prefix

/-- Of two starts of one text, one starts the other. -/
theorem startsWith_comparable {text first second : String}
    (byFirst : startsWith text first = true) (bySecond : startsWith text second = true) :
    startsWith first second = true ∨ startsWith second first = true := by
  simp only [startsWith_iff] at *
  exact (List.prefix_or_prefix_of_prefix byFirst bySecond).symm

theorem startsWith_append (start rest : String) : startsWith (start ++ rest) start = true := by
  rw [startsWith_iff, String.toList_append]
  exact List.prefix_append _ _

/-- Neither of two texts starts with the other. -/
def Apart (first second : String) : Prop :=
  startsWith first second = false ∧ startsWith second first = false

instance (first second : String) : Decidable (Apart first second) :=
  inferInstanceAs (Decidable (_ ∧ _))

/-- A text that starts with one of two that are apart does not start with the other. -/
theorem Apart.excludes {text first second : String} (apart : Apart first second)
    (begins : startsWith text first = true) : startsWith text second = false := by
  rw [Bool.eq_false_iff]
  intro also
  rcases startsWith_comparable begins also with longer | shorter
  · rw [apart.1] at longer
    cases longer
  · rw [apart.2] at shorter
    cases shorter

/-- The twenty-five characters that Unicode calls white space. -/
def isBlank (c : Char) : Bool :=
  let code := c.toNat
  (9 ≤ code && code ≤ 13) || code == 0x20 || code == 0x85 || code == 0xA0 || code == 0x1680 ||
    (0x2000 ≤ code && code ≤ 0x200A) || code == 0x2028 || code == 0x2029 || code == 0x202F ||
    code == 0x205F || code == 0x3000

/-- The text without the blanks it starts with. -/
def withoutLeading (text : List Char) : List Char :=
  text.dropWhile isBlank

/-- The text without the blanks at its two ends. -/
def trimmed (text : List Char) : List Char :=
  (withoutLeading (withoutLeading text).reverse).reverse

/-- The first word of a text and the words after it, as a mark separates them. -/
def split (mark : Char) : List Char → List Char × List (List Char)
  | [] => ([], [])
  | c :: rest =>
    let (word, words) := split mark rest
    if c = mark then ([], word :: words) else (c :: word, words)

/-- Words of a text put together with the mark between them are the text. -/
theorem split_joined (mark : Char) (text : List Char) :
    (split mark text).1 ++ (split mark text).2.flatMap (mark :: ·) = text := by
  induction text with
  | nil => rfl
  | cons c rest same =>
    by_cases here : c = mark
    · simp [split, here, same]
    · simpa [split, here] using same

end AsmTarget.Text
