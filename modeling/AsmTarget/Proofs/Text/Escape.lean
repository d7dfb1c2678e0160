/-
**How a character stands between quotes.**

Formats with quoted strings write characters in three ways: some have a mark that stands for them
after a backslash, some others are told by their code in hexadecimal digits, and the rest stand for
themselves. Formats differ in their marks, in the characters told by their code, and in the digits.

* `Escaping`: what a format has of its own; `Escaping.write`: how it writes a character;
* `Escaping.Written`: the three ways; `Escaping.written_write`: **each character is written in one
  of them**, so that no character is written as nothing.
-/

import Mathlib.Tactic.SplitIfs

namespace AsmTarget.Text

/-- What a format has of its own: marks with the characters that they stand for, which of the other
characters are told by their code, and the digits of codes. -/
structure Escaping where
  marks : List (Char × Char)
  isCoded : Char → Bool
  digit : Nat → Char

namespace Escaping

variable {escaping : Escaping} {c : Char} {text : List Char}

/-- The code of a character, which is below 256. -/
def code (escaping : Escaping) (c : Char) : List Char :=
  ['\\', 'u', '0', '0', escaping.digit (c.toNat / 16), escaping.digit (c.toNat % 16)]

/-- The first mark for a character, or else what is left for characters without one. -/
def markedOr (c : Char) (otherwise : List Char) : List (Char × Char) → List Char
  | [] => otherwise
  | (mark, marked) :: marks => if c = marked then ['\\', mark] else markedOr c otherwise marks

/-- How a format writes a character. -/
def write (escaping : Escaping) (c : Char) : List Char :=
  markedOr c (if escaping.isCoded c then escaping.code c else [c]) escaping.marks

/-- The three ways to write a character. -/
inductive Written (escaping : Escaping) (c : Char) (text : List Char) : Prop where
  | marked {mark : Char} (entry : (mark, c) ∈ escaping.marks) (written : text = ['\\', mark])
  | coded (isCoded : escaping.isCoded c = true) (written : text = escaping.code c)
  | plain (unmarked : ∀ entry ∈ escaping.marks, c ≠ entry.2) (uncoded : escaping.isCoded c = false)
    (written : text = [c])

theorem markedOr_eq (c : Char) (otherwise : List Char) (marks : List (Char × Char)) :
    (∃ mark, (mark, c) ∈ marks ∧ markedOr c otherwise marks = ['\\', mark]) ∨
      (∀ entry ∈ marks, c ≠ entry.2) ∧ markedOr c otherwise marks = otherwise := by
  induction marks with
  | nil => exact .inr ⟨nofun, rfl⟩
  | cons entry marks found =>
    rw [markedOr]
    by_cases here : c = entry.2
    · rw [if_pos here]
      exact .inl ⟨entry.1, by simp [here], rfl⟩
    · rw [if_neg here]
      rcases found with ⟨mark, member, written⟩ | ⟨unmarked, written⟩
      · exact .inl ⟨mark, List.mem_cons_of_mem entry member, written⟩
      · exact .inr ⟨List.forall_mem_cons.mpr ⟨here, unmarked⟩, written⟩

theorem written_write (escaping : Escaping) (c : Char) : escaping.Written c (escaping.write c) := by
  rcases markedOr_eq c _ escaping.marks with ⟨mark, entry, written⟩ | ⟨unmarked, written⟩
  · exact .marked entry written
  · rw [write, written]
    split_ifs with isCoded
    · exact .coded isCoded rfl
    · exact .plain unmarked (Bool.eq_false_iff.mpr isCoded) rfl

theorem Written.ne_nil (written : escaping.Written c text) : text ≠ [] := by
  cases written with
  | marked _ written | coded _ written | plain _ _ written => simp [written, code]

end Escaping

end AsmTarget.Text
