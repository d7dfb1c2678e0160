/-
**The text of a TOML line says what the line is for.**

* `Toml.escaping`: how a character is written; `Toml.Quoted.basic_basicString`,
  `Toml.Reading.value_basicString`: a string in quotes is read back, as a string and as a value;
* `Toml.basicString_injective`, `Toml.stringLine_inj`, `Toml.naturalLine_inj`: what is written with
  a key is told by the line;
* `Toml.single_basicString`, `Toml.single_line`: such a line is a single one, whatever the string.
-/

import AsmTarget.Proofs.Text.Boundary
import AsmTarget.Proofs.Text.Escape
import AsmTarget.Toml.Reading
import Mathlib.Tactic.SplitIfs

namespace AsmTarget.Toml

open Text

/-! ### Strings -/

/-- How TOML writes characters. -/
def escaping : Escaping where
  marks := [('\"', '\"'), ('\\', '\\'), ('b', '\x08'), ('t', '\t'), ('n', '\n'), ('f', '\x0c'),
    ('r', '\r')]
  isCoded c := c.toNat < 32 ∨ c.toNat = 127
  digit := Hexadecimal.capital

theorem written_escape (c : Char) : escaping.Written c (escape c) := by
  have same : escape c = escaping.write c := by
    simp only [Escaping.write, escaping, decide_eq_true_eq]
    rfl
  exact same ▸ escaping.written_write c

/-- A character that stands for itself is neither a quote, a backslash nor the end of a line. -/
theorem of_unmarked {c : Char} (unmarked : ∀ entry ∈ escaping.marks, c ≠ entry.2) :
    c ≠ '\"' ∧ c ≠ '\\' ∧ c ≠ '\n' :=
  ⟨unmarked ('\"', '\"') (by decide), unmarked ('\\', '\\') (by decide),
    unmarked ('n', '\n') (by decide)⟩

theorem lt_of_isCoded {c : Char} (isCoded : escaping.isCoded c = true) : c.toNat < 128 := by
  have control : c.toNat < 32 ∨ c.toNat = 127 := of_decide_eq_true isCoded
  omega

theorem escape_head (c : Char) : ∃ first rest, escape c = first :: rest ∧ first ≠ '\"' := by
  cases written_escape c with
  | marked _ written | coded _ written => exact ⟨_, _, written, by decide⟩
  | plain unmarked _ written => exact ⟨_, _, written, (of_unmarked unmarked).1⟩

theorem basicString_toList (text : String) :
    (basicString text).toList = '\"' :: (text.toList.flatMap escape ++ ['\"']) :=
  String.toList_ofList

namespace Quoted

theorem coded_code {c : Char} (control : c.toNat < 128) (rest : List Char) :
    coded 4 ('0' :: '0' :: Hexadecimal.capital (c.toNat / 16) ::
      Hexadecimal.capital (c.toNat % 16) :: rest) = some (c, rest) := by
  have code : Hexadecimal.value? ['0', '0', Hexadecimal.capital (c.toNat / 16),
      Hexadecimal.capital (c.toNat % 16)] = some c.toNat :=
    Hexadecimal.value?_octet (Hexadecimal.digitValue?_capital (c.toNat / 16) (by omega))
      (Hexadecimal.digitValue?_capital (c.toNat % 16) (by omega))
  have valid : character? c.toNat = some c := by
    rw [character?, if_pos (.inl (by omega)), Char.ofNat_toNat]
  show ((Hexadecimal.value? ['0', '0', Hexadecimal.capital (c.toNat / 16),
    Hexadecimal.capital (c.toNat % 16)]).bind character?).elim Reader.refuse pure rest = _
  rw [code, Option.bind_some, valid]
  rfl

theorem basicPiece_escape (c : Char) (rest : List Char) :
    basicPiece (escape c ++ rest) = some (some c, rest) := by
  cases written_escape c with
  | marked entry written =>
    rw [written]
    simp only [escaping, List.mem_cons, Prod.mk.injEq, List.not_mem_nil, or_false] at entry
    rcases entry with ⟨rfl, rfl⟩ | ⟨rfl, rfl⟩ | ⟨rfl, rfl⟩ | ⟨rfl, rfl⟩ | ⟨rfl, rfl⟩ |
      ⟨rfl, rfl⟩ | ⟨rfl, rfl⟩ <;> rfl
  | coded isCoded written =>
    rw [written]
    show (Quoted.coded 4 ('0' :: '0' :: Hexadecimal.capital (c.toNat / 16) ::
      Hexadecimal.capital (c.toNat % 16) :: rest)).bind _ = _
    rw [coded_code (lt_of_isCoded isCoded), Option.bind_some]
    rfl
  | plain unmarked uncoded written =>
    obtain ⟨notQuote, notBackslash, -⟩ := of_unmarked unmarked
    have shown : ¬(c.toNat < 32 ∨ c.toNat = 127) := of_decide_eq_false uncoded
    have plain : isPlain c = true := by
      rw [isPlain, Bool.or_eq_true]
      right
      simpa using shown
    rw [written]
    show (if c = '\"' then _ else if c = '\\' then _ else if isPlain c = true then _ else _ :
      Reader (Option Char)) rest = _
    rw [if_neg notQuote, if_neg notBackslash, if_pos plain]
    rfl

/-- **A string in quotes is read back**, up to the quote that ends it. -/
theorem basic_basicString (text : String) (rest : List Char) :
    basic ((basicString text).toList ++ rest) = some (text, rest) := by
  have quote (rest : List Char) : basicPiece ('\"' :: rest) = some (none, rest) := rfl
  have pieces := Reader.repeated_flatMap basicPiece_escape quote
    (fun c => (written_escape c).ne_nil) text.toList rest
  rw [basicString_toList, List.cons_append, List.append_assoc, List.singleton_append]
  show (Reader.repeated basicPiece (text.toList.flatMap escape ++ '\"' :: rest)).bind
    (fun (taken, rest) => some (String.ofList taken, rest)) = _
  rw [pieces, Option.bind_some, List.map_id']
  show some (String.ofList text.toList, rest) = _
  rw [String.ofList_toList]

/-- A string on one line does not start like one between triple quotes. -/
theorem length_quotes_lt (text : String) {rest : List Char} (stops : Stops (· == '\"') rest) :
    (((basicString text).toList ++ rest).takeWhile (· == '\"')).length < 3 := by
  rw [basicString_toList]
  cases text.toList with
  | nil =>
    show ((['\"', '\"'] ++ rest).takeWhile (· == '\"')).length < 3
    rw [takeWhile_append_of_stops (by simp) stops]
    decide
  | cons c text =>
    obtain ⟨first, others, written, notQuote⟩ := escape_head c
    simp [written, notQuote]

theorem reader_basicString (text : String) {rest : List Char} (stops : Stops (· == '\"') rest) :
    reader '\"' ((basicString text).toList ++ rest) = some (text, rest) := by
  have choice (letters : List Char) : reader '\"' letters =
      if 3 ≤ (letters.takeWhile (· == '\"')).length then longBasic letters else basic letters := by
    show (if 3 ≤ (letters.takeWhile (· == '\"')).length then longBasic else basic) letters = _
    split_ifs <;> rfl
  rw [choice, if_neg (Nat.not_le_of_lt (length_quotes_lt text stops)), basic_basicString]

end Quoted

theorem Reading.value_basicString (limit : Nat) (text : String) {rest : List Char}
    (stops : Stops (· == '\"') rest) :
    value limit ((basicString text).toList ++ rest) = some (.string text, rest) := by
  have read := Quoted.reader_basicString text stops
  rw [basicString_toList, List.cons_append] at read ⊢
  generalize text.toList.flatMap escape ++ ['\"'] ++ rest = letters at read ⊢
  have ahead : Reader.peek? ('\"' :: letters) = some (some '\"', '\"' :: letters) := rfl
  have simple : simple ('\"' :: letters) = some (.string text, rest) := by
    rw [simple, Reader.bind_of_read ahead]
    exact Reader.bind_of_read read
  cases limit with
  | zero => exact simple
  | succ limit =>
    rw [value, Reader.bind_of_read ahead]
    exact simple

theorem basicString_injective : Function.Injective basicString := by
  intro text other same
  have read := Quoted.basic_basicString text []
  rw [same, Quoted.basic_basicString, Option.some.injEq, Prod.mk.injEq] at read
  exact read.1.symm

/-! ### Lines -/

theorem line_inj {key value other : String} : line key value = line key other ↔ value = other :=
  String.append_right_inj _

theorem stringLine_inj {key value other : String} :
    stringLine key value = stringLine key other ↔ value = other :=
  line_inj.trans basicString_injective.eq_iff

theorem naturalLine_inj {key : String} {value other : Nat} :
    naturalLine key value = naturalLine key other ↔ value = other :=
  line_inj.trans Decimal.natural_injective.eq_iff

theorem newLine_not_mem_escape (c : Char) : '\n' ∉ escape c := by
  cases written_escape c with
  | marked entry written =>
    have differs : ∀ entry ∈ escaping.marks, '\n' ∉ ['\\', entry.1] := by decide
    rw [written]
    exact differs _ entry
  | coded isCoded written =>
    have digit : ∀ n < 16, '\n' ≠ Hexadecimal.capital n := by decide
    have small := lt_of_isCoded isCoded
    have high := digit (c.toNat / 16) (by omega)
    have low := digit (c.toNat % 16) (by omega)
    simp [written, Escaping.code, escaping, high, low]
  | plain unmarked _ written =>
    obtain ⟨-, -, notNewLine⟩ := of_unmarked unmarked
    rw [written]
    exact fun member => notNewLine (List.mem_singleton.mp member).symm

@[simp]
theorem single_basicString (text : String) : Single (basicString text) :=
  single_quotes newLine_not_mem_escape text

@[simp]
theorem single_line {key value : String} : Single (line key value) ↔ Single key ∧ Single value := by
  have between : Single " = " := by decide
  simp [line, between]

@[simp]
theorem single_stringLine {key value : String} : Single (stringLine key value) ↔ Single key := by
  simp [stringLine]

theorem single_of_mem_stringLine? {key line : String} {value : Option String}
    (member : line ∈ stringLine? key value) (name : Single key) : Single line := by
  obtain ⟨text, -, rfl⟩ := List.mem_map.mp member
  exact single_stringLine.mpr name

@[simp]
theorem single_naturalLine {key : String} {value : Nat} :
    Single (naturalLine key value) ↔ Single key := by
  simp [naturalLine]

@[simp]
theorem single_booleanLine {key : String} {value : Bool} :
    Single (booleanLine key value) ↔ Single key := by
  have text : Single (booleanText value) := by cases value <;> decide
  simp [booleanLine, text]

end AsmTarget.Toml
