/-
**Directives of the call frame, read back.**

The directive of a rule has a word for the kind of the rule, the number of a register and an offset,
which may be negative. A reader finds these parts again: the word ends at the blank, the register at
the comma, the offset with the text. The parts are those of one rule only, so nothing that a rule
says is lost in its directive.

* `Reader.natural_digits`, `Reader.integer_text`: **decimal numbers** in front of what is no digit;
* `FrameRule.offset?_eq_some_iff`: the offsets that have 32 bits;
* `FrameRule.ofParts?_parts`: the rule of given parts; `FrameRule.parts_instruction`: **the parts of
  a directive**;
* `FrameRule.instruction_injective`: the directive of a rule tells the rule;
* `FrameRule.directive_read_back`: every rule is read back from its directive.
-/

import AsmTarget.Descriptor.EntryFrame
import AsmTarget.Proofs.Text.Boundary
import Mathlib.Logic.Function.Basic

namespace AsmTarget

open Text

/-! ### Readers of numbers -/

namespace Text.Reader

/-- Takes a number without a sign. -/
def natural : Reader Nat := do
  let taken ← takeSome Char.isDigit
  return Decimal.value taken

/-- Takes a number that has a sign when it is negative. -/
def integer : Reader Int := do
  let negative ← accept '-'
  let size ← natural
  return if negative then -(size : Int) else size

variable {rest : List Char}

/-- Characters that pass a test are taken up to one that does not. -/
theorem takeSome_append {test : Char → Bool} {text : List Char} (nonempty : text ≠ [])
    (passes : ∀ c ∈ text, test c = true) (stops : Stops test rest) :
    takeSome test (text ++ rest) = some (text, rest) := by
  have front := takeWhile_append_of_stops passes stops
  have back : (text ++ rest).dropWhile test = rest := by
    have whole := List.takeWhile_append_dropWhile (p := test) (l := text ++ rest)
    rw [front] at whole
    exact List.append_cancel_left whole
  have taken : takeWhile test (text ++ rest) = some (text, rest) := by
    rw [takeWhile, front, back]
  rw [takeSome, bind_of_read taken, if_neg (by simpa using nonempty)]
  rfl

/-- **A number without a sign** is taken up to what is no digit. -/
theorem natural_digits (n : Nat) (stops : Stops Char.isDigit rest) :
    natural (Decimal.digits n ++ rest) = some (n, rest) := by
  have taken := takeSome_append (Decimal.digits_ne_nil n)
    (fun _ => Decimal.isDigit_of_mem_digits) stops
  rw [natural, bind_of_read taken, Decimal.value_digits]
  rfl

/-- **A number with its sign** is taken up to what is no digit. -/
theorem integer_text (n : Int) (stops : Stops Char.isDigit rest) :
    integer ((Decimal.integer n).toList ++ rest) = some (n, rest) := by
  rw [Decimal.integer_toList, List.append_assoc]
  by_cases negative : n < 0
  · have sign : accept '-' (['-'] ++ (Decimal.digits n.natAbs ++ rest)) =
        some (true, Decimal.digits n.natAbs ++ rest) := rfl
    rw [if_pos negative, integer, bind_of_read sign, bind_of_read (natural_digits _ stops)]
    show some (-(n.natAbs : Int), rest) = _
    rw [Int.ofNat_natAbs_of_nonpos (Int.le_of_lt negative), Int.neg_neg]
  · have sign : accept '-' ([] ++ (Decimal.digits n.natAbs ++ rest)) =
        some (false, Decimal.digits n.natAbs ++ rest) := by
      have differs := Decimal.head?_digits_ne_minus n.natAbs rest
      cases written : Decimal.digits n.natAbs ++ rest with
      | nil => rfl
      | cons c text =>
        rw [written] at differs
        exact if_neg fun same => differs (congrArg some same)
    rw [if_neg negative, integer, bind_of_read sign, bind_of_read (natural_digits _ stops)]
    show some ((n.natAbs : Int), rest) = _
    rw [Int.natAbs_of_nonneg (Int.not_lt.mp negative)]

end Text.Reader

namespace FrameRule

/-! ### Rules and their parts -/

/-- The rules whose directives start with a word. -/
def ofWord? (word : String) : Option (UInt16 → Int32 → FrameRule) :=
  match word with
  | ".cfi_def_cfa" => some frameAddress
  | ".cfi_offset" => some saved
  | _ => none

/-- The register with a number, if there is one. -/
def register? (exact : Nat) : Option UInt16 :=
  if exact < UInt16.size then some (.ofNat exact) else none

/-- The offset of an exact size, if 32 bits are enough for it. -/
def offset? (exact : Int) : Option Int32 :=
  if Int32.minValue.toInt ≤ exact ∧ exact ≤ Int32.maxValue.toInt then some (.ofInt exact) else none

/-- The rule of a word, a register and an offset. -/
def ofParts? (word : String) (register : Nat) (offset : Int) : Option FrameRule := do
  let rule ← ofWord? word
  return rule (← register? register) (← offset? offset)

theorem register?_toNat (register : UInt16) : register? register.toNat = some register := by
  rw [register?, if_pos register.toNat_lt, UInt16.ofNat_toNat]

theorem offset?_eq_some_iff {exact : Int} {offset : Int32} :
    offset? exact = some offset ↔ offset.toInt = exact := by
  have lowest : Int32.minValue.toInt = -2 ^ 31 := rfl
  have highest : Int32.maxValue.toInt = 2 ^ 31 - 1 := rfl
  unfold offset?
  rw [lowest, highest]
  constructor
  · intro found
    split at found
    · next within =>
      cases found
      exact Int32.toInt_ofInt_of_le within.1 (by omega)
    · cases found
  · rintro rfl
    have above := offset.le_toInt
    have below := offset.toInt_lt
    rw [if_pos ⟨above, by omega⟩, Int32.ofInt_toInt]

/-- The parts of a rule are those of no other. -/
theorem ofParts?_parts (rule : FrameRule) :
    ofParts? rule.word rule.register.toNat rule.offset.toInt = some rule := by
  rw [ofParts?, register?_toNat, offset?_eq_some_iff.mpr rfl]
  cases rule <;> rfl

/-! ### Directives -/

/-- Takes the parts of a rule as its directive has them. -/
def parts : Reader (String × Nat × Int) := do
  let word ← Reader.takeSome (· != ' ')
  Reader.expect ' '
  let register ← Reader.natural
  Reader.expect ','
  Reader.expect ' '
  let offset ← Reader.integer
  return (String.ofList word, register, offset)

/-- The rule of a directive without the tabulator in front. -/
def ofInstruction? (text : List Char) : Option FrameRule := do
  let (word, register, offset) ← Reader.whole parts text
  ofParts? word register offset

/-- The rule of a directive. -/
def ofDirective? (text : String) : Option FrameRule :=
  match text.toList with
  | '\t' :: instruction => ofInstruction? instruction
  | _ => none

theorem word_mem (rule : FrameRule) : rule.word ∈ [".cfi_def_cfa", ".cfi_offset"] := by
  cases rule <;> simp [word]

/-- **The parts of a directive** are those of its rule, and nothing is left. -/
theorem parts_instruction (rule : FrameRule) :
    parts rule.instruction.toList =
      some ((rule.word, rule.register.toNat, rule.offset.toInt), []) := by
  have written : rule.instruction.toList = rule.word.toList ++ ' ' ::
      (Decimal.digits rule.register.toNat ++ ',' :: ' ' ::
        ((Decimal.integer rule.offset.toInt).toList ++ [])) := by
    simp [instruction, Decimal.natural_toList]
  have nonempty : rule.word.toList ≠ [] :=
    (by decide : ∀ word ∈ [".cfi_def_cfa", ".cfi_offset"], word.toList ≠ []) _ rule.word_mem
  have blank : ' ' ∉ rule.word.toList :=
    (by decide : ∀ word ∈ [".cfi_def_cfa", ".cfi_offset"], ' ' ∉ word.toList) _ rule.word_mem
  have solid : ∀ c ∈ rule.word.toList, (c != ' ') = true :=
    fun c member => bne_iff_ne.mpr fun same => blank (same ▸ member)
  have taken (mark : Char) (rest : List Char) :
      Reader.expect mark (mark :: rest) = some ((), rest) := if_pos rfl
  rw [written, parts,
    Reader.bind_of_read (Reader.takeSome_append nonempty solid (stops_cons rfl _)),
    Reader.bind_of_read (taken ' ' _),
    Reader.bind_of_read (Reader.natural_digits _ (stops_cons rfl _)),
    Reader.bind_of_read (taken ',' _), Reader.bind_of_read (taken ' ' _),
    Reader.bind_of_read (Reader.integer_text _ (stops_nil _)), String.ofList_toList]
  rfl

theorem ofInstruction?_instruction (rule : FrameRule) :
    ofInstruction? rule.instruction.toList = some rule := by
  rw [ofInstruction?, Reader.whole, parts_instruction]
  exact rule.ofParts?_parts

/-- **A directive tells its rule.** -/
theorem instruction_injective : Function.Injective instruction := by
  intro rule other same
  have read := rule.ofInstruction?_instruction
  rw [same, ofInstruction?_instruction, Option.some.injEq] at read
  exact read.symm

theorem ofDirective?_directive (rule : FrameRule) : ofDirective? rule.directive = some rule := by
  have written : rule.directive.toList = '\t' :: rule.instruction.toList := by
    rw [directive, String.toList_append]
    rfl
  rw [ofDirective?, written]
  exact rule.ofInstruction?_instruction

/-- **Directives are read back.** Whatever its kind, its register and its offset, a rule is found
again in its directive, and so two rules have one directive only when they are equal. -/
theorem directive_read_back (rule other : FrameRule) :
    ofDirective? rule.directive = some rule ∧
      (rule.directive = other.directive ↔ rule = other) := by
  refine ⟨rule.ofDirective?_directive, ?_⟩
  rw [directive, directive, String.append_right_inj, instruction_injective.eq_iff]

/-- The lowest offset has no opposite, but a text. -/
example : (saved 16 Int32.minValue).directive = "\t.cfi_offset 16, -2147483648" := by
  cbv

@[simp]
theorem single_instruction (rule : FrameRule) : Single rule.instruction := by
  have word : Single rule.word :=
    (by decide : ∀ word ∈ [".cfi_def_cfa", ".cfi_offset"], Single word) _ rule.word_mem
  have blank : Single " " := by decide
  have comma : Single ", " := by decide
  simp [instruction, word, blank, comma]

end FrameRule

end AsmTarget
