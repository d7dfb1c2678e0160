/-
**The call frame at the entry of a function.**

A call leaves the return address on top of the stack. So the canonical frame address is one slot
above the stack pointer, and the return address is saved one slot below the frame address.

* `FrameRule`: a rule of call-frame information, with its directive;
* `Descriptor.frameRegisters`: the numbers of the two registers in exception tables;
* `Descriptor.entryFrame`: the rules that every function starts with.
-/

import AsmTarget.Descriptor
import AsmTarget.Text.Decimal

namespace AsmTarget

/-- A rule of call-frame information. -/
inductive FrameRule where
  /-- The frame address is a register plus an offset. -/
  | frameAddress (register : UInt16) (offset : Int32)
  /-- A register is saved at an offset from the frame address. -/
  | saved (register : UInt16) (offset : Int32)
  deriving DecidableEq, Repr

namespace FrameRule

/-- How the kind of a rule is written in structured data. -/
def tag : FrameRule → String
  | frameAddress .. => "def-cfa"
  | saved .. => "offset"

/-- The register of a rule. -/
def register : FrameRule → UInt16
  | frameAddress register _ | saved register _ => register

/-- The offset of a rule. -/
def offset : FrameRule → Int32
  | frameAddress _ offset | saved _ offset => offset

/-- The word that starts the directive of a rule. -/
def word : FrameRule → String
  | frameAddress .. => ".cfi_def_cfa"
  | saved .. => ".cfi_offset"

/-- The directive without the tabulator in front. -/
def instruction (rule : FrameRule) : String :=
  rule.word ++ " " ++ Text.Decimal.natural rule.register.toNat ++ ", " ++
    Text.Decimal.integer rule.offset.toInt

/-- The directive as it stands in assembly text. -/
def directive (rule : FrameRule) : String :=
  "\t" ++ rule.instruction

end FrameRule

/-- The numbers of two registers in exception tables. -/
structure FrameRegisters where
  stackPointer : UInt16
  returnAddress : UInt16
  deriving DecidableEq, Repr

namespace Descriptor

/-- The register numbers of a target. The 32-bit Darwin tables swap those of the stack pointer and
the frame pointer. -/
def frameRegisters (descriptor : Descriptor) : FrameRegisters :=
  if descriptor.triple.architecture.is64Bit then ⟨7, 16⟩
  else if descriptor.flavor = .darwin32 then ⟨5, 8⟩
  else ⟨4, 8⟩

/-- The rules that hold at the entry of every function. The slot size counts as a signed number
of 32 bits. -/
def entryFrame (descriptor : Descriptor) : List FrameRule :=
  let registers := descriptor.frameRegisters
  let slot := descriptor.slotSize.toInt32
  [.frameAddress registers.stackPointer slot, .saved registers.returnAddress (-slot)]

end Descriptor

end AsmTarget
