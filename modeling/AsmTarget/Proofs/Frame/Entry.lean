/-
**The call frame of built descriptors.**

The slot size of a descriptor has no sign. In the call frame its 32 bits count as a signed number,
and once more with the opposite sign. One number of 32 bits has no opposite, and a built descriptor
does not have it. Apart from the slot size, the frame shows two register numbers, which go by the
width of the target and, on narrow ones, by whether it is a Darwin.

* `Descriptor.entryFrame?`: the call frame with the second offset checked;
  `Descriptor.entryFrame?_eq_some_iff`: **when the check passes**;
* `FrameClass`, `Descriptor.Built.frameRegisters_eq_iff`: the targets with the same registers;
* `Descriptor.HasOffsets`: the two rules of a frame and the exact sizes of their offsets;
* `Descriptor.Built.entryFrame_exact`: all of it, for built descriptors and pairs of them.
-/

import AsmTarget.Proofs.Descriptor.Built
import AsmTarget.Proofs.Frame.Directive
import Mathlib.Data.Int.ModEq

namespace AsmTarget

/-! ### Slot sizes as signed numbers -/

/-- The signed number and the slot size agree in all their bits. -/
theorem slot_toInt_modEq (slot : UInt32) : slot.toInt32.toInt ≡ slot.toNat [ZMOD 2 ^ 32] := by
  show slot.toBitVec.toInt % 2 ^ 32 = _
  rw [BitVec.toInt_eq_toNat_bmod]
  exact Int.bmod_emod

theorem slot_toInt32_injective : Function.Injective UInt32.toInt32 :=
  fun _ _ same => congrArg Int32.toUInt32 same

/-- **One slot size has no opposite**, and for all others the opposite is exact. -/
theorem toInt_neg_slot_iff {slot : UInt32} :
    (-slot.toInt32).toInt = -slot.toInt32.toInt ↔ slot ≠ 0x80000000 := by
  constructor
  · rintro same rfl
    exact absurd same (by decide)
  · intro differs
    have lowest : (0x80000000 : UInt32).toInt32.toInt = -2 ^ 31 := by decide
    have inside : slot.toInt32.toInt ≠ -2 ^ 31 := fun same =>
      differs (slot_toInt32_injective (Int32.toInt_inj.mp (same.trans lowest.symm)))
    have above := slot.toInt32.le_toInt
    have below := slot.toInt32.toInt_lt
    rw [Int32.toInt_neg]
    exact Int.bmod_eq_of_le (by omega) (by omega)

namespace Descriptor

variable {descriptor first second : Descriptor}

/-! ### The check -/

/-- The call frame, unless the offset below the frame address needs more than 32 bits. -/
def entryFrame? (descriptor : Descriptor) : Option (List FrameRule) :=
  let registers := descriptor.frameRegisters
  let slot := descriptor.slotSize.toInt32
  (FrameRule.offset? (-slot.toInt)).map fun below =>
    [.frameAddress registers.stackPointer slot, .saved registers.returnAddress below]

/-- **The check passes**, and changes nothing, for every slot size but one. -/
theorem entryFrame?_eq_some_iff :
    descriptor.entryFrame? = some descriptor.entryFrame ↔ descriptor.slotSize ≠ 0x80000000 := by
  rw [← toInt_neg_slot_iff, ← FrameRule.offset?_eq_some_iff]
  unfold entryFrame? entryFrame
  simp only [Option.map_eq_some_iff, List.cons.injEq, FrameRule.saved.injEq, true_and, and_true,
    exists_eq_right]

theorem Built.slotSize_ne (built : descriptor.Built) : descriptor.slotSize ≠ 0x80000000 := by
  cases built with
  | build requested triple settings fits => exact fits

/-! ### The offsets -/

/-- The call frame puts the frame address at one distance from the stack pointer, and the return
address at another one from the frame address. -/
def HasOffsets (descriptor : Descriptor) (above below : Int) : Prop :=
  ∃ first second : Int32, first.toInt = above ∧ second.toInt = below ∧
    descriptor.entryFrame = [.frameAddress descriptor.frameRegisters.stackPointer first,
      .saved descriptor.frameRegisters.returnAddress second]

/-- The offsets are opposite numbers. -/
theorem hasOffsets_of_ne (fits : descriptor.slotSize ≠ 0x80000000) :
    descriptor.HasOffsets descriptor.slotSize.toInt32.toInt
      (-descriptor.slotSize.toInt32.toInt) :=
  ⟨_, _, rfl, toInt_neg_slot_iff.mpr fits, rfl⟩

/-- A slot that comes with the target is as large as a pointer. -/
theorem hasOffsets_build (requested : Flavor) (triple : Triple) (settings : Settings) :
    let size : Int := if triple.architecture.is64Bit then 8 else 4
    (build requested triple settings).pointerSize.toNat = size ∧
      (build requested triple settings).HasOffsets size (-size) := by
  intro size
  have pointer : ((build requested triple settings).pointerSize.toNat : Int) = size := by
    show ((if triple.architecture.is64Bit then 8 else 4 : UInt32).toNat : Int) = size
    unfold size
    split <;> rfl
  have slot : (build requested triple settings).slotSize.toInt32.toInt = size := by
    show (if triple.architecture.is64Bit then 8 else 4 : UInt32).toInt32.toInt = size
    unfold size
    split <;> rfl
  have offsets := hasOffsets_of_ne (built_build requested triple settings).slotSize_ne
  rw [slot] at offsets
  exact ⟨pointer, offsets⟩

end Descriptor

/-! ### The registers -/

/-- The targets whose exception tables number the two registers in the same way. -/
inductive FrameClass where
  /-- All targets of 64 bits. -/
  | wide
  /-- Darwin on other targets. -/
  | darwin
  /-- Everything else. -/
  | narrow
  deriving DecidableEq, Repr

namespace FrameClass

/-- The descriptors of a class. -/
def Has (descriptor : Descriptor) : FrameClass → Prop
  | wide => descriptor.triple.architecture.is64Bit = true
  | darwin => descriptor.flavor = .darwin32
  | narrow => descriptor.triple.architecture.is64Bit = false ∧ descriptor.flavor ≠ .darwin32

/-- The numbers of the registers in a class. -/
def registers : FrameClass → FrameRegisters
  | wide => ⟨7, 16⟩
  | darwin => ⟨5, 8⟩
  | narrow => ⟨4, 8⟩

theorem registers_injective : Function.Injective registers := by
  intro one other same
  cases one <;> cases other <;> simp_all [registers]

theorem exists_has (descriptor : Descriptor) : ∃ kind : FrameClass, kind.Has descriptor := by
  cases width : descriptor.triple.architecture.is64Bit with
  | true => exact ⟨wide, width⟩
  | false =>
    by_cases flavor : descriptor.flavor = .darwin32
    · exact ⟨darwin, flavor⟩
    · exact ⟨narrow, width, flavor⟩

end FrameClass

namespace Descriptor.Built

variable {descriptor first second : Descriptor}

/-- The narrow Darwin flavor is never that of a 64-bit target. -/
theorem is64Bit_of_darwin32 (built : descriptor.Built) (flavor : descriptor.flavor = .darwin32) :
    descriptor.triple.architecture.is64Bit = false := by
  cases built with
  | build requested triple settings fits =>
    show triple.architecture.is64Bit = false
    change requested.adapted triple.architecture = .darwin32 at flavor
    rw [Bool.eq_false_iff]
    intro wide
    cases requested <;> simp [Flavor.adapted, Flavor.darwin, wide] at flavor

theorem frameRegisters_of_has (built : descriptor.Built) {kind : FrameClass}
    (has : kind.Has descriptor) : descriptor.frameRegisters = kind.registers := by
  unfold frameRegisters
  cases kind with
  | wide => exact if_pos has
  | darwin =>
    rw [if_neg (by simp [built.is64Bit_of_darwin32 has])]
    exact if_pos has
  | narrow =>
    rw [if_neg (by simp [has.1])]
    exact if_neg has.2

/-- **The registers** are the same in one class, and in no two. -/
theorem frameRegisters_eq_iff (built : first.Built) (otherBuilt : second.Built) :
    first.frameRegisters = second.frameRegisters ↔
      ∃ kind : FrameClass, kind.Has first ∧ kind.Has second := by
  constructor
  · intro same
    obtain ⟨kind, has⟩ := FrameClass.exists_has first
    obtain ⟨other, otherHas⟩ := FrameClass.exists_has second
    rw [built.frameRegisters_of_has has, otherBuilt.frameRegisters_of_has otherHas] at same
    obtain rfl := FrameClass.registers_injective same
    exact ⟨kind, has, otherHas⟩
  · rintro ⟨kind, has, otherHas⟩
    rw [built.frameRegisters_of_has has, otherBuilt.frameRegisters_of_has otherHas]

end Descriptor.Built

namespace Descriptor

variable {first second : Descriptor}

/-! ### Frames of pairs -/

theorem entryFrame_eq_iff : first.entryFrame = second.entryFrame ↔
    first.slotSize = second.slotSize ∧ first.frameRegisters = second.frameRegisters := by
  constructor
  · intro same
    unfold entryFrame at same
    simp only [List.cons.injEq, FrameRule.frameAddress.injEq, FrameRule.saved.injEq] at same
    obtain ⟨⟨pointers, slots⟩, ⟨addresses, -⟩, -⟩ := same
    refine ⟨slot_toInt32_injective slots, ?_⟩
    rcases registers : first.frameRegisters with ⟨pointer, address⟩
    rcases others : second.frameRegisters with ⟨pointer', address'⟩
    rw [registers, others] at pointers addresses
    exact congrArg₂ FrameRegisters.mk pointers addresses
  · rintro ⟨slots, registers⟩
    rw [entryFrame, entryFrame, slots, registers]

/-- **The call frame at the entry of a function, of built descriptors.** Its offsets have 32 bits.
They are opposite numbers, the one above the stack pointer congruent to the slot size, and as large
as a pointer where the slot size has been left alone. The class of the target says the registers,
and two frames are the same exactly for the same slot size and targets of one class. -/
theorem Built.entryFrame_exact (built : first.Built) (otherBuilt : second.Built) :
    first.entryFrame? = some first.entryFrame ∧
      (∃ above : Int, first.HasOffsets above (-above) ∧
        above ≡ first.slotSize.toNat [ZMOD 2 ^ 32]) ∧
      (∀ requested triple settings,
        let untouched := Descriptor.build requested triple settings
        let size : Int := if triple.architecture.is64Bit then 8 else 4
        untouched.pointerSize.toNat = size ∧ untouched.HasOffsets size (-size)) ∧
      (∀ kind : FrameClass, kind.Has first → first.frameRegisters = kind.registers) ∧
      (first.entryFrame = second.entryFrame ↔ first.slotSize = second.slotSize ∧
        ∃ kind : FrameClass, kind.Has first ∧ kind.Has second) := by
  refine ⟨entryFrame?_eq_some_iff.mpr built.slotSize_ne, ?offsets, hasOffsets_build,
    fun _ => built.frameRegisters_of_has, ?pairs⟩
  case offsets =>
    exact ⟨_, hasOffsets_of_ne built.slotSize_ne, slot_toInt_modEq first.slotSize⟩
  case pairs =>
    rw [entryFrame_eq_iff, built.frameRegisters_eq_iff otherBuilt]

/-- A slot of almost four gigabytes counts as `-16`. On 32-bit targets, Darwin has a frame of its
own for it. -/
theorem Built.entryFrame_exact_darwin :
    let darwin := { ofTriple ⟨.x86, .apple, .darwin, .unknown⟩ default with slotSize := 0xFFFFFFF0 }
    let linux := { ofTriple ⟨.x86, .pc, .linux, .gnu⟩ default with slotSize := 0xFFFFFFF0 }
    darwin.Built ∧ linux.Built ∧ darwin.entryFrame? = some [.frameAddress 5 (-16), .saved 8 16] ∧
      darwin.entryFrame ≠ linux.entryFrame := by
  intro darwin linux
  have built : darwin.Built := built_ofTriple _ default (by decide : (0xFFFFFFF0 : UInt32) ≠ _)
  have otherBuilt : linux.Built := built_ofTriple _ default (by decide : (0xFFFFFFF0 : UInt32) ≠ _)
  obtain ⟨checked, -, -, -, pairs⟩ := entryFrame_exact built otherBuilt
  refine ⟨built, otherBuilt, checked.trans (by decide), fun same => ?_⟩
  obtain ⟨-, kind, has, otherHas⟩ := pairs.mp same
  cases kind with
  | wide => exact absurd has (by decide : ¬ false = true)
  | darwin => exact absurd otherHas (by decide : ¬ Flavor.elf = .darwin32)
  | narrow => exact has.2 rfl

end Descriptor

end AsmTarget
