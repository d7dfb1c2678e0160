/-
**A descriptor put together in steps.**

The fields of a descriptor can be set in another way than one by one: all targets start alike, an
object-file format has defaults of its own, and a flavor adjusts what is left to it, looking at the
triple where the width counts. Later steps overwrite earlier ones. What comes out is the descriptor
that the rules of the single fields give.

* `Descriptor.outset`: what all targets start with;
* `Descriptor.withMachODefaults`, `Descriptor.withCoffDefaults`: the defaults of two formats;
* `Descriptor.asDarwin`, `Descriptor.asElf`, `Descriptor.asMicrosoft`, `Descriptor.asGnuCoff`: the
  adjustments of the flavors;
* `Descriptor.build_eq_assembled`: **the steps and the rules agree** on every field.
-/

import AsmTarget.Descriptor.Build

namespace AsmTarget

namespace Descriptor

/-! ### The steps -/

/-- What all targets start with: nothing that only some formats have. -/
def outset (flavor : Flavor) (triple : Triple) (settings : Settings) : Descriptor :=
  let size : UInt32 := if triple.architecture.is64Bit then 8 else 4
  { flavor
    pointerSize := size
    slotSize := size
    comment := "#"
    alignFill := noOperation
    privatePrefix := "L"
    globalPrefix := ""
    locationCounter := "$"
    weakReference := none
    data8 := "\t.byte\t"
    data16 := "\t.short\t"
    data32 := "\t.long\t"
    data64 := some "\t.quad\t"
    hasLeb128 := false
    hasDebugInfo := false
    hasInlineInfoSection := false
    exceptions := .none
    dialect := settings.dialect
    triple
    aliases := .x86 }

variable (descriptor : Descriptor)

/-- The defaults of Mach-O. -/
def withMachODefaults : Descriptor :=
  { descriptor with globalPrefix := "_", weakReference := some "\t.weak_reference " }

/-- The defaults of COFF. -/
def withCoffDefaults : Descriptor :=
  { descriptor with globalPrefix := "_" }

/-- The adjustments of the Darwin flavors. Only a 64-bit assembler has 64-bit data. -/
def asDarwin : Descriptor :=
  { descriptor with
    data64 := if descriptor.triple.architecture.is64Bit then descriptor.data64 else none
    comment := "##"
    locationCounter := "."
    hasDebugInfo := true
    hasInlineInfoSection := true
    exceptions := .dwarfCfi }

/-- The adjustments of ELF. OpenBSD on 32-bit processors loses its 64-bit data. -/
def asElf : Descriptor :=
  { descriptor with
    privatePrefix := ".L"
    weakReference := some "\t.weak\t"
    locationCounter := "."
    hasLeb128 := true
    hasDebugInfo := true
    exceptions := .dwarfCfi
    data64 :=
      if descriptor.triple.system = .openBsd ∧ descriptor.triple.architecture = .x86 then none
      else descriptor.data64 }

/-- The adjustments of COFF with the Microsoft tools: on 64-bit targets the names are as on ELF. -/
def asMicrosoft : Descriptor :=
  if descriptor.triple.architecture.is64Bit then
    { descriptor with globalPrefix := "", privatePrefix := ".L" }
  else descriptor

/-- The adjustments of COFF with the GNU tools: those of Microsoft, and exception tables. -/
def asGnuCoff : Descriptor :=
  { descriptor.asMicrosoft with exceptions := .dwarfCfi }

/-- The adjustments of a flavor after the defaults of its format. -/
def adjusted : Flavor → Descriptor
  | .darwin32 | .darwin64 => descriptor.withMachODefaults.asDarwin
  | .elf => descriptor.asElf
  | .microsoft => descriptor.withCoffDefaults.asMicrosoft
  | .gnuCoff => descriptor.withCoffDefaults.asGnuCoff

/-- The descriptor of a requested flavor by all steps. -/
def assembled (requested : Flavor) (triple : Triple) (settings : Settings) : Descriptor :=
  let flavor := requested.adapted triple.architecture
  (outset flavor triple settings).adjusted flavor

/-! ### The steps and the rules -/

/-- **The steps and the rules agree** on every field. -/
theorem build_eq_assembled (requested : Flavor) (triple : Triple) (settings : Settings) :
    build requested triple settings = assembled requested triple settings := by
  obtain ⟨architecture, vendor, system, environment⟩ := triple
  -- Flavor and architecture decide which steps are taken and what they overwrite. The system is
  -- looked at in one place only, and in the same words by both.
  cases requested <;> cases architecture <;> rfl

end Descriptor

end AsmTarget
