/-
**Descriptors as they are built.**

A descriptor is built from a flavor, a triple and the settings, and each of its fields follows a
rule of its own.

* `Flavor.comment` to `Flavor.exceptions`: the rules of the fields that depend on the flavor;
* `Descriptor.build`: the descriptor of a requested flavor;
* `Descriptor.ofTriple`: the descriptor of the flavor that the triple selects.
-/

import AsmTarget.Descriptor
import AsmTarget.Settings

namespace AsmTarget

/-! ### The rules of the fields -/

namespace Flavor

/-- Whether the flavor writes Mach-O. -/
def isDarwin : Flavor → Bool
  | darwin32 | darwin64 => true
  | elf | microsoft | gnuCoff => false

/-- Darwin sources may pass through the C preprocessor, which takes a single mark away. -/
def comment (flavor : Flavor) : String :=
  if flavor.isDarwin then "##" else "#"

/-- How private names start; on 64-bit COFF targets as on ELF. -/
def privatePrefix (flavor : Flavor) (architecture : Architecture) : String :=
  match flavor with
  | elf => ".L"
  | darwin32 | darwin64 => "L"
  | microsoft | gnuCoff => if architecture.is64Bit then ".L" else "L"

/-- What global names start with; nothing on 64-bit COFF targets and on ELF. -/
def globalPrefix (flavor : Flavor) (architecture : Architecture) : String :=
  match flavor with
  | elf => ""
  | darwin32 | darwin64 => "_"
  | microsoft | gnuCoff => if architecture.is64Bit then "" else "_"

/-- What stands for the place that is being assembled. -/
def locationCounter : Flavor → String
  | darwin32 | darwin64 | elf => "."
  | microsoft | gnuCoff => "$"

/-- The directive for a weak reference. -/
def weakReference : Flavor → Option String
  | darwin32 | darwin64 => some "\t.weak_reference "
  | elf => some "\t.weak\t"
  | microsoft | gnuCoff => none

/-- The 32-bit Darwin assembler and that of OpenBSD on 32-bit processors have no directive for
64-bit values. -/
def data64 (flavor : Flavor) (triple : Triple) : Option String :=
  match flavor with
  | darwin32 => none
  | elf =>
    if triple.system = .openBsd ∧ triple.architecture = .x86 then none else some "\t.quad\t"
  | darwin64 | microsoft | gnuCoff => some "\t.quad\t"

/-- Whether the assembler knows numbers of variable length. -/
def hasLeb128 (flavor : Flavor) : Bool :=
  flavor == elf

/-- Whether debug information can be written. -/
def hasDebugInfo : Flavor → Bool
  | darwin32 | darwin64 | elf => true
  | microsoft | gnuCoff => false

/-- The Microsoft tools have a model of their own, which is not described here. -/
def exceptions (flavor : Flavor) : ExceptionModel :=
  if flavor = microsoft then .none else .dwarfCfi

end Flavor

/-! ### Descriptors -/

namespace Descriptor

/-- The single-byte instruction of x86 that does nothing. -/
def noOperation : UInt8 := 0x90

/-- The descriptor of a requested flavor, which is first adapted to the width of the triple. -/
def build (requested : Flavor) (triple : Triple) (settings : Settings) : Descriptor :=
  let flavor := requested.adapted triple.architecture
  let size : UInt32 := if triple.architecture.is64Bit then 8 else 4
  { flavor
    pointerSize := size
    slotSize := size
    comment := flavor.comment
    alignFill := noOperation
    privatePrefix := flavor.privatePrefix triple.architecture
    globalPrefix := flavor.globalPrefix triple.architecture
    locationCounter := flavor.locationCounter
    weakReference := flavor.weakReference
    data8 := "\t.byte\t"
    data16 := "\t.short\t"
    data32 := "\t.long\t"
    data64 := flavor.data64 triple
    hasLeb128 := flavor.hasLeb128
    hasDebugInfo := flavor.hasDebugInfo
    hasInlineInfoSection := flavor.isDarwin
    exceptions := flavor.exceptions
    dialect := settings.dialect
    triple
    aliases := .x86 }

/-- The descriptor of the flavor that a triple selects. -/
def ofTriple (triple : Triple) (settings : Settings) : Descriptor :=
  build (.select triple) triple settings

end Descriptor

end AsmTarget
