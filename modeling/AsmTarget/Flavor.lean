/-
**The flavors of an x86 assembler.**

A flavor is an object-file format together with the habits of the tools that write it. The two
Darwin flavors differ in the width of the target only.

* `Flavor.select`: the flavor of a triple; a triple that matches nothing else gets ELF;
* `Flavor.objectFormat`: the object-file format of a flavor.
-/

import AsmTarget.Triple

namespace AsmTarget

/-- The closed set of assembler flavors. -/
inductive Flavor where
  | darwin32
  | darwin64
  | elf
  /-- COFF with the binary interface of the Microsoft tools. -/
  | microsoft
  /-- COFF with the binary interface of the GNU tools. -/
  | gnuCoff
  deriving DecidableEq, Repr

namespace Flavor

/-- All flavors. -/
def all : List Flavor := [darwin32, darwin64, elf, microsoft, gnuCoff]

/-- How a flavor is written for a reader. -/
def name : Flavor → String
  | darwin32 => "darwin"
  | darwin64 => "darwin64"
  | elf => "elf"
  | microsoft => "microsoft-coff"
  | gnuCoff => "gnu-coff"

/-- How a flavor is written in structured data. -/
def tag : Flavor → String
  | darwin32 => "darwin32"
  | darwin64 => "darwin64"
  | elf => "elf"
  | microsoft => "microsoft"
  | gnuCoff => "gnu-coff"

/-- The object-file format of a flavor. -/
def objectFormat : Flavor → ObjectFormat
  | darwin32 | darwin64 => .machO
  | elf => .elf
  | microsoft | gnuCoff => .coff

/-- The Darwin flavor for an architecture. -/
def darwin (architecture : Architecture) : Flavor :=
  if architecture.is64Bit then darwin64 else darwin32

/-- The flavor of a triple: the first of Darwin, forced ELF, Microsoft and GNU that applies, and
ELF when none does. -/
def select (triple : Triple) : Flavor :=
  if triple.isDarwin || triple.environment == .machO then darwin triple.architecture
  else if triple.environment = .elf then elf
  else if triple.isMicrosoftWindows then microsoft
  else if triple.isGnuWindows then gnuCoff
  else elf

/-- The flavor that a requested one becomes on an architecture: either Darwin flavor turns into
the one of the right width. -/
def adapted (requested : Flavor) (architecture : Architecture) : Flavor :=
  match requested with
  | darwin32 | darwin64 => darwin architecture
  | other => other

end Flavor

end AsmTarget
