/-
**Reading a triple.**

The words of a triple stand between dashes. The first one is the architecture. Each later word
fills the first of three slots (vendor, system, environment) that is still empty and recognises
it, so a missing vendor shifts nothing: `x86_64-linux-gnu` and `x86_64-unknown-linux-gnu` are the
same triple. Reading never fails; a word that fills no slot is ignored.

* `Architecture.ofWord`, `Vendor.ofWord?`, `OperatingSystem.ofWord?`, `Environment.ofWord?`: what
  a single word is;
* `Slots.place?`: one word put into its slot;
* `Triple.read`: the triple together with the ignored words; `Triple.parse`: the triple alone.
-/

import AsmTarget.Text.Words
import AsmTarget.Triple

namespace AsmTarget

/-! ### Single words -/

/-- The architecture that a word names, the 32-bit ones by any processor from the 386 on. -/
def Architecture.ofWord (word : String) : Architecture :=
  if word ∈ ["i386", "i486", "i586", "i686", "i786", "i886", "i986", "x86"] then .x86
  else if word ∈ ["x86_64", "amd64"] then .x86_64
  else .unknown

/-- The vendor that a word names. -/
def Vendor.ofWord? (word : String) : Option Vendor :=
  Vendor.all.find? (·.name == word)

/-- The starts of words that name a system; what follows is a version and does not count. -/
def OperatingSystem.starts : List (String × OperatingSystem) :=
  [("darwin", .darwin), ("macosx", .macOsx), ("ios", .ios), ("linux", .linux),
    ("freebsd", .freeBsd), ("netbsd", .netBsd), ("openbsd", .openBsd), ("solaris", .solaris),
    ("win32", .win32), ("windows", .win32), ("mingw32", .minGw32), ("cygwin", .cygwin),
    ("none", .freestanding)]

/-- The system that a word names by its start. -/
def OperatingSystem.ofWord? (word : String) : Option OperatingSystem :=
  (OperatingSystem.starts.find? fun entry => Text.startsWith word entry.1).map (·.2)

/-- The environment that a word names: three by their start, two by the whole word. -/
def Environment.ofWord? (word : String) : Option Environment :=
  if Text.startsWith word "gnu" then some .gnu
  else if Text.startsWith word "msvc" then some .msvc
  else if Text.startsWith word "android" then some .android
  else if word = "elf" then some .elf
  else if word = "macho" then some .machO
  else none

/-! ### The slots -/

/-- The parts found so far after the architecture. -/
structure Slots where
  vendor : Option Vendor := none
  system : Option OperatingSystem := none
  environment : Option Environment := none
  deriving DecidableEq, Repr

/-- What an empty slot makes of a word; a filled one takes nothing. -/
def offered {Part : Type} (slot : Option Part) (recognised : Option Part) : Option Part :=
  if slot.isNone then recognised else none

/-- The slots with a word put into the first one that takes it. -/
def Slots.place? (slots : Slots) (word : String) : Option Slots :=
  match offered slots.vendor (Vendor.ofWord? word),
    offered slots.system (OperatingSystem.ofWord? word),
    offered slots.environment (Environment.ofWord? word) with
  | some vendor, _, _ => some { slots with vendor := some vendor }
  | none, some system, _ => some { slots with system := some system }
  | none, none, some environment => some { slots with environment := some environment }
  | none, none, none => none

/-- The slots after all words, and the words that no slot took. -/
def Slots.fill (slots : Slots) : List String → Slots × List String
  | [] => (slots, [])
  | word :: words =>
    match slots.place? word with
    | some next => next.fill words
    | none =>
      let (final, ignored) := slots.fill words
      (final, word :: ignored)

/-! ### The whole text -/

/-- The words of a triple's text: the first one and the others. -/
def Triple.words (text : String) : String × List String :=
  let (first, others) := Text.split '-' (Text.trimmed text.toList)
  (String.ofList first, others.map String.ofList)

/-- A triple as it was read, with the words that added nothing to it. -/
structure Triple.Reading where
  triple : Triple
  ignored : List String
  deriving DecidableEq, Repr

/-- Reads a triple from its text, without regard to blanks around it. -/
def Triple.read (text : String) : Triple.Reading :=
  let (first, others) := Triple.words text
  let (slots, ignored) := Slots.fill {} others
  { triple :=
      { architecture := .ofWord first
        vendor := slots.vendor.getD .unknown
        system := slots.system.getD .unknown
        environment := slots.environment.getD .unknown }
    ignored }

/-- The triple that a text stands for. -/
def Triple.parse (text : String) : Triple :=
  (Triple.read text).triple

end AsmTarget
