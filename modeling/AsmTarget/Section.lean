/-
**Sections of an ELF object file.**

* `SectionKind`, `SectionType`, `SectionFlags`: what a section is for, how the file stores it,
  and what the loader does with it;
* `SectionFlags.contains`, `SectionFlags.union`: the flags as a set of bits;
* `Section.directive`: the directive that switches to a section.
-/

namespace AsmTarget

/-- What a section holds. -/
inductive SectionKind where
  | text
  | data
  | readOnly
  | bss
  /-- Notes and debug information, which no program loads. -/
  | metadata
  deriving DecidableEq, Repr

/-- How the object file stores a section. -/
inductive SectionType where
  | progBits
  | note
  | noBits
  deriving DecidableEq, Repr

namespace SectionKind

/-- All kinds. -/
def all : List SectionKind := [text, data, readOnly, bss, metadata]

/-- How a kind is written for a reader. -/
def name : SectionKind → String
  | text => "Text"
  | data => "Data"
  | readOnly => "ReadOnly"
  | bss => "Bss"
  | metadata => "Metadata"

/-- How a kind is written in structured data. -/
def tag : SectionKind → String
  | text => "text"
  | data => "data"
  | readOnly => "read-only"
  | bss => "bss"
  | metadata => "metadata"

end SectionKind

namespace SectionType

/-- All types. -/
def all : List SectionType := [progBits, note, noBits]

/-- How a type is written for a reader. -/
def name : SectionType → String
  | progBits => "ProgBits"
  | note => "Note"
  | noBits => "NoBits"

/-- How a type is written in structured data. -/
def tag : SectionType → String
  | progBits => "prog-bits"
  | note => "note"
  | noBits => "no-bits"

/-- The number of the type in a section header. -/
def raw : SectionType → Nat
  | progBits => 1
  | note => 7
  | noBits => 8

/-- The type as a directive names it. -/
def word : SectionType → String
  | progBits => "@progbits"
  | note => "@note"
  | noBits => "@nobits"

end SectionType

/-! ### Flags -/

/-- The flag bits of a section header. -/
structure SectionFlags where
  bits : UInt64
  deriving DecidableEq, Repr

namespace SectionFlags

/-- No flag. -/
def none : SectionFlags := ⟨0⟩

/-- The program may write to the section. -/
def write : SectionFlags := ⟨1⟩

/-- The section takes memory when the program runs. -/
def allocate : SectionFlags := ⟨2⟩

/-- The section holds instructions. -/
def execute : SectionFlags := ⟨4⟩

/-- Whether all bits of the second flags are set in the first. -/
def contains (flags part : SectionFlags) : Bool :=
  flags.bits &&& part.bits == part.bits

/-- The bits that are set in either. -/
def union (first second : SectionFlags) : SectionFlags :=
  ⟨first.bits ||| second.bits⟩

/-- The bits that are set in any of several flags. -/
def unionAll (list : List SectionFlags) : SectionFlags :=
  list.foldl union none

/-- The letter of a flag, when it is set. -/
def letter (flags part : SectionFlags) (c : Char) : List Char :=
  if flags.contains part then [c] else []

/-- The letters of the flags in a directive. -/
def letters (flags : SectionFlags) : String :=
  String.ofList
    (flags.letter allocate 'a' ++ flags.letter write 'w' ++ flags.letter execute 'x')

end SectionFlags

/-! ### Sections -/

/-- What a section is, apart from its name. -/
structure SectionAttributes where
  type : SectionType
  flags : SectionFlags
  kind : SectionKind
  deriving DecidableEq, Repr

/-- A section of an ELF file. -/
structure Section where
  name : String
  attributes : SectionAttributes
  deriving DecidableEq, Repr

/-- The directive that switches to a section. -/
def Section.directive (s : Section) : String :=
  "\t.section\t" ++ s.name ++ ",\"" ++ s.attributes.flags.letters ++ "\"," ++
    s.attributes.type.word

end AsmTarget
