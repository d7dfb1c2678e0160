/-
**Descriptors.**

A descriptor holds what an emitter of assembly text has to know about a target: how comments and
local names start, which directives there are, how large a pointer is, how unwinding works.

* `ExceptionModel`: how exception tables are written;
* `Descriptor`: all that is known about a target, field by field.
-/

import AsmTarget.Alias
import AsmTarget.Dialect
import AsmTarget.Flavor

namespace AsmTarget

/-- How exception tables are written. -/
inductive ExceptionModel where
  | none
  /-- Tables made from DWARF call-frame information. -/
  | dwarfCfi
  deriving DecidableEq, Repr

namespace ExceptionModel

/-- How a model is written for a reader. -/
def name : ExceptionModel → String
  | none => "None"
  | dwarfCfi => "DwarfCfi"

/-- How a model is written in structured data. -/
def tag : ExceptionModel → String
  | none => "none"
  | dwarfCfi => "dwarf-cfi"

end ExceptionModel

/-- The assembly text and the binary interface of one target. -/
structure Descriptor where
  flavor : Flavor
  /-- The size of a pointer in bytes. -/
  pointerSize : UInt32
  /-- The size in bytes of one saved register on the stack. -/
  slotSize : UInt32
  /-- What starts a comment that ends with the line. -/
  comment : String
  /-- The byte that fills the gaps of aligned code. -/
  alignFill : UInt8
  /-- How names start that the assembler keeps to itself. -/
  privatePrefix : String
  /-- What is put in front of every global name. -/
  globalPrefix : String
  /-- The place that is being assembled. -/
  locationCounter : String
  /-- The directive for a weak reference, if the format has one. -/
  weakReference : Option String
  /-- The directives for values of 8, 16 and 32 bits. -/
  data8 : String
  data16 : String
  data32 : String
  /-- Absent when a 64-bit value has to be written as two halves. -/
  data64 : Option String
  /-- Whether the assembler knows numbers of variable length. -/
  hasLeb128 : Bool
  /-- Whether debug information can be written. -/
  hasDebugInfo : Bool
  /-- Whether inlining information has a section of its own. -/
  hasInlineInfoSection : Bool
  exceptions : ExceptionModel
  dialect : Dialect
  triple : Triple
  aliases : AliasTable
  deriving DecidableEq, Repr

end AsmTarget
