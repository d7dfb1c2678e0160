/-
**The report on a descriptor.**

The report is a list of lines in four parts, for a reader rather than for a program.

* `Descriptor.reportLines`: the lines; `Descriptor.report`: the text made of them.
-/

import AsmTarget.Descriptor.EntryFrame
import AsmTarget.Text.Lines
import AsmTarget.Text.Quoted

namespace AsmTarget

namespace Descriptor

open Text

/-- An answer to a question of the report. -/
def yesNo (value : Bool) : String :=
  if value then "yes" else "no"

/-- The line of an alias. -/
def aliasLine (entry : String × String) : String :=
  "    " ++ padded 10 entry.1 ++ " " ++ ((Spelling.ofEntry entry.2).word?.getD "(omitted)")

/-- The target in a heading, its flavor and its object-file format. -/
def headLines (descriptor : Descriptor) : List String :=
  ["=== Descriptor: " ++ descriptor.triple.text ++ " ===",
    "Flavor:        " ++ descriptor.flavor.name,
    "Object format: " ++ descriptor.flavor.objectFormat.name]

/-- How comments and names are written. -/
def namingLines (descriptor : Descriptor) : List String :=
  ["--- Naming ---",
    "  Comment:        " ++ quoted descriptor.comment,
    "  Global prefix:  " ++ quoted descriptor.globalPrefix,
    "  Private prefix: " ++ quoted descriptor.privatePrefix,
    "  PC symbol:      " ++ quoted descriptor.locationCounter,
    "  Weak reference: " ++ (descriptor.weakReference.elim "(none)" quoted)]

/-- Sizes, and how data are written. -/
def dataLines (descriptor : Descriptor) : List String :=
  ["--- Data ---",
    "  Pointer size: " ++ Decimal.natural descriptor.pointerSize.toNat ++ " bytes",
    "  Align fill:   0x" ++ String.ofList
      [Hexadecimal.capital (descriptor.alignFill.toNat / 16),
        Hexadecimal.capital (descriptor.alignFill.toNat % 16)],
    "  8-bit:        " ++ quoted descriptor.data8,
    "  16-bit:       " ++ quoted descriptor.data16,
    "  32-bit:       " ++ quoted descriptor.data32,
    "  64-bit:       " ++ (descriptor.data64.elim "(split into two 32-bit units)" quoted),
    "  LEB128:       " ++ yesNo descriptor.hasLeb128]

/-- Debug information, and what holds at the entry of functions. -/
def unwindingLines (descriptor : Descriptor) : List String :=
  ["--- Debug & unwinding ---",
    "  Debug info:          " ++ yesNo descriptor.hasDebugInfo,
    "  Inline info section: " ++ yesNo descriptor.hasInlineInfoSection,
    "  Exceptions:          " ++ descriptor.exceptions.name,
    "  Entry CFI:"] ++
    descriptor.entryFrame.map fun rule => "  " ++ rule.instruction

/-- What inline assembly depends on. -/
def inlineLines (descriptor : Descriptor) : List String :=
  ["--- Inline asm ---",
    "  Dialect: " ++ descriptor.dialect.name ++ " (" ++
      Decimal.natural descriptor.dialect.index ++ "): " ++ descriptor.dialect.description,
    "  Constraint aliases:"] ++
    descriptor.aliases.map aliasLine

/-- The lines of the report, with an empty one between two parts. -/
def reportLines (descriptor : Descriptor) : List String :=
  descriptor.headLines ++ [""] ++ descriptor.namingLines ++ [""] ++ descriptor.dataLines ++ [""] ++
    descriptor.unwindingLines ++ [""] ++ descriptor.inlineLines

/-- The report as a text. -/
def report (descriptor : Descriptor) : String :=
  lines descriptor.reportLines

end Descriptor

end AsmTarget
