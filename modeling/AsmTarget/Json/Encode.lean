/-
**The values of the library as JSON.**

* `Triple.toJson`, `Section.toJson`, `FrameRule.toJson`, `Settings.toJson`: a member for each part,
  in a fixed order;
* `Descriptor.toJson`: all fields of a descriptor but its aliases, which are the same everywhere;
* `Descriptor.jsonText`: the text that identifies a descriptor.
-/

import AsmTarget.Descriptor.EntryFrame
import AsmTarget.Json
import AsmTarget.Settings

namespace AsmTarget

/-- A triple with its parts as structured data. -/
def Triple.toJson (triple : Triple) : Json :=
  .object
    [("arch", .string triple.architecture.tag),
      ("vendor", .string triple.vendor.tag),
      ("os", .string triple.system.tag),
      ("environment", .string triple.environment.tag)]

/-- A section with the format of its file in front. -/
def Section.toJson (s : Section) : Json :=
  .object
    [("format", .string "elf"),
      ("name", .string s.name),
      ("section_type", .string s.attributes.type.tag),
      ("flags", .integer s.attributes.flags.bits.toNat),
      ("kind", .string s.attributes.kind.tag)]

/-- A rule with its kind in front. -/
def FrameRule.toJson (rule : FrameRule) : Json :=
  .object
    [("op", .string rule.tag),
      ("register", .integer rule.register.toNat),
      ("offset", .integer rule.offset.toInt)]

/-- Settings, grouped by the processor family they are for. -/
def Settings.toJson (settings : Settings) : Json :=
  .object [("x86", .object [("asm-syntax", .string settings.dialect.tag)])]

namespace Descriptor

/-- A descriptor without its aliases. -/
def toJson (descriptor : Descriptor) : Json :=
  .object
    [("flavor", .string descriptor.flavor.tag),
      ("pointer-size", .integer descriptor.pointerSize.toNat),
      ("callee-save-stack-slot-size", .integer descriptor.slotSize.toNat),
      ("comment-string", .string descriptor.comment),
      ("text-align-fill-value", .integer descriptor.alignFill.toNat),
      ("private-global-prefix", .string descriptor.privatePrefix),
      ("global-prefix", .string descriptor.globalPrefix),
      ("pc-symbol", .string descriptor.locationCounter),
      ("weak-ref-directive", .ofString? descriptor.weakReference),
      ("data8-directive", .string descriptor.data8),
      ("data16-directive", .string descriptor.data16),
      ("data32-directive", .string descriptor.data32),
      ("data64-directive", .ofString? descriptor.data64),
      ("has-leb128", .boolean descriptor.hasLeb128),
      ("supports-debug-information", .boolean descriptor.hasDebugInfo),
      ("dwarf-uses-inline-info-section", .boolean descriptor.hasInlineInfoSection),
      ("exception-handling", .string descriptor.exceptions.tag),
      ("assembler-dialect", .string descriptor.dialect.tag),
      ("triple", descriptor.triple.toJson)]

/-- The text that identifies a descriptor. -/
def jsonText (descriptor : Descriptor) : String :=
  descriptor.toJson.compact

end Descriptor

end AsmTarget
