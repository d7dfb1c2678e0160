/-
**Descriptors in the three output formats.**

* `Descriptor.tomlLines`: the fields of a descriptor, one a line, with the triple as a table of its
  own; a field that is absent has no line;
* `OutputFormat.ofName?`: the format with a name;
* `Descriptor.render`: a descriptor in a format.
-/

import AsmTarget.Descriptor.Report
import AsmTarget.Json.Encode
import AsmTarget.Toml

namespace AsmTarget

open Toml (stringLine stringLine? naturalLine booleanLine headerLine)

/-- The lines of a triple with its parts as structured data. -/
def Triple.tomlLines (triple : Triple) : List String :=
  [stringLine "arch" triple.architecture.tag,
    stringLine "vendor" triple.vendor.tag,
    stringLine "os" triple.system.tag,
    stringLine "environment" triple.environment.tag]

/-- The lines of a descriptor without its aliases. -/
def Descriptor.tomlLines (descriptor : Descriptor) : List String :=
  [stringLine "flavor" descriptor.flavor.tag,
    naturalLine "pointer-size" descriptor.pointerSize.toNat,
    naturalLine "callee-save-stack-slot-size" descriptor.slotSize.toNat,
    stringLine "comment-string" descriptor.comment,
    naturalLine "text-align-fill-value" descriptor.alignFill.toNat,
    stringLine "private-global-prefix" descriptor.privatePrefix,
    stringLine "global-prefix" descriptor.globalPrefix,
    stringLine "pc-symbol" descriptor.locationCounter] ++
    stringLine? "weak-ref-directive" descriptor.weakReference ++
    [stringLine "data8-directive" descriptor.data8,
      stringLine "data16-directive" descriptor.data16,
      stringLine "data32-directive" descriptor.data32] ++
    stringLine? "data64-directive" descriptor.data64 ++
    [booleanLine "has-leb128" descriptor.hasLeb128,
      booleanLine "supports-debug-information" descriptor.hasDebugInfo,
      booleanLine "dwarf-uses-inline-info-section" descriptor.hasInlineInfoSection,
      stringLine "exception-handling" descriptor.exceptions.tag,
      stringLine "assembler-dialect" descriptor.dialect.tag,
      "",
      headerLine "triple"] ++
    descriptor.triple.tomlLines

/-- The formats in which a descriptor can be shown. -/
inductive OutputFormat where
  | text
  | toml
  | json
  deriving DecidableEq, Repr

namespace OutputFormat

/-- All formats. -/
def all : List OutputFormat := [text, toml, json]

/-- The word that names a format. -/
def name : OutputFormat → String
  | text => "text"
  | toml => "toml"
  | json => "json"

/-- The format with a given name. -/
def ofName? (word : String) : Option OutputFormat :=
  all.find? (·.name == word)

end OutputFormat

/-- A descriptor in a format. -/
def Descriptor.shown (descriptor : Descriptor) : OutputFormat → String
  | .text => descriptor.report
  | .toml => Text.lines descriptor.tomlLines
  | .json => Text.lines [descriptor.toJson.pretty]

/-- A descriptor in the format with a name, which is the report when no name is given. -/
def Descriptor.render (descriptor : Descriptor) (format : Option String) :
    Except Fault String :=
  let word := format.getD OutputFormat.text.name
  match OutputFormat.ofName? word with
  | some known => .ok (descriptor.shown known)
  | none => .error (.unknownFormat word)

end AsmTarget
