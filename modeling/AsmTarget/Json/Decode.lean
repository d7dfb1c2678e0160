/-
**The values of the library read from JSON.**

* `Draft.variant?`: a case of a closed set, by its tag;
* `Triple.ofDraft?`, `Settings.ofDraft?`, `Section.ofDraft?`, `SectionFlags.ofDraft?`,
  `PointerEncoding.ofDraft?`: the values of the library, read from documents.

A structure may also be given as an array with its parts in order. Where members are named, an
unknown one is passed over by triples and sections, and refused by settings.
-/

import AsmTarget.Json.Draft
import AsmTarget.PointerEncoding
import AsmTarget.Section
import AsmTarget.Settings
import AsmTarget.Triple

namespace AsmTarget

namespace Json.Draft

/-! ### Parts of documents -/

/-- Members with what their keys mean. -/
def named (members : List (List Char × Draft)) : Option (List (String × Draft)) :=
  members.mapM fun (key, value) => (meaning? key).map (·, value)

/-- The value of a key that occurs exactly once. -/
def field? (members : List (String × Draft)) (key : String) : Option Draft :=
  match members.filter (·.1 == key) with
  | [(_, value)] => some value
  | _ => none

/-- Whether a draft is the value of a case that carries nothing. -/
def isNothing : Draft → Bool
  | null => true
  | _ => false

/-- The case with a tag. It is written as a string, or as an object with the tag as its only key
and a value that carries nothing. -/
def variant? {Case : Type} (all : List Case) (tag : Case → String)
    (carriesNothing : Draft → Bool) : Draft → Option Case
  | string body => (meaning? body).bind found
  | object [(key, value)] => if carriesNothing value then (meaning? key).bind found else none
  | _ => none
where
  /-- The case with a given tag. -/
  found (word : String) : Option Case :=
    all.find? (tag · == word)

/-- A structure with one part, which may be left out. -/
def single? {Part : Type} (key : String) (absent : Part) (part? : Draft → Option Part) :
    Draft → Option Part
  | array [] => some absent
  | array [value] => part? value
  | object members =>
    match named members with
    | some [] => some absent
    | some [(found, value)] => if found = key then part? value else none
    | _ => none
  | _ => none

end Json.Draft

open Json

/-! ### Values -/

/-- A dialect by its tag. -/
def Dialect.ofDraft? (draft : Draft) : Option Dialect :=
  draft.variant? Dialect.all Dialect.tag Draft.isNothing

/-- A triple by its four parts. -/
def Triple.ofDraft? (draft : Draft) : Option Triple := do
  let parts ← match draft with
    | .array items => some items
    | .object members =>
      (Draft.named members).bind fun known =>
        ["arch", "vendor", "os", "environment"].mapM (Draft.field? known)
    | _ => none
  match parts with
  | [architecture, vendor, system, environment] =>
    return {
      architecture :=
        ← architecture.variant? Architecture.all Architecture.tag Draft.isNothing
      vendor := ← vendor.variant? Vendor.all Vendor.tag Draft.isNothing
      system := ← system.variant? OperatingSystem.all OperatingSystem.tag Draft.isNothing
      environment := ← environment.variant? Environment.all Environment.tag Draft.isNothing }
  | _ => none

/-- Settings, in which everything may be left out and nothing unknown may stand. -/
def Settings.ofDraft? (draft : Draft) : Option Settings :=
  (draft.single? "x86" default
    (Draft.single? "asm-syntax" default Dialect.ofDraft?)).map Settings.mk

/-- Flags as a number of 64 bits. -/
def SectionFlags.ofDraft? (draft : Draft) : Option SectionFlags :=
  (draft.natural? (UInt64.size - 1)).map fun bits => ⟨UInt64.ofNat bits⟩

/-- An encoding as a number of eight bits. -/
def PointerEncoding.ofDraft? (draft : Draft) : Option PointerEncoding :=
  (draft.natural? 255).map fun byte => ⟨UInt8.ofNat byte⟩

/-- How deeply the document of a section may be nested. -/
def Section.depthLimit : Nat := 127

/-- A section by its format and its four parts. The format decides how the rest is read, so that
the whole document has to mean something and must not be nested too deeply. -/
def Section.ofDraft? (draft : Draft) : Option Section := do
  if !draft.isSound || draft.depth > depthLimit then none
  let parts ← match draft with
    | .array items => some items
    | .object members =>
      (Draft.named members).bind fun known =>
        ["format", "name", "section_type", "flags", "kind"].mapM (Draft.field? known)
    | _ => none
  match parts with
  | [format, name, type, flags, kind] =>
    if format.text? ≠ some "elf" then none
    return {
      name := ← name.text?
      attributes := {
        type := ← type.variant? SectionType.all SectionType.tag isNothing
        flags := ← SectionFlags.ofDraft? flags
        kind := ← kind.variant? SectionKind.all SectionKind.tag isNothing } }
  | _ => none
where
  /-- Within a section, an empty object also carries nothing. -/
  isNothing : Draft → Bool
    | .null => true
    | .object [] => true
    | _ => false

end AsmTarget
