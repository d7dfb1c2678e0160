/-
**The binary interface in the components of a triple.**

What a descriptor says about sizes, 64-bit data and exception tables can be told from the components
of the triple's text and from the requested flavor, whatever else stands in the text and in which
order.

* `Triple.namesWide`, `Triple.namesNarrow`, `Triple.namesOpenBsd`: what components name;
* `Triple.Components.is64Bit_parse`, `Triple.Components.architecture_parse_eq_x86_iff`,
  `Triple.Components.system_parse_eq_openBsd_iff`: the triple of the text says the same;
* `Flavor.adapted_eq`, `Flavor.data64_eq_none_iff`: what the rules of the fields make of it;
* `Descriptor.fields_of_build`: the fields in the parts of any triple;
* `Descriptor.ofText`: the descriptor of a text, for a requested flavor or the selected one;
* `Descriptor.ofText_fields`: **the fields of every such descriptor**.
-/

import AsmTarget.Proofs.Descriptor.Assembly
import AsmTarget.Proofs.Descriptor.Built
import AsmTarget.Proofs.Flavor.Format

namespace AsmTarget

/-! ### The components of a text -/

namespace Triple

/-- Whether a first component names a processor with pointers of 64 bits. -/
def namesWide (first : String) : Bool :=
  first ∈ ["x86_64", "amd64"]

/-- Whether a first component names a 32-bit processor of the family. -/
def namesNarrow (first : String) : Bool :=
  first ∈ ["i386", "i486", "i586", "i686", "i786", "i886", "i986", "x86"]

/-- Whether the first of the later components that names a system names OpenBSD, in any version. -/
def namesOpenBsd (others : List String) : Bool :=
  (others.find? WordKind.system.takes).any (Text.startsWith · "openbsd")

end Triple

theorem Architecture.is64Bit_ofWord (word : String) :
    (ofWord word).is64Bit = decide (word ∈ ["x86_64", "amd64"]) := by
  unfold ofWord
  split
  · next narrow =>
    -- No word names processors of both widths.
    revert word
    decide
  · split <;> simp_all [is64Bit, pointerWidth]

theorem Architecture.ofWord_eq_x86_iff {word : String} :
    ofWord word = .x86 ↔
      word ∈ ["i386", "i486", "i586", "i686", "i786", "i886", "i986", "x86"] := by
  unfold ofWord
  split
  · next narrow => exact iff_of_true rfl narrow
  · next other => exact iff_of_false (by split <;> exact nofun) other

theorem OperatingSystem.ofWord?_eq_openBsd_iff {word : String} :
    ofWord? word = some .openBsd ↔ Text.startsWith word "openbsd" = true := by
  have only : ∀ entry ∈ starts, entry.2 = .openBsd → entry.1 = "openbsd" := by decide
  rw [← named_iff]
  constructor
  · rintro ⟨known, begins⟩
    obtain rfl : _ = "openbsd" := only _ known rfl
    exact begins
  · intro begins
    exact .start (by decide) begins

namespace Triple

variable {text first : String} {others : List String}

theorem Components.architecture_parse (components : Components text first others) :
    (Triple.parse text).architecture = .ofWord first := by
  rw [components.parse, ofFirsts]

theorem Components.is64Bit_parse (components : Components text first others) :
    (Triple.parse text).architecture.is64Bit = namesWide first := by
  rw [components.architecture_parse, Architecture.is64Bit_ofWord, namesWide]

theorem Components.architecture_parse_eq_x86_iff (components : Components text first others) :
    (Triple.parse text).architecture = .x86 ↔ namesNarrow first = true := by
  rw [components.architecture_parse, Architecture.ofWord_eq_x86_iff, namesNarrow,
    decide_eq_true_iff]

theorem Components.system_parse_eq_openBsd_iff (components : Components text first others) :
    (Triple.parse text).system = .openBsd ↔ namesOpenBsd others = true := by
  rw [components.parse, ofFirsts, namesOpenBsd]
  cases others.find? WordKind.system.takes with
  | none => simp
  | some word =>
    rw [Option.bind_some, Option.any_some, ← OperatingSystem.ofWord?_eq_openBsd_iff]
    cases OperatingSystem.ofWord? word <;> simp

end Triple

/-! ### The rules of the fields -/

namespace Flavor

/-- Either request for Darwin comes to the flavor of the width, and any other is kept. -/
theorem adapted_eq (requested : Flavor) (architecture : Architecture) :
    requested.adapted architecture =
      if requested = .darwin32 ∨ requested = .darwin64 then
        if architecture.is64Bit then .darwin64 else .darwin32
      else requested := by
  cases requested <;> rfl

/-- There is no directive for 64-bit data on 32-bit Darwin, nor for OpenBSD on 32-bit processors of
the family; an unknown processor is none of these. -/
theorem data64_eq_none_iff {flavor : Flavor} {triple : Triple} :
    flavor.data64 triple = none ↔
      flavor = .darwin32 ∨
        flavor = .elf ∧ triple.architecture = .x86 ∧ triple.system = .openBsd := by
  cases flavor <;> simp [data64, and_comm]

theorem exceptions_eq_dwarfCfi_iff {flavor : Flavor} :
    flavor.exceptions = .dwarfCfi ↔ flavor ≠ .microsoft := by
  cases flavor <;> decide

end Flavor

/-! ### Descriptors of texts -/

namespace Descriptor

theorem pointerSize_build_eq_eight_iff {requested : Flavor} {triple : Triple}
    {settings : Settings} : (build requested triple settings).pointerSize = 8 ↔
      triple.architecture.is64Bit = true := by
  show (if triple.architecture.is64Bit then 8 else 4 : UInt32) = 8 ↔ _
  cases triple.architecture.is64Bit <;> decide

/-- **The fields in the parts of the triple**, which need not have been read from a text. -/
theorem fields_of_build {descriptor : Descriptor} {requested : Flavor} {triple : Triple}
    {settings : Settings} (built : descriptor = build requested triple settings) :
    descriptor.pointerSize = (if triple.architecture.is64Bit then 8 else 4) ∧
      descriptor.slotSize = descriptor.pointerSize ∧
      descriptor.flavor = (if requested = .darwin32 ∨ requested = .darwin64 then
        if descriptor.pointerSize = 8 then .darwin64 else .darwin32 else requested) ∧
      (descriptor.data64 = none ↔ descriptor.flavor = .darwin32 ∨
        descriptor.flavor = .elf ∧ triple.architecture = .x86 ∧ triple.system = .openBsd) ∧
      (descriptor.exceptions = .dwarfCfi ↔ descriptor.flavor ≠ .microsoft) ∧
      descriptor.dialect = settings.dialect ∧
      build descriptor.flavor descriptor.triple settings = descriptor := by
  subst built
  refine ⟨rfl, rfl, ?flavor, Flavor.data64_eq_none_iff, Flavor.exceptions_eq_dwarfCfi_iff, rfl,
    build_adapted requested triple settings⟩
  simp only [pointerSize_build_eq_eight_iff]
  exact requested.adapted_eq triple.architecture

/-- The descriptor of a triple's text, for a requested flavor or else for the one that the triple
selects. -/
def ofText (text : String) (requested : Option Flavor) (settings : Settings) : Descriptor :=
  match requested with
  | some flavor => build flavor (.parse text) settings
  | none => ofTriple (.parse text) settings

theorem ofText_eq_build (text : String) (requested : Option Flavor) (settings : Settings) :
    ofText text requested settings =
      build (requested.getD (.select (.parse text))) (.parse text) settings := by
  cases requested <;> rfl

/-- **The fields of a descriptor, for every text, every request and all settings.** The text has
components, and the descriptor is the one that is put together in steps. Both sizes are eight bytes
where the first component names a 64-bit processor and four bytes everywhere else. The flavor is the
requested one, or the Darwin flavor of the width. Directives for 64-bit data and exception tables
are missing where the flavor and the components of the text say so. The dialect is that of the
settings, and building again from flavor and triple of the descriptor gives the same descriptor. -/
theorem ofText_fields (text : String) (requested : Option Flavor) (settings : Settings) :
    let flavor := requested.getD (.select (.parse text))
    let descriptor := ofText text requested settings
    (∃ first others, Triple.Components text first others) ∧
      descriptor = assembled flavor (.parse text) settings ∧
      (∀ first others, Triple.Components text first others →
        descriptor.pointerSize = (if Triple.namesWide first then 8 else 4) ∧
        descriptor.slotSize = (if Triple.namesWide first then 8 else 4) ∧
        (descriptor.data64 = none ↔ descriptor.flavor = .darwin32 ∨
          descriptor.flavor = .elf ∧ Triple.namesNarrow first ∧ Triple.namesOpenBsd others)) ∧
      descriptor.flavor = (if flavor = .darwin32 ∨ flavor = .darwin64 then
        if descriptor.pointerSize = 8 then .darwin64 else .darwin32 else flavor) ∧
      (descriptor.exceptions = .dwarfCfi ↔ descriptor.flavor ≠ .microsoft) ∧
      descriptor.dialect = settings.dialect ∧
      build descriptor.flavor descriptor.triple settings = descriptor := by
  intro flavor descriptor
  have built : descriptor = build flavor (.parse text) settings :=
    ofText_eq_build text requested settings
  obtain ⟨size, slots, flavors, wide, fields⟩ := fields_of_build built
  refine ⟨⟨_, _, Triple.components_words text⟩, ?steps, ?components, flavors, fields⟩
  case steps => rw [built, build_eq_assembled]
  case components =>
    intro first others components
    rw [components.is64Bit_parse] at size
    rw [components.architecture_parse_eq_x86_iff, components.system_parse_eq_openBsd_iff] at wide
    exact ⟨size, slots.trans size, wide⟩

/-- A 64-bit processor with a flavor of the other width asked for, and a 32-bit one under OpenBSD,
with blanks around the text. -/
theorem ofText_fields_widths :
    Triple.Components "amd64-linux" "amd64" ["linux"] ∧
      Triple.Components " i686-pc-openbsd5.9 " "i686" ["pc", "openbsd5.9"] ∧
      (ofText "amd64-linux" (some .darwin32) default).pointerSize = 8 ∧
      (ofText "amd64-linux" (some .darwin32) default).flavor = .darwin64 ∧
      (ofText " i686-pc-openbsd5.9 " (some .elf) default).pointerSize = 4 ∧
      (ofText " i686-pc-openbsd5.9 " (some .elf) default).data64 = none := by
  have wide : Triple.Components "amd64-linux" "amd64" ["linux"] :=
    Triple.components_iff.mpr (by decide)
  have narrow : Triple.Components " i686-pc-openbsd5.9 " "i686" ["pc", "openbsd5.9"] :=
    Triple.components_iff.mpr (by decide)
  obtain ⟨-, -, wideFields, flavors, -⟩ := ofText_fields "amd64-linux" (some .darwin32) default
  obtain ⟨-, -, narrowFields, kept, -⟩ :=
    ofText_fields " i686-pc-openbsd5.9 " (some .elf) default
  obtain ⟨eight, -⟩ := wideFields _ _ wide
  obtain ⟨four, -, missing⟩ := narrowFields _ _ narrow
  refine ⟨wide, narrow, eight, ?_, four, missing.mpr (.inr ⟨kept, by decide, by decide⟩)⟩
  rw [flavors, eight]
  rfl

end Descriptor

end AsmTarget
