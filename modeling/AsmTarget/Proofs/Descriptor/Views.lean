/-
**The views of a descriptor.**

A descriptor is shown as a report, as TOML or as JSON, by three writers that have little in common.
None of them loses a part of a built descriptor, so it makes no difference which of them is used to
tell descriptors apart.

* `Descriptor.single_tomlLines`: each line of TOML is a single one;
* `Descriptor.Built.toml_eq_iff`, `Descriptor.Built.json_eq_iff`: built descriptors with one text in
  TOML, or in JSON, are equal;
* `Descriptor.Built.views_distinguish`: **every view tells the same descriptors apart**.
-/

import AsmTarget.Descriptor.Render
import AsmTarget.Proofs.Descriptor.Identity
import AsmTarget.Proofs.Descriptor.Report
import AsmTarget.Proofs.Toml.Text

namespace AsmTarget

open Text Toml

/-! ### TOML -/

theorem Triple.tomlLines_injective : Function.Injective Triple.tomlLines := by
  intro triple other same
  simp only [Triple.tomlLines, List.cons.injEq, stringLine_inj, and_true] at same
  exact Triple.eq_iff_tags.mpr same

namespace Descriptor

variable {first second : Descriptor}

theorem single_tomlLines (descriptor : Descriptor) :
    ∀ line ∈ descriptor.tomlLines, Single line := by
  have weak : ∀ line ∈ stringLine? "weak-ref-directive" descriptor.weakReference, Single line :=
    fun line member => single_of_mem_stringLine? member (by decide)
  have wide : ∀ line ∈ stringLine? "data64-directive" descriptor.data64, Single line :=
    fun line member => single_of_mem_stringLine? member (by decide)
  simpa +decide [tomlLines, Triple.tomlLines, or_imp, forall_and] using ⟨weak, wide⟩

/-- **Built descriptors with one text in TOML are equal.** -/
theorem Built.toml_eq_iff (built : first.Built) (otherBuilt : second.Built) :
    first.shown .toml = second.shown .toml ↔ first = second := by
  refine ⟨fun same => ?_, fun same => by rw [same]⟩
  have written := lines_inj (single_tomlLines first) (single_tomlLines second) same
  have tail (triple : Triple) : triple.tomlLines.length = 4 := rfl
  -- Two lines may be missing, before and after which there is a fixed number of others. All four
  -- parts stand in these.
  unfold tomlLines at written
  obtain ⟨written, triples⟩ := List.append_inj' written (by rw [tail, tail])
  obtain ⟨written, lower⟩ := List.append_inj' written (by simp only [List.length_cons])
  simp only [List.append_assoc] at written
  obtain ⟨upper, -⟩ := List.append_inj written (by simp only [List.length_cons])
  simp only [List.cons.injEq, stringLine_inj, naturalLine_inj, Flavor.tag_injective.eq_iff,
    UInt32.toNat_inj] at upper
  simp only [List.cons.injEq, stringLine_inj, Dialect.tag_injective.eq_iff] at lower
  obtain ⟨flavors, -, slots, -⟩ := upper
  obtain ⟨-, -, -, -, dialects, -⟩ := lower
  exact (built.eq_iff otherBuilt).mpr ⟨flavors, Triple.tomlLines_injective triples, dialects, slots⟩

/-! ### JSON -/

theorem Built.jsonText_eq_iff (built : first.Built) (otherBuilt : second.Built) :
    first.jsonText = second.jsonText ↔ first = second := by
  rw [Descriptor.jsonText_eq_iff, otherBuilt.aliases_eq, ← built.aliases_eq]

/-- **Built descriptors with one text in JSON are equal.** -/
theorem Built.json_eq_iff (built : first.Built) (otherBuilt : second.Built) :
    first.shown .json = second.shown .json ↔ first = second := by
  refine ⟨fun same => ?_, fun same => by rw [same]⟩
  have values := Json.pretty_injective (lines_singleton_injective same)
  rw [← built.jsonText_eq_iff otherBuilt, jsonText, values, jsonText]

/-! ### All views -/

theorem Built.shown_eq_iff (built : first.Built) (otherBuilt : second.Built) :
    ∀ format, first.shown format = second.shown format ↔ first = second
  | .text => built.report_eq_iff otherBuilt
  | .toml => built.toml_eq_iff otherBuilt
  | .json => built.json_eq_iff otherBuilt

/-- **Every view tells the same built descriptors apart**: the report, which is shown when no format
is named, TOML and JSON, and the text behind the fingerprint. Each of them exists, and two of one
kind are the same exactly for equal descriptors. -/
theorem Built.views_distinguish (built : first.Built) (otherBuilt : second.Built) :
    (∀ format ∈ [none, some "text", some "toml", some "json"], ∃ view otherView,
      first.render format = .ok view ∧ second.render format = .ok otherView ∧
        (view = otherView ↔ first = second)) ∧
      (first.jsonText = second.jsonText ↔ first = second) := by
  refine ⟨fun format member => ?_, built.jsonText_eq_iff otherBuilt⟩
  have found : (OutputFormat.ofName? (format.getD OutputFormat.text.name)).isSome = true := by
    revert format
    decide
  obtain ⟨known, named⟩ := Option.isSome_iff_exists.mp found
  refine ⟨first.shown known, second.shown known, ?_, ?_, built.shown_eq_iff otherBuilt known⟩
  · rw [render, named]
  · rw [render, named]

/-- On 64-bit Linux, no view shows a slot whose size counts as `-8` like the slot of eight bytes
that comes with the target. -/
theorem Built.views_distinguish_linux :
    let linux : Triple := ⟨.x86_64, .unknown, .linux, .gnu⟩
    let first := ofTriple linux default
    let second := { ofTriple linux default with slotSize := 0xFFFFFFF8 }
    first.Built ∧ second.Built ∧ first.jsonText ≠ second.jsonText ∧
      ∀ format ∈ [none, some "text", some "toml", some "json"],
        first.render format ≠ second.render format := by
  intro linux first second
  have built : first.Built := built_ofTriple linux default (by decide : (8 : UInt32) ≠ 0x80000000)
  have otherBuilt : second.Built := built_ofTriple linux default (by decide)
  have differ : first ≠ second := fun same => absurd (congrArg slotSize same) (by decide)
  obtain ⟨views, texts⟩ := views_distinguish built otherBuilt
  refine ⟨built, otherBuilt, fun same => differ (texts.mp same), fun format member same => ?_⟩
  obtain ⟨view, otherView, shown, otherShown, equal⟩ := views format member
  rw [shown, otherShown, Except.ok.injEq] at same
  exact differ (equal.mp same)

end Descriptor

end AsmTarget
