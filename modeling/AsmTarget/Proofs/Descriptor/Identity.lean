/-
**The text that identifies a descriptor.**

The fingerprint of a descriptor is the digest of its JSON text. That text has a member for each
field but the aliases, and every member tells its field, whatever strings and numbers the fields
hold. So two descriptors have one text exactly when they differ in their aliases at most.

* `Descriptor.toJson_eq_iff`, `Descriptor.jsonText_eq_iff`: the values of two descriptors, and their
  texts;
* `Descriptor.jsonText_identifies`: **their texts and fingerprints**.
-/

import AsmTarget.Fingerprint
import AsmTarget.Proofs.Descriptor.Names
import AsmTarget.Proofs.Json.Text

namespace AsmTarget

theorem Json.ofString?_injective : Function.Injective Json.ofString? := by
  intro value other same
  cases value <;> cases other <;> cases same <;> rfl

theorem Triple.toJson_injective : Function.Injective Triple.toJson := by
  intro triple other same
  simp only [Triple.toJson, Json.object.injEq, List.cons.injEq, Prod.mk.injEq, Json.string.injEq,
    true_and, and_true] at same
  exact Triple.eq_iff_tags.mpr same

namespace Descriptor

/-- The value of a descriptor has all of it but the aliases. -/
theorem toJson_eq_iff {first second : Descriptor} :
    first.toJson = second.toJson ↔ { first with aliases := second.aliases } = second := by
  cases first
  cases second
  simp only [toJson, mk.injEq, Json.object.injEq, List.cons.injEq, Prod.mk.injEq,
    Json.string.injEq, Json.integer.injEq, Json.boolean.injEq, Int.natCast_inj, UInt32.toNat_inj,
    UInt8.toNat_inj, Json.ofString?_injective.eq_iff, Triple.toJson_injective.eq_iff,
    Flavor.tag_injective.eq_iff, ExceptionModel.tag_injective.eq_iff,
    Dialect.tag_injective.eq_iff, true_and, and_true]

/-- The text has all of a descriptor but the aliases. -/
theorem jsonText_eq_iff {first second : Descriptor} :
    first.jsonText = second.jsonText ↔ { first with aliases := second.aliases } = second := by
  rw [jsonText, jsonText, Json.compact_injective.eq_iff, toJson_eq_iff]

theorem fingerprint_eq (descriptor : Descriptor) :
    descriptor.fingerprint = Sha256.digest descriptor.jsonText.toUTF8.toList :=
  rfl

/-- **The text behind the fingerprint identifies the descriptor**, whatever its fields hold: two
texts are the same exactly when flavor, triple and all fields but the aliases are. So descriptors
that differ in their aliases at most have one fingerprint, and where the aliases are the same too,
as in descriptors that keep those of x86, the texts are the same exactly for equal descriptors. -/
theorem jsonText_identifies (first second : Descriptor) :
    first.fingerprint = Sha256.digest first.jsonText.toUTF8.toList ∧
      (first.jsonText = second.jsonText ↔ { first with aliases := second.aliases } = second) ∧
      ({ first with aliases := second.aliases } = second →
        first.fingerprint = second.fingerprint) ∧
      (first.aliases = second.aliases → (first.jsonText = second.jsonText ↔ first = second)) := by
  refine ⟨fingerprint_eq first, jsonText_eq_iff, fun agree => ?_, fun aliases => ?_⟩
  · rw [fingerprint_eq, fingerprint_eq, jsonText_eq_iff.mpr agree]
  · rw [jsonText_eq_iff, ← aliases]

end Descriptor

end AsmTarget
