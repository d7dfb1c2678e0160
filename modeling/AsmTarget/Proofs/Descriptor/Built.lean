/-
**Built descriptors.**

Emitters build a descriptor and may set the size of a stack slot afterwards. The rules of the fields
leave little freedom: flavor, triple, dialect and slot size say all of such a descriptor, and all
other fields follow from them.

* `Descriptor.Built`: the descriptors that come about in this way, with `Descriptor.built_ofTriple`
  for the flavor that the triple selects;
* `Descriptor.Built.eq_iff`: **two of them are equal when these four parts are**.
-/

import AsmTarget.Descriptor.Build

namespace AsmTarget

/-- A flavor that fits an architecture stays as it is. -/
theorem Flavor.adapted_adapted (requested : Flavor) (architecture : Architecture) :
    (requested.adapted architecture).adapted architecture = requested.adapted architecture := by
  cases requested <;> cases architecture <;> rfl

namespace Descriptor

/-- A descriptor is built again from the flavor that the request has become. -/
theorem build_adapted (requested : Flavor) (triple : Triple) (settings : Settings) :
    build (requested.adapted triple.architecture) triple settings =
      build requested triple settings := by
  unfold build
  rw [Flavor.adapted_adapted]

/-- A descriptor that is built from a flavor, a triple and settings, with a slot size set later.
Read as a signed number of 32 bits, the size has a negative. -/
inductive Built : Descriptor → Prop where
  | build (requested : Flavor) (triple : Triple) (settings : Settings) {slot : UInt32}
    (fits : slot ≠ 0x80000000) : Built { build requested triple settings with slotSize := slot }

theorem built_ofTriple (triple : Triple) (settings : Settings) {slot : UInt32}
    (fits : slot ≠ 0x80000000) : Built { ofTriple triple settings with slotSize := slot } :=
  .build (.select triple) triple settings fits

/-- A descriptor whose slot size has been left alone is a built one. -/
theorem built_build (requested : Flavor) (triple : Triple) (settings : Settings) :
    Built (build requested triple settings) := by
  have fits : (build requested triple settings).slotSize ≠ 0x80000000 := by
    unfold build
    dsimp only
    split <;> decide
  exact .build requested triple settings fits

namespace Built

variable {descriptor first second : Descriptor}

/-- Flavor, triple, dialect and slot size are enough to build the descriptor again. -/
theorem rebuilt (built : descriptor.Built) :
    { Descriptor.build descriptor.flavor descriptor.triple ⟨descriptor.dialect⟩ with
      slotSize := descriptor.slotSize } = descriptor := by
  cases built with
  | @build requested triple settings slot fits =>
    exact congrArg ({ · with slotSize := slot }) (build_adapted requested triple settings)

theorem aliases_eq (built : descriptor.Built) : descriptor.aliases = .x86 := by
  cases built
  rfl

/-- **Four parts tell a built descriptor.** -/
theorem eq_iff (built : first.Built) (otherBuilt : second.Built) :
    first = second ↔ first.flavor = second.flavor ∧ first.triple = second.triple ∧
      first.dialect = second.dialect ∧ first.slotSize = second.slotSize := by
  constructor
  · rintro rfl
    exact ⟨rfl, rfl, rfl, rfl⟩
  · rintro ⟨flavors, triples, dialects, slots⟩
    rw [← built.rebuilt, flavors, triples, dialects, slots, otherBuilt.rebuilt]

end Built

end Descriptor

end AsmTarget
