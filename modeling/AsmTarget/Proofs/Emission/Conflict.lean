/-
**Conflicts of sections, and their wording.**

A request for a section is refused when its name is known with other attributes, down to the last
bit of the flags. The wording of the refusal quotes the name as it is, and a name may look like all
the rest of it. Read from its end, the wording still tells what the section has, what was asked for,
and what the name is.

* `ContextFault.message_inj`: **the wording of a conflict**, pair by pair from its end;
* `Context.Conflict`: a request for a known name with other attributes;
* `Context.isError_openSection_iff`: **a request is refused** for a conflict and nothing else;
* `Context.conflicts_identified`: conflicts and their wordings, in any two contexts.
-/

import AsmTarget.Proofs.Section.Text

namespace AsmTarget

open Text (append_pair_inj)
open Text.Hexadecimal (number number_injective x_not_mem_number)

variable {name other : String} {existing requested existing' requested' : SectionAttributes}

/-! ### The wording -/

/-- **The wording of a conflict** tells the name and both lists of attributes. -/
theorem ContextFault.message_inj
    (same : (sectionConflict name existing requested).message =
      (sectionConflict other existing' requested').message) :
    name = other ∧ existing = existing' ∧ requested = requested' := by
  have written (name : String) (existing requested : SectionAttributes) :
      (sectionConflict name existing requested).message =
        "section '" ++ name ++ "' already exists with different attributes: " ++
          "type " ++ existing.type.name ++ "/" ++ requested.type.name ++
          ", flags 0x" ++ number existing.flags.bits.toNat ++
          "/0x" ++ number requested.flags.bits.toNat ++
          ", kind " ++ existing.kind.name ++ "/" ++ requested.kind.name := by
    unfold message detail
    simp only [String.append_assoc]
  have kind (kind : SectionKind) : ' ' ∉ kind.name.toList ∧ '/' ∉ kind.name.toList := by
    cases kind <;> decide
  have type (type : SectionType) : ' ' ∉ type.name.toList ∧ '/' ∉ type.name.toList := by
    cases type <;> decide
  have flags : Function.Injective fun bits : UInt64 => number bits.toNat :=
    fun _ _ same => UInt64.toNat_inj.mp (number_injective same)
  -- The pairs are taken off one by one, since only what stands after the name has a known shape.
  rw [written, written] at same
  obtain ⟨same, kinds, kinds'⟩ := append_pair_inj SectionKind.name_injective
    (fun one => (kind one).1) (fun one => (kind one).2) rfl rfl same
  obtain ⟨same, bits, bits'⟩ := append_pair_inj flags
    (fun bits => x_not_mem_number bits.toNat) (fun bits => x_not_mem_number bits.toNat) rfl rfl same
  obtain ⟨same, types, types'⟩ := append_pair_inj SectionType.name_injective
    (fun one => (type one).1) (fun one => (type one).2) rfl rfl same
  rw [String.append_left_inj, String.append_right_inj] at same
  exact ⟨same, SectionAttributes.eq_iff.mpr ⟨types, bits, kinds⟩,
    SectionAttributes.eq_iff.mpr ⟨types', bits', kinds'⟩⟩

/-! ### Conflicts -/

namespace Context

variable {context : Context}

/-- A request for a section meets one of the name that is of another type, has another bit in its
flags or is of another kind. -/
structure Conflict (context : Context) (name : String) (existing requested : SectionAttributes) :
    Prop where
  known : context.section? name = some ⟨name, existing⟩
  differs : existing.type ≠ requested.type ∨ existing.flags.bits ≠ requested.flags.bits ∨
    existing.kind ≠ requested.kind

theorem conflict_iff : context.Conflict name existing requested ↔
    context.section? name = some ⟨name, existing⟩ ∧ existing ≠ requested := by
  rw [ne_eq, SectionAttributes.eq_iff, not_and_or, not_and_or]
  exact ⟨fun ⟨known, differs⟩ => ⟨known, differs⟩, fun ⟨known, differs⟩ => ⟨known, differs⟩⟩

/-- A conflict is what a refused request answers with. -/
theorem Conflict.openSection_eq (conflict : context.Conflict name existing requested) :
    (context.openSection name requested).1 =
      .error (.sectionConflict name existing requested) := by
  obtain ⟨known, differ⟩ := conflict_iff.mp conflict
  exact context.openSection_eq_error_iff.mpr ⟨_, known, differ, rfl⟩

/-- **A request is refused** for a conflict and for nothing else. -/
theorem isError_openSection_iff :
    (∃ fault, (context.openSection name requested).1 = .error fault) ↔
      ∃ existing, context.Conflict name existing requested := by
  constructor
  · rintro ⟨fault, refused⟩
    obtain ⟨⟨known, existing⟩, found, differ, -⟩ := context.openSection_eq_error_iff.mp refused
    obtain rfl := context.name_of_section? found
    exact ⟨existing, conflict_iff.mpr ⟨found, differ⟩⟩
  · rintro ⟨existing, conflict⟩
    exact ⟨_, conflict.openSection_eq⟩

/-- After a run, a request meets what the first request for the name asked for. -/
theorem conflict_performAll_iff {actions : List Action} :
    (fresh.performAll actions).2.Conflict name existing requested ↔
      FirstRequest ⟨name, existing⟩ actions ∧ existing ≠ requested := by
  have first : (fresh.performAll actions).2.section? name = some ⟨name, existing⟩ ↔
      FirstRequest ⟨name, existing⟩ actions := by
    rw [section?_performAll]
    exact firstRequest_iff.trans (and_iff_right rfl)
  rw [conflict_iff, first]

/-- **Conflicts are reported when there are any, and their wordings tell them apart.** After any
actions on the fresh context, a request for a section is refused exactly when the name is known with
another type, kind or bit of the flags, which is when the first request for the name asked for other
attributes. Of two such requests, in whatever contexts, the refusals are worded alike exactly when
the names, the known attributes and the requested ones are the same. -/
theorem conflicts_identified (actions otherActions : List Action) (name otherName : String)
    (requested otherRequested : SectionAttributes) :
    let context := (fresh.performAll actions).2
    let other := (fresh.performAll otherActions).2
    ((∃ fault, (context.openSection name requested).1 = .error fault) ↔
        ∃ existing, context.Conflict name existing requested) ∧
      (∀ existing, context.Conflict name existing requested ↔
        FirstRequest ⟨name, existing⟩ actions ∧ existing ≠ requested) ∧
      ∀ existing otherExisting, context.Conflict name existing requested →
        other.Conflict otherName otherExisting otherRequested →
        ∃ fault otherFault, (context.openSection name requested).1 = .error fault ∧
          (other.openSection otherName otherRequested).1 = .error otherFault ∧
          (fault.message = otherFault.message ↔
            name = otherName ∧ existing = otherExisting ∧ requested = otherRequested) := by
  refine ⟨isError_openSection_iff, fun existing => conflict_performAll_iff, ?wording⟩
  case wording =>
    intro existing otherExisting conflict otherConflict
    refine ⟨_, _, conflict.openSection_eq, otherConflict.openSection_eq, ?_⟩
    constructor
    · exact ContextFault.message_inj
    · rintro ⟨rfl, rfl, rfl⟩
      rfl

/-- Flags that no directive shows keep two conflicts about one section apart. -/
theorem conflicts_identified_hidden :
    let data (bits : UInt64) : SectionAttributes := ⟨.progBits, ⟨bits⟩, .data⟩
    let context := (fresh.performAll [.openSection ".data" (data 3)]).2
    context.Conflict ".data" (data 3) (data 0x13) ∧ context.Conflict ".data" (data 3) (data 0x103) ∧
      ∃ fault otherFault, (context.openSection ".data" (data 0x13)).1 = .error fault ∧
        (context.openSection ".data" (data 0x103)).1 = .error otherFault ∧
        fault.message ≠ otherFault.message := by
  intro data context
  have conflict : context.Conflict ".data" (data 3) (data 0x13) :=
    ⟨by decide, .inr (.inl (by decide))⟩
  have otherConflict : context.Conflict ".data" (data 3) (data 0x103) :=
    ⟨by decide, .inr (.inl (by decide))⟩
  obtain ⟨-, -, told⟩ := conflicts_identified [.openSection ".data" (data 3)]
    [.openSection ".data" (data 3)] ".data" ".data" (data 0x13) (data 0x103)
  obtain ⟨fault, otherFault, refused, otherRefused, same⟩ := told _ _ conflict otherConflict
  refine ⟨conflict, otherConflict, fault, otherFault, refused, otherRefused, fun alike => ?_⟩
  exact absurd (same.mp alike).2.2 (by decide)

end Context

end AsmTarget
