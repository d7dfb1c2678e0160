/-
**The texts of a section.**

A section has two texts. The directive that switches to it shows the name as it is, letters for
three of the flags and a word for the type, and nothing but what comes last tells where the name
ends. The JSON has all of the section.

* `SectionFlags.letters_eq_map`: letters picked from a fixed list;
* `SectionFlags.Agree`, `SectionFlags.letters_eq_iff`: the flags that letters tell apart;
* `Section.directive_eq_iff`: **one directive**, read from its end;
* `Section.directives_unambiguous`: all directives, and those of a context after any actions;
* `Section.toJson_injective`, `Section.json_identifies`: **the JSON of a section**.
-/

import AsmTarget.Json.Encode
import AsmTarget.Proofs.Descriptor.Names
import AsmTarget.Proofs.Emission.Refusal
import AsmTarget.Proofs.Json.Text

namespace AsmTarget

/-! ### Flags and their letters -/

namespace SectionFlags

variable {flags other part : SectionFlags}

/-- The flags that a directive shows, each after its letter, in the order of the letters. -/
def lettered : List (Char × SectionFlags) :=
  [('a', allocate), ('w', write), ('x', execute)]

theorem letters_toList (flags : SectionFlags) :
    flags.letters.toList = lettered.flatMap fun entry => flags.letter entry.2 entry.1 := by
  simp [letters, lettered]

/-- The letters are picked from the list of all of them, and so stand in its order. -/
theorem letters_eq_map (flags : SectionFlags) : flags.letters.toList =
    (lettered.filter fun entry => flags.contains entry.2).map Prod.fst := by
  rw [letters_toList]
  induction lettered with
  | nil => rfl
  | cons entry entries rest =>
    rw [List.flatMap_cons, rest, List.filter_cons, letter]
    split <;> rfl

theorem mem_letters_iff_exists {mark : Char} : mark ∈ flags.letters.toList ↔
    ∃ entry ∈ lettered, flags.contains entry.2 = true ∧ entry.1 = mark := by
  simp only [letters_eq_map, List.mem_map, List.mem_filter, and_assoc]

/-- A letter stands for its flag. -/
theorem mem_letters_iff {mark : Char} (entry : (mark, part) ∈ lettered) :
    mark ∈ flags.letters.toList ↔ flags.contains part = true := by
  have apart : ∀ one ∈ lettered, ∀ other ∈ lettered, one.1 = other.1 → one.2 = other.2 := by
    decide
  rw [mem_letters_iff_exists]
  constructor
  · rintro ⟨found, member, contained, same⟩
    have flag : found.2 = part := apart found member _ entry same
    rwa [← flag]
  · intro contained
    exact ⟨(mark, part), entry, contained, rfl⟩

/-- A flag with a letter is a single bit. -/
theorem exists_twoPow_of_lettered :
    ∀ entry ∈ lettered, ∃ i < 3, entry.2.bits.toBitVec = BitVec.twoPow 64 i := by
  decide

/-- A single bit is set or not. -/
theorem and_bits {entry : Char × SectionFlags} (member : entry ∈ lettered) :
    flags.bits &&& entry.2.bits = if flags.contains entry.2 then entry.2.bits else 0 := by
  obtain ⟨i, -, bit⟩ := exists_twoPow_of_lettered entry member
  unfold contains
  split
  · next set => exact eq_of_beq set
  · next unset =>
    rw [beq_iff_eq, ← UInt64.toBitVec_inj, UInt64.toBitVec_and, bit, BitVec.and_twoPow] at unset
    rw [← UInt64.toBitVec_inj, UInt64.toBitVec_and, bit, BitVec.and_twoPow]
    split at unset
    · exact absurd rfl unset
    · next clear => rw [if_neg clear]; rfl

/-- Flags agree on the bits that stand for memory, for writing and for instructions. -/
def Agree (flags other : SectionFlags) : Prop :=
  ∀ part ∈ [allocate, write, execute], flags.bits &&& part.bits = other.bits &&& part.bits

theorem agree_iff : flags.Agree other ↔
    ∀ entry ∈ lettered, flags.bits &&& entry.2.bits = other.bits &&& entry.2.bits := by
  show (∀ part ∈ lettered.map Prod.snd, _) ↔ _
  exact List.forall_mem_map

/-- **The letters** tell the flags apart that do not agree. -/
theorem letters_eq_iff : flags.letters = other.letters ↔ flags.Agree other := by
  rw [agree_iff]
  constructor
  · intro same entry member
    have contained : flags.contains entry.2 = other.contains entry.2 := by
      rw [Bool.eq_iff_iff, ← mem_letters_iff member, same, mem_letters_iff member]
    rw [and_bits member, contained, and_bits member]
  · intro agree
    apply String.toList_injective
    rw [letters_eq_map, letters_eq_map]
    refine congrArg (List.map Prod.fst) (List.filter_congr fun entry member => ?_)
    rw [contains, contains, agree entry member]

theorem quote_not_mem_letters (flags : SectionFlags) : '\"' ∉ flags.letters.toList := by
  have marks : ∀ entry ∈ lettered, entry.1 ≠ '\"' := by decide
  rw [mem_letters_iff_exists]
  rintro ⟨entry, member, -, quote⟩
  exact marks entry member quote

end SectionFlags

/-! ### Attributes and their names -/

theorem SectionAttributes.eq_iff {first second : SectionAttributes} :
    first = second ↔ first.type = second.type ∧ first.flags.bits = second.flags.bits ∧
      first.kind = second.kind := by
  rcases first with ⟨type, ⟨bits⟩, kind⟩
  rcases second with ⟨type', ⟨bits'⟩, kind'⟩
  rw [mk.injEq, SectionFlags.mk.injEq]

theorem SectionType.word_injective : Function.Injective SectionType.word :=
  injective_of_find? all (by rintro ⟨⟩ <;> rfl)

theorem SectionType.name_injective : Function.Injective SectionType.name :=
  injective_of_find? all (by rintro ⟨⟩ <;> rfl)

theorem SectionType.tag_injective : Function.Injective SectionType.tag :=
  injective_of_find? all (by rintro ⟨⟩ <;> rfl)

theorem SectionKind.name_injective : Function.Injective SectionKind.name :=
  injective_of_find? all (by rintro ⟨⟩ <;> rfl)

theorem SectionKind.tag_injective : Function.Injective SectionKind.tag :=
  injective_of_find? all (by rintro ⟨⟩ <;> rfl)

namespace Section

open Text (append_piece_inj)

variable {first second : Section}

/-! ### Directives -/

/-- **One directive** tells the name, the type and the flags with letters. Whatever the name, the
last comma stands before the type, and the last quote but one before the letters. -/
theorem directive_eq_iff : first.directive = second.directive ↔
    first.name = second.name ∧ first.attributes.type = second.attributes.type ∧
      first.attributes.flags.Agree second.attributes.flags := by
  rw [← SectionFlags.letters_eq_iff]
  constructor
  · intro same
    have comma (type : SectionType) : ',' ∉ type.word.toList := by cases type <;> decide
    obtain ⟨same, words⟩ := append_piece_inj ',' rfl (comma _) (comma _) same
    obtain ⟨same, letters⟩ := append_piece_inj '\"' rfl
      (SectionFlags.quote_not_mem_letters _) (SectionFlags.quote_not_mem_letters _) same
    exact ⟨(String.append_right_inj _).mp same, SectionType.word_injective words, letters⟩
  · rintro ⟨names, types, letters⟩
    rw [directive, directive, names, types, letters]

/-- Sections with different names have different directives, also when they are many. -/
theorem nodup_directives {sections : List Section} (apart : (sections.map (·.name)).Nodup) :
    (sections.map directive).Nodup := by
  rw [List.Nodup, List.pairwise_map] at *
  exact apart.imp fun differ same => differ (directive_eq_iff.mp same).1

/-- **Directives are unambiguous.** Two sections have one directive exactly when they have one name
and one type, and agree on the flags with letters. So after any actions on the fresh context, the
sections that are known under two names have one directive exactly when the names are the same, and
no directive is that of two sections. -/
theorem directives_unambiguous (first second : Section) (actions : List Action) :
    let context := (Context.fresh.performAll actions).2
    (first.directive = second.directive ↔
        first.name = second.name ∧ first.attributes.type = second.attributes.type ∧
          first.attributes.flags.Agree second.attributes.flags) ∧
      (∀ name other, context.section? name = some first → context.section? other = some second →
        (first.directive = second.directive ↔ name = other)) ∧
      (context.sections.map directive).Nodup := by
  intro context
  refine ⟨directive_eq_iff, ?known, ?held⟩
  case known =>
    intro name other known otherKnown
    constructor
    · intro same
      rw [← context.name_of_section? known, ← context.name_of_section? otherKnown]
      exact (directive_eq_iff.mp same).1
    · rintro rfl
      rw [Option.some.inj (known.symm.trans otherKnown)]
  case held =>
    exact nodup_directives (Context.unique_fresh.performAll actions).sections

/-- A name may look like the end of a directive. -/
theorem directives_unambiguous_tail :
    let note : SectionAttributes := ⟨.note, .none, .metadata⟩
    let actions := [.openSection ".note" note, .openSection ".note,\"\"" note]
    let context := (Context.fresh.performAll actions).2
    context.section? ".note" = some ⟨".note", note⟩ ∧
      context.section? ".note,\"\"" = some ⟨".note,\"\"", note⟩ ∧
      (⟨".note", note⟩ : Section).directive ≠ (⟨".note,\"\"", note⟩ : Section).directive := by
  intro note actions context
  have known : context.section? ".note" = some ⟨".note", note⟩ := by decide
  have otherKnown : context.section? ".note,\"\"" = some ⟨".note,\"\"", note⟩ := by decide
  obtain ⟨-, told, -⟩ := directives_unambiguous _ _ actions
  refine ⟨known, otherKnown, fun same => ?_⟩
  exact absurd ((told _ _ known otherKnown).mp same) (by decide)

/-! ### JSON -/

theorem toJson_injective : Function.Injective toJson := by
  rintro ⟨name, attributes⟩ ⟨name', attributes'⟩ same
  simp only [toJson, Json.object.injEq, List.cons.injEq, Prod.mk.injEq, Json.string.injEq,
    Json.integer.injEq, Int.natCast_inj, UInt64.toNat_inj, SectionType.tag_injective.eq_iff,
    SectionKind.tag_injective.eq_iff, true_and, and_true] at same
  obtain ⟨names, parts⟩ := same
  rw [names, SectionAttributes.eq_iff.mpr parts]

/-- **The JSON of a section has all of it.** Two texts are the same exactly for equal sections. Of
the sections with one directive, it tells those apart that differ in the kind or in any bit of the
flags. -/
theorem json_identifies (first second : Section) :
    (first.toJson.compact = second.toJson.compact ↔ first = second) ∧
      (first.directive = second.directive →
        (first.toJson.compact = second.toJson.compact ↔
          first.attributes.flags.bits = second.attributes.flags.bits ∧
            first.attributes.kind = second.attributes.kind)) := by
  have texts : first.toJson.compact = second.toJson.compact ↔ first = second := by
    rw [Json.compact_injective.eq_iff, toJson_injective.eq_iff]
  refine ⟨texts, fun shown => ?_⟩
  obtain ⟨names, types, -⟩ := directive_eq_iff.mp shown
  have sections : first = second ↔ first.attributes = second.attributes := by
    cases first
    cases second
    rw [mk.injEq]
    exact and_iff_right names
  rw [texts, sections, SectionAttributes.eq_iff]
  exact and_iff_right types

end Section

end AsmTarget
