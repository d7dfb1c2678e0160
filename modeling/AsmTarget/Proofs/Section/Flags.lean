/-
**Flags as sets of bits.**

Flags are a word of sixty-four bits, most of them without a letter. One word contains another when
the set of its bits does, and the bits of a union are those of its members. So the union of a list
is the least word that contains all members, in whatever order and however often they come. A letter
stands for a single bit, which a union has only from one of its members, so the letters of a union
are those of its members, each at its own place.

* `SectionFlags.places`: the bits of a word as a set; `contains_iff`: **containing is inclusion**;
* `SectionFlags.places_unionAll`: **the bits of a union**, by induction on the list;
* `SectionFlags.contains_unionAll_iff`: what contains a union contains the members;
* `SectionFlags.sublist_letters`: letters in the order of the directive;
* `SectionFlags.mem_letters_unionAll_iff`: **the letters of a union**;
* `SectionFlags.unionAll_by_members`: a union and its letters, in terms of the members.
-/

import AsmTarget.Proofs.Section.Text
import Mathlib.Data.Set.Lattice

namespace AsmTarget.SectionFlags

variable {flags part small upper : SectionFlags} {list other : List SectionFlags}

/-! ### Containing as inclusion -/

/-- The places of the bits that are set. -/
def places (flags : SectionFlags) : Set Nat :=
  {i | flags.bits.toBitVec.getLsbD i = true}

theorem places_injective : Function.Injective places := by
  rintro ⟨bits⟩ ⟨bits'⟩ same
  rw [mk.injEq, ← UInt64.toBitVec_inj]
  exact BitVec.eq_of_getLsbD_eq fun i _ => Bool.eq_iff_iff.mpr (Set.ext_iff.mp same i)

theorem places_none : places none = ∅ :=
  Set.eq_empty_of_forall_notMem fun i set => by simp [places, none] at set

theorem places_union (first second : SectionFlags) :
    (first.union second).places = first.places ∪ second.places := by
  ext i
  simp [places, union]

/-- **Containing is inclusion.** The test compares the common bits with those of the part, which are
the same when the part has no others. -/
theorem contains_iff : flags.contains part = true ↔ part.places ⊆ flags.places := by
  have common : places ⟨flags.bits &&& part.bits⟩ = flags.places ∩ part.places := by
    ext i
    simp [places]
  rw [← Set.inter_eq_right, ← common, places_injective.eq_iff, contains, beq_iff_eq,
    ← mk.injEq]

theorem contains_refl (flags : SectionFlags) : flags.contains flags = true :=
  contains_iff.mpr subset_rfl

theorem contains_antisymm (one : flags.contains part = true) (back : part.contains flags = true) :
    flags = part :=
  places_injective ((contains_iff.mp back).antisymm (contains_iff.mp one))

theorem contains_trans (one : flags.contains part = true) (next : part.contains small = true) :
    flags.contains small = true :=
  contains_iff.mpr ((contains_iff.mp next).trans (contains_iff.mp one))

/-! ### Unions -/

/-- The bits from before stay, and those of all members are added to them. -/
theorem places_foldl_union (before : SectionFlags) :
    (list.foldl union before).places = before.places ∪ ⋃ flags ∈ list, flags.places := by
  induction list generalizing before with
  | nil => simp
  | cons flags list rest =>
    have split : ⋃ member ∈ flags :: list, member.places =
        flags.places ∪ ⋃ member ∈ list, member.places := by
      simp only [List.mem_cons, Set.iUnion_iUnion_eq_or_left]
    rw [List.foldl_cons, rest, places_union, split, Set.union_assoc]

/-- **The bits of a union** are those of its members. -/
theorem places_unionAll : (unionAll list).places = ⋃ flags ∈ list, flags.places := by
  rw [unionAll, places_foldl_union, places_none, Set.empty_union]

theorem contains_unionAll_iff : upper.contains (unionAll list) = true ↔
    ∀ flags ∈ list, upper.contains flags = true := by
  simp only [contains_iff, places_unionAll, Set.iUnion_subset_iff]

/-- Neither the order of the members counts nor how often they come. -/
theorem unionAll_congr (same : ∀ flags, flags ∈ other ↔ flags ∈ list) :
    unionAll other = unionAll list := by
  apply places_injective
  simp only [places_unionAll, same]

/-! ### Letters -/

theorem places_of_lettered {entry : Char × SectionFlags} (member : entry ∈ lettered) :
    ∃ i, entry.2.places = {i} := by
  obtain ⟨i, below, bit⟩ := exists_twoPow_of_lettered entry member
  have inside : i < 64 := by omega
  refine ⟨i, Set.ext fun j => ?_⟩
  simp [places, bit, BitVec.getLsbD_twoPow, inside, eq_comm]

/-- A union has a single bit from one of its members. -/
theorem contains_unionAll_of_lettered {entry : Char × SectionFlags} (member : entry ∈ lettered) :
    (unionAll list).contains entry.2 = true ↔ ∃ flags ∈ list, flags.contains entry.2 = true := by
  obtain ⟨i, single⟩ := places_of_lettered member
  simp only [contains_iff, single, Set.singleton_subset_iff, places_unionAll, Set.mem_iUnion₂,
    exists_prop]

theorem sublist_letters (flags : SectionFlags) : flags.letters.toList.Sublist "awx".toList := by
  rw [letters_eq_map]
  exact List.filter_sublist.map Prod.fst

theorem nodup_letters (flags : SectionFlags) : flags.letters.toList.Nodup :=
  flags.sublist_letters.nodup (by decide)

/-- **The letters of a union** are those of its members. -/
theorem mem_letters_unionAll_iff {mark : Char} : mark ∈ (unionAll list).letters.toList ↔
    ∃ flags ∈ list, mark ∈ flags.letters.toList := by
  simp only [mem_letters_iff_exists]
  constructor
  · rintro ⟨entry, member, contained, same⟩
    obtain ⟨flags, among, has⟩ := (contains_unionAll_of_lettered member).mp contained
    exact ⟨flags, among, entry, member, has, same⟩
  · rintro ⟨flags, among, entry, member, has, same⟩
    exact ⟨entry, member, (contains_unionAll_of_lettered member).mpr ⟨flags, among, has⟩, same⟩

/-- **A union in terms of its members.** Containing is an order on flags, whatever their bits stand
for. In this order the union of a list is the least word that contains every member, and so it is
the same for all lists with these members. Its letters stand in the order of the directive, none of
them twice, and are those that some member has. -/
theorem unionAll_by_members (list : List SectionFlags) :
    ((∀ flags : SectionFlags, flags.contains flags = true) ∧
      (∀ flags part : SectionFlags, flags.contains part = true → part.contains flags = true →
        flags = part) ∧
      ∀ flags part small : SectionFlags, flags.contains part = true → part.contains small = true →
        flags.contains small = true) ∧
    ((∀ flags ∈ list, (unionAll list).contains flags = true) ∧
      (∀ upper : SectionFlags, (∀ flags ∈ list, upper.contains flags = true) →
        upper.contains (unionAll list) = true) ∧
      ∀ other : List SectionFlags, (∀ flags, flags ∈ other ↔ flags ∈ list) →
        unionAll other = unionAll list) ∧
    (unionAll list).letters.toList.Sublist "awx".toList ∧ (unionAll list).letters.toList.Nodup ∧
      ∀ mark, mark ∈ (unionAll list).letters.toList ↔
        ∃ flags ∈ list, mark ∈ flags.letters.toList := by
  refine ⟨⟨contains_refl, fun _ _ => contains_antisymm, fun _ _ _ => contains_trans⟩,
    ⟨?bound, fun _ => contains_unionAll_iff.mpr, fun _ => unionAll_congr⟩,
    sublist_letters _, nodup_letters _, fun _ => mem_letters_unionAll_iff⟩
  case bound =>
    exact contains_unionAll_iff.mp (contains_refl _)

/-- The highest bit has no letter, but is a bit of the union all the same. -/
theorem unionAll_by_members_highest :
    let highest : SectionFlags := ⟨0x8000000000000000⟩
    let list := [execute, highest, write, execute]
    let other := [write, execute, highest]
    let upper : SectionFlags := ⟨0x80000000000000ff⟩
    (∀ flags ∈ list, upper.contains flags = true) ∧ upper.contains (unionAll list) = true ∧
      (unionAll list).contains highest = true ∧ upper ≠ unionAll list ∧
      (unionAll list).contains upper = false ∧
      (∀ flags, flags ∈ other ↔ flags ∈ list) ∧ unionAll other = unionAll list ∧
      'a' ∉ (unionAll list).letters.toList ∧ 'w' ∈ (unionAll list).letters.toList := by
  intro highest list other upper
  have each : ∀ flags ∈ list, upper.contains flags = true := by decide
  have same : ∀ flags, flags ∈ other ↔ flags ∈ list := by
    intro flags
    simp only [list, other, List.mem_cons, List.not_mem_nil, or_false]
    tauto
  have differ : upper ≠ unionAll list := by decide
  obtain ⟨⟨-, antisymm, -⟩, ⟨bound, least, congr⟩, -, -, marks⟩ := unionAll_by_members list
  refine ⟨each, least upper each, bound highest (by decide), differ, ?larger, same,
    congr other same, fun shown => ?none, (marks 'w').mpr ⟨write, by decide, by decide⟩⟩
  case larger =>
    exact Bool.eq_false_iff.mpr fun back => differ (antisymm _ _ (least upper each) back)
  case none =>
    obtain ⟨flags, member, inside⟩ := (marks 'a').mp shown
    exact absurd inside ((by decide : ∀ flags ∈ list, 'a' ∉ flags.letters.toList) flags member)

end AsmTarget.SectionFlags
