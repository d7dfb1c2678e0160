/-
**Encodings combined bit by bit.**

The named formats are numbers and not flags, so bits of several of them may add up to another
format, or to the byte for no pointer. What keeps the named encodings apart is that each is made of
parts with bits of their own: two bits for formats of four bytes, one for formats of eight, one for
a sign, one for each way to apply the value. Combining encodings joins their parts, a size is read
off where the parts leave one, and there are never enough parts for the byte of no pointer.

* `Parts.encoding_join`: **combining is joining**; `Parts.ofList`: the parts of a list, by members;
* `combineAll_eq_encoding`: **the combination of a list** of named encodings, by induction on it;
* `Parts.isIndirect_encoding`, `Parts.isPcRelative_encoding`, `Parts.valueSize?_encoding`: what an
  encoding made of parts says;
* `combineAll_of_omitted`: the byte for no pointer among any others;
* `combineAll_by_members`: **what a combination says**, in terms of the members of the list.
-/

import AsmTarget.PointerEncoding
import Mathlib.Data.List.Basic

namespace AsmTarget.PointerEncoding

/-- The named encodings, but for the one that stands for no pointer. -/
def named : List PointerEncoding :=
  [absolute, unsigned4, unsigned8, signed4, signed8, pcRelative, indirect]

/-- The named formats that fix a size, with the size in bytes. -/
def formats : List (PointerEncoding × Nat) :=
  [(unsigned4, 4), (unsigned8, 8), (signed4, 4), (signed8, 8)]

/-! ### Parts -/

/-- The parts that named encodings are made of. -/
structure Parts where
  /-- A format of four bytes. -/
  four : Bool
  /-- A format of eight bytes. -/
  eight : Bool
  /-- A format with a sign. -/
  sign : Bool
  relative : Bool
  indirect : Bool
  deriving DecidableEq, Repr

namespace Parts

/-- The parts of two encodings together. -/
def join (first second : Parts) : Parts where
  four := first.four || second.four
  eight := first.eight || second.eight
  sign := first.sign || second.sign
  relative := first.relative || second.relative
  indirect := first.indirect || second.indirect

/-- The bits of a part, if it is there. -/
def bits (mask : UInt8) (present : Bool) : UInt8 :=
  if present then mask else 0

/-- The encoding made of parts. -/
def encoding (parts : Parts) : PointerEncoding :=
  ⟨bits 0x03 parts.four ||| bits 0x04 parts.eight ||| bits 0x08 parts.sign |||
    bits 0x10 parts.relative ||| bits 0x80 parts.indirect⟩

theorem bits_or (mask : UInt8) (one other : Bool) :
    bits mask (one || other) = bits mask one ||| bits mask other := by
  cases one <;> cases other <;> simp [bits]

/-- **Combining is joining.** -/
theorem encoding_join (first second : Parts) :
    (first.join second).encoding = first.encoding.combine second.encoding := by
  simp only [encoding, join, bits_or, combine]
  ac_rfl

theorem join_assoc (first second third : Parts) :
    (first.join second).join third = first.join (second.join third) := by
  simp only [join, Bool.or_assoc]

/-- The parts that the members of a list have. -/
def ofList (list : List PointerEncoding) : Parts where
  four := decide (unsigned4 ∈ list ∨ signed4 ∈ list)
  eight := decide (unsigned8 ∈ list ∨ signed8 ∈ list)
  sign := decide (signed4 ∈ list ∨ signed8 ∈ list)
  relative := decide (pcRelative ∈ list)
  indirect := decide (PointerEncoding.indirect ∈ list)

theorem ofList_cons (encoding : PointerEncoding) (list : List PointerEncoding) :
    ofList (encoding :: list) = (ofList [encoding]).join (ofList list) := by
  simp only [ofList, join, List.mem_cons, List.not_mem_nil, or_false, ← Bool.decide_or, mk.injEq,
    decide_eq_decide]
  tauto

theorem join_ofList_nil (parts : Parts) : parts.join (ofList []) = parts := by
  simp [join, ofList]

theorem ofList_nil_join (parts : Parts) : (ofList []).join parts = parts := by
  simp [join, ofList]

/-- A named encoding is made of its own parts. -/
theorem encoding_ofList_singleton :
    ∀ encoding ∈ named, (ofList [encoding]).encoding = encoding := by
  decide

/-! ### What parts say -/

/-- There are few choices of parts, so what holds of all of them is found by looking. -/
instance (test : Parts → Prop) [DecidablePred test] : Decidable (∀ parts, test parts) :=
  decidable_of_iff
    (∀ four eight sign relative indirect, test ⟨four, eight, sign, relative, indirect⟩)
    ⟨fun each parts => each parts.four parts.eight parts.sign parts.relative parts.indirect,
      fun each four eight sign relative indirect => each ⟨four, eight, sign, relative, indirect⟩⟩

variable (parts : Parts)

theorem encoding_ne_omitted : parts.encoding ≠ omitted := by
  revert parts
  decide

theorem isIndirect_encoding : parts.encoding.isIndirect = parts.indirect := by
  revert parts
  decide

theorem isPcRelative_encoding : parts.encoding.isPcRelative = parts.relative := by
  revert parts
  decide

/-- Formats of one size leave a size, with a sign or without. -/
theorem valueSize?_encoding : parts.encoding.valueSize? =
    match parts.four, parts.eight with
    | true, false => some 4
    | false, true => some 8
    | _, _ => none := by
  revert parts
  decide

end Parts

/-! ### Lists -/

variable {list : List PointerEncoding}

/-- What has been combined before stays, and the parts of all members are added to it. -/
theorem foldl_combine (each : ∀ encoding ∈ list, encoding ∈ named) (before : Parts) :
    list.foldl combine before.encoding = (before.join (.ofList list)).encoding := by
  induction list generalizing before with
  | nil => rw [List.foldl_nil, Parts.join_ofList_nil]
  | cons encoding list rest =>
    obtain ⟨known, others⟩ := List.forall_mem_cons.mp each
    have step : before.encoding.combine encoding = (before.join (.ofList [encoding])).encoding := by
      rw [Parts.encoding_join, Parts.encoding_ofList_singleton encoding known]
    rw [List.foldl_cons, step, rest others, Parts.join_assoc, ← Parts.ofList_cons]

/-- **The combination of a list** of named encodings is made of the parts of its members. -/
theorem combineAll_eq_encoding (each : ∀ encoding ∈ list, encoding ∈ named) :
    combineAll list = (Parts.ofList list).encoding := by
  have start : absolute = (Parts.ofList []).encoding := rfl
  rw [combineAll, start, foldl_combine each, Parts.ofList_nil_join]

/-- The sizes of the formats among the members are all the same. -/
theorem forall_formats_iff {size : Nat} :
    (∀ format ∈ formats, format.1 ∈ list → format.2 = size) ↔
      ((Parts.ofList list).four = true → 4 = size) ∧
        ((Parts.ofList list).eight = true → 8 = size) := by
  simp only [formats, List.forall_mem_cons, Parts.ofList, decide_eq_true_eq]
  tauto

theorem exists_formats_iff :
    (∃ format ∈ formats, format.1 ∈ list) ↔
      (Parts.ofList list).four = true ∨ (Parts.ofList list).eight = true := by
  simp only [formats, List.exists_mem_cons_iff, Parts.ofList, decide_eq_true_eq]
  simp only [List.not_mem_nil, false_and, exists_false, or_false]
  tauto

theorem valueSize?_ofList_iff {size : Nat} :
    (Parts.ofList list).encoding.valueSize? = some size ↔
      (∃ format ∈ formats, format.1 ∈ list) ∧
        ∀ format ∈ formats, format.1 ∈ list → format.2 = size := by
  rw [Parts.valueSize?_encoding, forall_formats_iff, exists_formats_iff]
  cases (Parts.ofList list).four <;> cases (Parts.ofList list).eight <;> grind

/-- The byte for no pointer has all bits, so nothing is added to it and it adds all that is
missing. -/
theorem combineAll_of_omitted (member : omitted ∈ list) : combineAll list = omitted := by
  have absorbs (encoding : PointerEncoding) : encoding.combine omitted = omitted :=
    congrArg mk UInt8.or_neg_one
  have stays (encoding : PointerEncoding) : omitted.combine encoding = omitted :=
    congrArg mk UInt8.neg_one_or
  obtain ⟨before, after, rfl⟩ := List.append_of_mem member
  rw [combineAll, List.foldl_append, List.foldl_cons, absorbs]
  exact List.foldl_fixed' stays after

/-- **What a combination says, in terms of its members.** Named encodings in any number and order
never combine to the byte for no pointer. Their combination is indirect, or relative to its own
place, exactly when the encoding for that is among them, and it fixes a size exactly when some of
them do, and all of those the same. As soon as the byte for no pointer is among any bytes, the
combination is that byte and says nothing of all this. -/
theorem combineAll_by_members (list : List PointerEncoding) :
    ((∀ encoding ∈ list, encoding ∈ named) →
      combineAll list ≠ omitted ∧
        ((combineAll list).isIndirect = true ↔ indirect ∈ list) ∧
        ((combineAll list).isPcRelative = true ↔ pcRelative ∈ list) ∧
        ∀ size, (combineAll list).valueSize? = some size ↔
          (∃ format ∈ formats, format.1 ∈ list) ∧
            ∀ format ∈ formats, format.1 ∈ list → format.2 = size) ∧
      (omitted ∈ list → combineAll list = omitted ∧ (combineAll list).isIndirect = false ∧
        (combineAll list).isPcRelative = false ∧ (combineAll list).valueSize? = none) := by
  constructor
  · intro each
    rw [combineAll_eq_encoding each, Parts.isIndirect_encoding, Parts.isPcRelative_encoding]
    exact ⟨Parts.encoding_ne_omitted _, decide_eq_true_iff, decide_eq_true_iff,
      fun size => valueSize?_ofList_iff⟩
  · intro member
    rw [combineAll_of_omitted member]
    decide

/-- Formats of four and of eight bytes leave no size, and the byte for no pointer leaves nothing. -/
theorem combineAll_by_members_mixed :
    let mixed := [unsigned4, indirect, signed8, pcRelative]
    (∀ encoding ∈ mixed, encoding ∈ named) ∧ (combineAll mixed).isIndirect = true ∧
      (combineAll mixed).isPcRelative = true ∧ (∀ size, (combineAll mixed).valueSize? ≠ some size) ∧
      omitted ∈ mixed ++ [omitted] ∧ (combineAll (mixed ++ [omitted])).isIndirect = false := by
  intro mixed
  have each : ∀ encoding ∈ mixed, encoding ∈ named := by decide
  have last : omitted ∈ mixed ++ [omitted] := by decide
  obtain ⟨-, applied, relative, sizes⟩ := (combineAll_by_members mixed).1 each
  obtain ⟨-, nowhere, -⟩ := (combineAll_by_members (mixed ++ [omitted])).2 last
  refine ⟨each, applied.mpr (by decide), relative.mpr (by decide), fun size fixed => ?_, last,
    nowhere⟩
  obtain ⟨-, all⟩ := (sizes size).mp fixed
  have four : 4 = size := all (unsigned4, 4) (by decide) (by decide)
  have eight : 8 = size := all (signed8, 8) (by decide) (by decide)
  omega

/-- What exception tables ask for at personality routines. -/
example : personality = combineAll [indirect, pcRelative, signed4] ∧
    personality.valueSize? = some 4 := by
  decide

end AsmTarget.PointerEncoding
