/-
**What the report shows.**

The report leaves the slot size out. It shows in the first rule of the call frame, as a signed
number, from which the size is found again. Flavor, triple and dialect have lines of their own.

* `Descriptor.single_reportLines`: each line of a built descriptor's report is a single one;
* `Descriptor.Built.report_eq_iff`: **built descriptors with one report are equal**.
-/

import AsmTarget.Descriptor.Report
import AsmTarget.Proofs.Descriptor.Built
import AsmTarget.Proofs.Descriptor.Names
import AsmTarget.Proofs.Frame.Directive

namespace AsmTarget

open Text

/-! ### Single lines -/

theorem Triple.single_text (triple : Triple) : Single triple.text := by
  have architecture : Single triple.architecture.name := by cases triple.architecture <;> decide
  have vendor : Single triple.vendor.name := by cases triple.vendor <;> decide
  have system : Single triple.system.name := by cases triple.system <;> decide
  have ending : Single triple.environment.ending := by cases triple.environment <;> decide
  show Single (_ ++ triple.environment.ending)
  simp +decide [architecture, vendor, system, ending]

namespace Descriptor

theorem single_headLines (descriptor : Descriptor) :
    ∀ line ∈ descriptor.headLines, Single line := by
  have triple := descriptor.triple.single_text
  have flavor : Single descriptor.flavor.name := by cases descriptor.flavor <;> decide
  have format : Single descriptor.flavor.objectFormat.name := by
    cases descriptor.flavor.objectFormat <;> decide
  simp +decide [headLines, triple, flavor, format]

theorem single_namingLines (descriptor : Descriptor) :
    ∀ line ∈ descriptor.namingLines, Single line := by
  have weak : Single (descriptor.weakReference.elim "(none)" quoted) := by
    cases descriptor.weakReference
    · decide
    · exact single_quoted _
  simp +decide [namingLines, weak]

theorem single_yesNo (value : Bool) : Single (yesNo value) := by
  cases value <;> decide

theorem single_dataLines (descriptor : Descriptor) :
    ∀ line ∈ descriptor.dataLines, Single line := by
  have wide : Single (descriptor.data64.elim "(split into two 32-bit units)" quoted) := by
    cases descriptor.data64
    · decide
    · exact single_quoted _
  have fill : Single (String.ofList [Hexadecimal.capital (descriptor.alignFill.toNat / 16),
      Hexadecimal.capital (descriptor.alignFill.toNat % 16)]) := by
    have digit : ∀ value < 16, '\n' ≠ Hexadecimal.capital value := by decide
    have bound := descriptor.alignFill.toNat_lt
    have high := digit (descriptor.alignFill.toNat / 16) (by omega)
    have low := digit (descriptor.alignFill.toNat % 16) (by omega)
    simp [Single, high, low]
  simp +decide [dataLines, wide, fill, single_yesNo, -String.ofList_cons]

theorem single_unwindingLines (descriptor : Descriptor) :
    ∀ line ∈ descriptor.unwindingLines, Single line := by
  have exceptions : Single descriptor.exceptions.name := by cases descriptor.exceptions <;> decide
  simp +decide [unwindingLines, entryFrame, exceptions, single_yesNo]

theorem single_inlineLines {descriptor : Descriptor} (built : descriptor.Built) :
    ∀ line ∈ descriptor.inlineLines, Single line := by
  have dialect : Single descriptor.dialect.name := by cases descriptor.dialect <;> decide
  have description : Single descriptor.dialect.description := by
    cases descriptor.dialect <;> decide
  have aliases : ∀ line ∈ AliasTable.x86.map aliasLine, Single line := by decide
  have upper : ∀ line ∈ ["--- Inline asm ---", "  Dialect: " ++ descriptor.dialect.name ++ " (" ++
      Decimal.natural descriptor.dialect.index ++ "): " ++ descriptor.dialect.description,
      "  Constraint aliases:"], Single line := by
    simp +decide [dialect, description]
  rw [inlineLines, built.aliases_eq]
  intro line member
  exact (List.mem_append.mp member).elim (upper line) (aliases line)

theorem single_reportLines {descriptor : Descriptor} (built : descriptor.Built) :
    ∀ line ∈ descriptor.reportLines, Single line := by
  have empty : Single "" := by decide
  simp only [reportLines, List.mem_append, List.mem_singleton]
  rintro line ((((((((head | rfl) | naming) | rfl) | data) | rfl) | unwinding) | rfl) | inline)
  · exact single_headLines descriptor line head
  · exact empty
  · exact single_namingLines descriptor line naming
  · exact empty
  · exact single_dataLines descriptor line data
  · exact empty
  · exact single_unwindingLines descriptor line unwinding
  · exact empty
  · exact single_inlineLines built line inline

/-! ### The report -/

variable {first second : Descriptor}

/-- Reports are the same when their parts are: each part but the last has a fixed number of
lines. -/
theorem parts_eq (same : first.reportLines = second.reportLines) :
    first.headLines = second.headLines ∧ first.unwindingLines = second.unwindingLines ∧
      first.inlineLines = second.inlineLines := by
  have head (descriptor : Descriptor) : descriptor.headLines.length = 3 := rfl
  have naming (descriptor : Descriptor) : descriptor.namingLines.length = 6 := rfl
  have data (descriptor : Descriptor) : descriptor.dataLines.length = 8 := rfl
  have unwinding (descriptor : Descriptor) : descriptor.unwindingLines.length = 7 := rfl
  simp only [reportLines, List.append_assoc, List.singleton_append] at same
  obtain ⟨heads, same⟩ := List.append_inj same (by rw [head, head])
  obtain ⟨-, same⟩ := List.append_inj (List.cons.inj same).2 (by rw [naming, naming])
  obtain ⟨-, same⟩ := List.append_inj (List.cons.inj same).2 (by rw [data, data])
  obtain ⟨unwindings, same⟩ := List.append_inj (List.cons.inj same).2 (by rw [unwinding, unwinding])
  exact ⟨heads, unwindings, (List.cons.inj same).2⟩

theorem slotSize_eq (same : first.unwindingLines = second.unwindingLines) :
    first.slotSize = second.slotSize := by
  simp only [unwindingLines, entryFrame, List.map_cons, List.cons_append, List.nil_append,
    List.cons.injEq, String.append_right_inj, FrameRule.instruction_injective.eq_iff,
    FrameRule.frameAddress.injEq] at same
  -- The signed number in the first rule keeps all bits of the size.
  obtain ⟨-, -, -, -, -, ⟨-, slots⟩, -⟩ := same
  exact congrArg Int32.toUInt32 slots

/-- The line of a dialect in the report. -/
def dialectLine (dialect : Dialect) : String :=
  "  Dialect: " ++ dialect.name ++ " (" ++ Decimal.natural dialect.index ++ "): " ++
    dialect.description

theorem dialectLine_injective : Function.Injective dialectLine := by
  intro dialect other same
  have blank (dialect : Dialect) : ' ' ∉ dialect.name.toList := by cases dialect <;> decide
  have opening : " (".toList = [' ', '('] := rfl
  simp only [dialectLine, String.append_assoc, String.append_right_inj] at same
  have texts := congrArg String.toList same
  simp only [String.toList_append, opening, List.cons_append] at texts
  obtain ⟨names, -⟩ := append_mark_inj (blank dialect) (blank other) texts
  exact Dialect.name_injective (String.toList_injective names)

theorem dialect_eq (same : first.inlineLines = second.inlineLines) :
    first.dialect = second.dialect := by
  simp only [inlineLines, List.cons_append, List.cons.injEq, true_and] at same
  exact dialectLine_injective same.1

/-- **Built descriptors with one report are equal.** -/
theorem Built.report_eq_iff (built : first.Built) (otherBuilt : second.Built) :
    first.report = second.report ↔ first = second := by
  refine ⟨fun same => ?_, fun same => by rw [same]⟩
  have reports := lines_inj (single_reportLines built) (single_reportLines otherBuilt) same
  obtain ⟨heads, unwindings, inlines⟩ := parts_eq reports
  simp only [headLines, List.cons.injEq, String.append_right_inj, String.append_left_inj,
    Triple.text_injective.eq_iff, Flavor.name_injective.eq_iff] at heads
  obtain ⟨triples, flavors, -⟩ := heads
  exact (built.eq_iff otherBuilt).mpr
    ⟨flavors, triples, dialect_eq inlines, slotSize_eq unwindings⟩

end Descriptor

end AsmTarget
