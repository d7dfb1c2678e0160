/-
**The dialect of a descriptor shows in one place only.**

The settings choose a dialect, and nothing else in a descriptor depends on them. Most of what is
made of a descriptor does not look at its dialect. The report does, in one of its lines, and no
other line can be taken for that one.

* `Descriptor.withDialect`: another dialect in a descriptor; `Descriptor.Blind`: what is the same
  with any dialect;
* `Descriptor.ofText_withDialect`, `Descriptor.Blind.ofText`: **two descriptors of one text**;
* `Text.MarkedLine`: a text of lines, of which one starts like no other;
* `Descriptor.Built.report_marked`, `Descriptor.reports_marked`: **the line of the dialect** in a
  report, and in two.
-/

import AsmTarget.Descriptor.Extension
import AsmTarget.Proofs.Descriptor.Fields
import AsmTarget.Proofs.Descriptor.Report

namespace AsmTarget

open Text

/-! ### A marked line -/

namespace Text

/-- A text that is apart from a mark is so with whatever comes after it. -/
theorem Apart.append {text mark : String} (apart : Apart text mark) (rest : String) :
    Apart (text ++ rest) mark := by
  refine ⟨apart.excludes (startsWith_append text rest), ?_⟩
  rw [Bool.eq_false_iff]
  intro longer
  have shorter : startsWith mark text = true := by
    rw [startsWith_iff, String.toList_append] at longer
    exact startsWith_iff.mpr ((List.prefix_append _ _).trans longer)
  rw [apart.2] at shorter
  cases shorter

/-- A text is made of single lines, of which one starts with a mark and no other one does. -/
structure MarkedLine (mark text : String) (before : List String) (line : String)
    (after : List String) : Prop where
  text_eq : text = lines (before ++ line :: after)
  single : ∀ each ∈ before ++ line :: after, Single each
  marked : startsWith line mark = true
  unmarked : ∀ each ∈ before ++ after, startsWith each mark = false

end Text

namespace Descriptor

/-! ### Another dialect -/

/-- The descriptor with another dialect, and with all else as it is. -/
def withDialect (descriptor : Descriptor) (dialect : Dialect) : Descriptor :=
  { descriptor with dialect }

/-- What is made of a descriptor without looking at its dialect. -/
def Blind {View : Type} (view : Descriptor → View) : Prop :=
  ∀ descriptor dialect, view (descriptor.withDialect dialect) = view descriptor

theorem build_withDialect (requested : Flavor) (triple : Triple) (first second : Settings) :
    (build requested triple first).withDialect second.dialect = build requested triple second :=
  rfl

/-- **Two descriptors of one text** differ in their dialects at most. -/
theorem ofText_withDialect (text : String) (requested : Option Flavor) (first second : Settings) :
    (ofText text requested first).withDialect second.dialect = ofText text requested second := by
  rw [ofText_eq_build, ofText_eq_build, build_withDialect]

/-- What does not look at the dialect is the same for both. -/
theorem Blind.ofText {View : Type} {view : Descriptor → View} (blind : Blind view) (text : String)
    (requested : Option Flavor) (first second : Settings) :
    view (ofText text requested first) = view (ofText text requested second) := by
  rw [← ofText_withDialect text requested first second, blind]

theorem dialect_ofText (text : String) (requested : Option Flavor) (settings : Settings) :
    (ofText text requested settings).dialect = settings.dialect := by
  rw [ofText_eq_build]
  rfl

theorem blind_hasPersonality : Blind hasPersonality := fun _ _ => rfl

theorem blind_hasStackNote : Blind hasStackNote := fun _ _ => rfl

theorem blind_personality : Blind personality := fun _ _ => rfl

theorem blind_stackNote : Blind stackNote := fun _ _ => rfl

theorem blind_entryFrame : Blind entryFrame := fun _ _ => rfl

theorem blind_translate : Blind fun descriptor => descriptor.aliases.translate := fun _ _ => rfl

/-! ### The report -/

/-- How the line of the dialect starts. -/
def dialectMark : String := "  Dialect: "

/-- The lines of the report before that of the dialect. -/
def linesBefore (descriptor : Descriptor) : List String :=
  descriptor.headLines ++ [""] ++ descriptor.namingLines ++ [""] ++ descriptor.dataLines ++ [""] ++
    descriptor.unwindingLines ++ ["", "--- Inline asm ---"]

/-- The lines of the report after that of the dialect. -/
def linesAfter (descriptor : Descriptor) : List String :=
  "  Constraint aliases:" :: descriptor.aliases.map aliasLine

theorem blind_linesBefore : Blind linesBefore := fun _ _ => rfl

theorem blind_linesAfter : Blind linesAfter := fun _ _ => rfl

theorem reportLines_eq (descriptor : Descriptor) :
    descriptor.reportLines =
      descriptor.linesBefore ++ dialectLine descriptor.dialect :: descriptor.linesAfter := by
  simp [reportLines, linesBefore, linesAfter, inlineLines, dialectLine]

/-- A rule of the call frame starts with its word. -/
theorem apart_instruction (rule : FrameRule) : Apart ("  " ++ rule.instruction) dialectMark := by
  have word : Apart ("  " ++ rule.word) dialectMark :=
    (by decide : ∀ word ∈ [".cfi_def_cfa", ".cfi_offset"], Apart ("  " ++ word) dialectMark) _
      rule.word_mem
  simp only [FrameRule.instruction, ← String.append_assoc]
  exact (((word.append _).append _).append _).append _

theorem unmarked_linesBefore (descriptor : Descriptor) :
    ∀ line ∈ descriptor.linesBefore, startsWith line dialectMark = false := by
  have head : ∀ line ∈ descriptor.headLines, Apart line dialectMark := by
    simp +decide [headLines, Apart.append]
  have naming : ∀ line ∈ descriptor.namingLines, Apart line dialectMark := by
    simp +decide [namingLines, Apart.append]
  have data : ∀ line ∈ descriptor.dataLines, Apart line dialectMark := by
    simp +decide [dataLines, Apart.append]
  have unwinding : ∀ line ∈ descriptor.unwindingLines, Apart line dialectMark := by
    simp +decide [unwindingLines, Apart.append, apart_instruction]
  have empty : ∀ line ∈ [""], startsWith line dialectMark = false := by decide
  have title : ∀ line ∈ ["", "--- Inline asm ---"], startsWith line dialectMark = false := by decide
  simp only [linesBefore, List.forall_mem_append]
  refine ⟨⟨⟨⟨⟨⟨⟨?head, empty⟩, ?naming⟩, empty⟩, ?data⟩, empty⟩, ?unwinding⟩, title⟩
  case head => exact fun line member => (head line member).1
  case naming => exact fun line member => (naming line member).1
  case data => exact fun line member => (data line member).1
  case unwinding => exact fun line member => (unwinding line member).1

theorem unmarked_linesAfter (descriptor : Descriptor) :
    ∀ line ∈ descriptor.linesAfter, startsWith line dialectMark = false := by
  have title : Apart "  Constraint aliases:" dialectMark := by decide
  have indented : Apart "    " dialectMark := by decide
  rw [linesAfter, List.forall_mem_cons, List.forall_mem_map]
  refine ⟨title.1, fun entry _ => ?_⟩
  exact (((indented.append _).append _).append _).1

/-- **The line of the dialect** is the only one in the report that starts as it does. -/
theorem Built.report_marked {descriptor : Descriptor} (built : descriptor.Built) :
    MarkedLine dialectMark descriptor.report descriptor.linesBefore
      (dialectLine descriptor.dialect) descriptor.linesAfter where
  text_eq := by rw [report, reportLines_eq]
  single := by
    rw [← reportLines_eq]
    exact single_reportLines built
  marked := by
    simp only [dialectLine, String.append_assoc]
    exact startsWith_append dialectMark _
  unmarked := List.forall_mem_append.mpr
    ⟨unmarked_linesBefore descriptor, unmarked_linesAfter descriptor⟩

theorem built_ofText (text : String) (requested : Option Flavor) (settings : Settings) :
    (ofText text requested settings).Built := by
  rw [ofText_eq_build]
  exact built_build _ _ settings

/-- **Two reports of one text** have the same lines but for that of the dialect. -/
theorem reports_marked (text : String) (requested : Option Flavor) (first second : Settings) :
    ∃ before after,
      MarkedLine dialectMark (ofText text requested first).report before
        (dialectLine first.dialect) after ∧
      MarkedLine dialectMark (ofText text requested second).report before
        (dialectLine second.dialect) after := by
  have one := (built_ofText text requested first).report_marked
  have other := (built_ofText text requested second).report_marked
  rw [blind_linesBefore.ofText text requested second first,
    blind_linesAfter.ofText text requested second first, dialect_ofText] at other
  rw [dialect_ofText] at one
  exact ⟨_, _, one, other⟩

end Descriptor

end AsmTarget
