/-
**What the dialect of the settings makes of a command.**

Two runs of the program may come to different settings, by options or by files in different
directories. A command that shows no descriptor ends in one way under both. Descriptions differ in
the line of the dialect and nowhere else, and the texts behind fingerprints differ when the dialects
do.

* `Command.EndsWith`: how the program ends whenever it is run for a command under settings;
  `Command.endsWith_iff`: there are such runs, and they end in one way;
* `Command.output_eq_of_hidden`: the commands that do not show a descriptor;
* `Descriptor.ofText_eq_iff`: two descriptors of one text;
* `Settings.dialect_confined`: **any two settings**, for every text.
-/

import AsmTarget.Command.Outcome
import AsmTarget.Proofs.Descriptor.Dialect
import AsmTarget.Proofs.Descriptor.Views

namespace AsmTarget

open Descriptor (Blind ofText dialectLine dialectMark)
open Text (MarkedLine)

/-! ### Runs under settings -/

namespace Command

/-- The program ends with an outcome whenever it is run for a command and comes to the settings, by
whatever options and in whatever surroundings. -/
def EndsWith (command : Command) (settings : Settings) (outcome : Outcome) : Prop :=
  ∀ (invocation : Invocation) (surroundings : Surroundings), invocation.command = command →
    invocation.settings surroundings = .ok settings →
    Outcome.ofRequest surroundings (some (.run invocation)) = outcome

theorem outcome_of_settings {invocation : Invocation} {surroundings : Surroundings}
    {settings : Settings} (resolved : invocation.settings surroundings = .ok settings) :
    Outcome.ofRequest surroundings (some (.run invocation)) =
      .ofResult (invocation.command.output settings) := by
  rw [Outcome.ofRequest, Invocation.result, resolved]
  rfl

/-- **There is one way to end** for a command under settings. The option for the dialect is enough
to come to any settings, so that there are such runs. -/
theorem endsWith_iff {command : Command} {settings : Settings} {outcome : Outcome} :
    command.EndsWith settings outcome ↔ outcome = .ofResult (command.output settings) := by
  constructor
  · intro ends
    let invocation : Invocation :=
      { dialect := some settings.dialect, settingsFile := none, command }
    let surroundings : Surroundings := { directory := "", look := fun _ => .absent }
    have resolved : invocation.settings surroundings = .ok settings := rfl
    exact (ends invocation surroundings rfl resolved).symm.trans (outcome_of_settings resolved)
  · rintro rfl invocation surroundings rfl resolved
    exact outcome_of_settings resolved

/-! ### Commands that do not show a descriptor -/

theorem blind_personalityLine : Blind personalityLine := fun _ _ => rfl

theorem blind_stackNoteLine : Blind stackNoteLine := fun _ _ => rfl

/-- The output of a command that shows no descriptor is the same under all settings. -/
theorem output_eq_of_hidden (text symbol : String) (names : List String)
    (first second : Settings) :
    ∀ command ∈ [select text, constraint names, personality text symbol, stackNote text],
      command.output first = command.output second := by
  simp only [List.forall_mem_cons]
  refine ⟨rfl, rfl, ?personality, ?stackNote, List.forall_mem_nil _⟩
  case personality =>
    have same := congrFun (blind_personalityLine.ofText text none first second) symbol
    exact congrArg (fun line => do return Text.lines [← line]) same
  case stackNote =>
    have same := blind_stackNoteLine.ofText text none first second
    exact congrArg (fun line => do return Text.lines [← line]) same

/-- A description in text, whether the format is left out or named, writes the report. -/
theorem endsWith_report (text : String) (settings : Settings) :
    ∀ format ∈ [none, some "text"], (describe text format).EndsWith settings
      { code := 0, output := (ofText text none settings).report, complaint := "" } := by
  simp only [List.forall_mem_cons]
  exact ⟨endsWith_iff.mpr rfl, endsWith_iff.mpr rfl, List.forall_mem_nil _⟩

end Command

/-! ### Any two settings -/

/-- Two descriptors of one text are equal when the dialects are. -/
theorem Descriptor.ofText_eq_iff {text : String} {requested : Option Flavor}
    {first second : Settings} :
    ofText text requested first = ofText text requested second ↔
      first.dialect = second.dialect := by
  constructor
  · intro same
    rw [← dialect_ofText text requested first, same, dialect_ofText]
  · intro same
    rw [← ofText_withDialect text requested first second, ← same]
    exact (ofText_withDialect text requested first first).symm

/-- **What the dialect of the settings reaches, for every text and any two settings.** The two
descriptors differ in their dialects at most, so that all they are asked gets one answer, in every
context. The commands that show no descriptor end in the same way. Either report is the same lines
around that of the dialect, which no other line can be taken for and which differs with the dialect,
and so do the texts behind the fingerprints. -/
theorem Settings.dialect_confined (text symbol : String) (names : List String)
    (requested : Option Flavor) (first second : Settings) :
    let one := ofText text requested first
    let other := ofText text requested second
    (one.withDialect second.dialect = other ∧
      one.hasPersonality = other.hasPersonality ∧ one.hasStackNote = other.hasStackNote ∧
      one.entryFrame = other.entryFrame ∧
      (∀ list, one.aliases.translate list = other.aliases.translate list) ∧
      (∀ routine encoding context, one.personality routine encoding context =
        other.personality routine encoding context) ∧
      ∀ context, one.stackNote context = other.stackNote context) ∧
    (∀ command ∈ [.select text, .constraint names, .personality text symbol, .stackNote text],
      ∃ outcome, Command.EndsWith command first outcome ∧ command.EndsWith second outcome) ∧
    (∀ format ∈ [none, some "text"], ∃ report otherReport before line otherLine after,
      (Command.describe text format).EndsWith first ⟨0, report, ""⟩ ∧
      (Command.describe text format).EndsWith second ⟨0, otherReport, ""⟩ ∧
      MarkedLine dialectMark report before line after ∧
      MarkedLine dialectMark otherReport before otherLine after ∧
      (line = otherLine ↔ first.dialect = second.dialect)) ∧
    (one.jsonText = other.jsonText ↔ first.dialect = second.dialect) := by
  intro one other
  have same {View : Type} {view : Descriptor → View} (blind : Blind view) : view one = view other :=
    blind.ofText text requested first second
  refine ⟨⟨Descriptor.ofText_withDialect text requested first second,
    same Descriptor.blind_hasPersonality,
    same Descriptor.blind_hasStackNote, same Descriptor.blind_entryFrame,
    congrFun (same Descriptor.blind_translate), ?personality,
    congrFun (same Descriptor.blind_stackNote)⟩, ?commands, ?reports, ?texts⟩
  case personality =>
    intro routine encoding context
    rw [same Descriptor.blind_personality]
  case commands =>
    intro command hidden
    have output := Command.output_eq_of_hidden text symbol names first second command hidden
    exact ⟨_, Command.endsWith_iff.mpr rfl, Command.endsWith_iff.mpr (congrArg _ output)⟩
  case reports =>
    intro format textual
    obtain ⟨before, after, report, otherReport⟩ :=
      Descriptor.reports_marked text none first second
    exact ⟨_, _, before, _, _, after, Command.endsWith_report text first format textual,
      Command.endsWith_report text second format textual, report, otherReport,
      Descriptor.dialectLine_injective.eq_iff⟩
  case texts =>
    rw [(Descriptor.built_ofText text requested first).jsonText_eq_iff
      (Descriptor.built_ofText text requested second), Descriptor.ofText_eq_iff]

end AsmTarget
