/-
**All of a command's output, or none of it.**

A command line can fail in few ways: its settings cannot be resolved, or the command is one of those
that have no output. Which ones these are is read off the command alone, whatever the settings. A
command that fails has written nothing, and one that does not fail ends with code zero.

* `Command.IsRefused`: the commands that have no output;
* `Command.isError_output_iff`: a command is refused under all settings or under none;
* `Outcome.ofRequest_all_or_nothing`: **the outcome of every invocation in all surroundings**.
-/

import AsmTarget.Proofs.Alias.Translation
import AsmTarget.Proofs.Command.Process
import AsmTarget.Proofs.Emission.Refusal
import AsmTarget.Proofs.Flavor.Format

namespace AsmTarget

/-- The commands that have no output. -/
inductive Command.IsRefused : Command → Prop where
  /-- A description in a format that there is not. -/
  | describe (triple : String) {format : String} (unknown : format ∉ ["text", "toml", "json"]) :
    IsRefused (.describe triple (some format))
  /-- Constraints of which one has no entry among the aliases. -/
  | constraint {names : List String} {name : String} (asked : name ∈ names)
    (unknown : name ∉ AliasTable.x86.map (·.1)) : IsRefused (.constraint names)
  /-- A personality routine without a name. -/
  | personality (triple : String) : IsRefused (.personality triple "")
  /-- The stack note of a triple that selects another flavor than ELF. -/
  | stackNote {triple : String} (other : Flavor.select (.parse triple) ≠ .elf) :
    IsRefused (.stackNote triple)

/-! ### What can be refused on the way to an output -/

section Results

variable {Value Other : Type}

theorem isError_map_iff {result : Except Fault Value} {change : Value → Other} :
    (∃ fault, (do return change (← result)) = Except.error fault) ↔
      ∃ fault, result = .error fault := by
  cases result with
  | ok value =>
    constructor
    · rintro ⟨_, ⟨⟩⟩
    · rintro ⟨_, ⟨⟩⟩
  | error fault => exact ⟨fun _ => ⟨fault, rfl⟩, fun _ => ⟨fault, rfl⟩⟩

/-- Of several results one is refused when they are not all there. -/
theorem isError_mapM_iff {list : List Other} {step : Other → Except Fault Value} :
    (∃ fault, list.mapM step = .error fault) ↔
      ∃ item ∈ list, ∃ fault, step item = .error fault := by
  induction list with
  | nil => simp [pure, Except.pure]
  | cons item rest ih =>
    rw [List.mapM_cons, List.exists_mem_cons_iff, ← ih]
    cases step item with
    | error fault => simp [bind, Except.bind]
    | ok value => cases rest.mapM step <;> simp [bind, Except.bind, pure, Except.pure]

end Results

/-! ### Single commands -/

theorem Descriptor.isError_render_iff (descriptor : Descriptor) {format : Option String} :
    (∃ fault, descriptor.render format = .error fault) ↔
      ∃ word ∈ format, word ∉ ["text", "toml", "json"] := by
  have unknown (word : String) :
      OutputFormat.ofName? word = none ↔ word ∉ ["text", "toml", "json"] := by
    show _ ↔ word ∉ OutputFormat.all.map OutputFormat.name
    simp only [OutputFormat.ofName?, List.find?_eq_none, List.mem_map, beq_iff_eq, not_exists,
      not_and]
  cases format with
  | none =>
    have known : OutputFormat.ofName? OutputFormat.text.name = some .text := by decide
    simp [Descriptor.render, known]
  | some word =>
    simp only [Descriptor.render, Option.getD_some, Option.mem_some_iff, exists_eq_left',
      ← unknown]
    cases OutputFormat.ofName? word <;> simp

namespace Command

theorem isError_constraintLine_iff {name : String} :
    (∃ fault, constraintLine name = .error fault) ↔ name ∉ AliasTable.x86.map (·.1) := by
  have absent : AliasTable.x86.wordFor? name = none ↔ name ∉ AliasTable.x86.map (·.1) :=
    AliasTable.wordFor?_eq_none_iff
  rw [constraintLine, isError_map_iff, AliasTable.lookup, ← absent]
  cases AliasTable.x86.wordFor? name <;> simp

/-- A personality routine needs a name, and on no target anything else. -/
theorem isError_personalityLine_iff (descriptor : Descriptor) {name : String} :
    (∃ fault, personalityLine descriptor name = .error fault) ↔ name = "" := by
  unfold personalityLine Context.internSymbol
  cases found : Symbol.ofName? name with
  | none => exact ⟨fun _ => Symbol.ofName?_eq_none.mp found, fun _ => ⟨_, rfl⟩⟩
  | some symbol =>
    have named : name ≠ "" := Symbol.ofName?_eq_some.mp found ▸ symbol.nonempty
    refine iff_of_false ?_ named
    cases supported : descriptor.hasPersonality with
    | false =>
      rintro ⟨fault, refused⟩
      cases refused
    | true =>
      -- The symbol is known by then, which does not matter to the reference.
      let context := { Context.fresh with symbols := [symbol] }
      obtain ⟨expr, made⟩ := (descriptor.isOk_personality_iff context).mpr supported
      rintro ⟨fault, refused⟩
      have line : (do return (← (descriptor.personality symbol .personality context).1).text ++
          " (encoding " ++ PointerEncoding.personality.text ++ ")") = Except.error fault := refused
      rw [made] at line
      cases line

theorem isError_stackNoteLine_iff (descriptor : Descriptor) :
    (∃ fault, stackNoteLine descriptor = .error fault) ↔ descriptor.flavor ≠ .elf := by
  show (∃ fault, (do return (← (descriptor.stackNote .fresh).1).directive) = .error fault) ↔ _
  rw [isError_map_iff, ne_eq, ← descriptor.hasStackNote_iff]
  cases supported : descriptor.hasStackNote with
  | false => simp [descriptor.stackNote_of_unsupported .fresh supported]
  | true =>
    obtain ⟨s, met⟩ := (descriptor.isOk_stackNote_iff .fresh supported).mpr (.inl rfl)
    simp [met]

/-- **The commands without an output** are the refused ones, whatever the settings. -/
theorem isError_output_iff (command : Command) (settings : Settings) :
    (∃ fault, command.output settings = .error fault) ↔ command.IsRefused := by
  cases command with
  | describe triple format =>
    rw [output, Descriptor.isError_render_iff]
    constructor
    · rintro ⟨word, rfl, unknown⟩
      exact .describe triple unknown
    · intro | .describe _ unknown => exact ⟨_, rfl, unknown⟩
  | constraint names =>
    rw [output, isError_map_iff, isError_mapM_iff]
    simp only [isError_constraintLine_iff]
    constructor
    · rintro ⟨name, asked, unknown⟩
      exact .constraint asked unknown
    · intro | .constraint asked unknown => exact ⟨_, asked, unknown⟩
  | personality triple symbol =>
    rw [output, isError_map_iff, isError_personalityLine_iff]
    constructor
    · rintro rfl
      exact .personality triple
    · intro | .personality _ => rfl
  | stackNote triple =>
    rw [output, isError_map_iff, isError_stackNoteLine_iff, descriptor,
      Descriptor.flavor_ofTriple]
    constructor
    · exact .stackNote
    · intro | .stackNote other => exact other
  | select triple | fingerprint triple =>
    refine iff_of_false ?_ nofun
    rintro ⟨fault, ⟨⟩⟩

end Command

/-! ### Outcomes -/

theorem Invocation.isError_result_iff (invocation : Invocation) (surroundings : Surroundings) :
    (∃ fault, invocation.result surroundings = .error fault) ↔
      (∃ fault, invocation.settings surroundings = .error fault) ∨
        invocation.command.IsRefused := by
  rw [result]
  cases invocation.settings surroundings with
  | error fault => exact ⟨fun _ => .inl ⟨fault, rfl⟩, fun _ => ⟨fault, rfl⟩⟩
  | ok settings =>
    rw [← invocation.command.isError_output_iff settings]
    refine ⟨.inr, ?_⟩
    rintro (⟨_, ⟨⟩⟩ | refused)
    exact refused

theorem Outcome.code_ofResult (result : Except Fault String) :
    (Outcome.ofResult result).code = 1 ∧ (Outcome.ofResult result).output = "" ∧
        (∃ fault, result = .error fault) ∨
      (Outcome.ofResult result).code = 0 ∧ ¬ ∃ fault, result = .error fault := by
  cases result with
  | ok output => exact .inr ⟨rfl, fun ⟨_, refused⟩ => nomatch refused⟩
  | error fault => exact .inl ⟨rfl, rfl, fault, rfl⟩

/-- **The outcome of every invocation.** It is that of the steps, where what is written before a
refusal would stay written. The code is one exactly when the settings cannot be resolved or the
command is refused, and zero otherwise; with code one there is no output. Settings that cannot be
resolved are what is complained about, whatever the command. A reference to a personality routine
with a name is never refused. -/
theorem Outcome.ofRequest_all_or_nothing (invocation : Invocation) (surroundings : Surroundings) :
    let outcome := Outcome.ofRequest surroundings (some (.run invocation))
    outcome = (invocation.process surroundings).outcome ∧
      (outcome.code = 1 ↔ (∃ fault, invocation.settings surroundings = .error fault) ∨
        invocation.command.IsRefused) ∧
      (outcome.code = 1 ∧ outcome.output = "" ∨ outcome.code = 0) ∧
      (∀ fault, invocation.settings surroundings = .error fault →
        outcome = { code := 1, output := "", complaint := complaintOf fault }) ∧
      ∀ triple symbol settings, symbol ≠ "" →
        ∃ output, (Command.personality triple symbol).output settings = .ok output := by
  intro outcome
  have ends := Outcome.code_ofResult (invocation.result surroundings)
  rw [invocation.isError_result_iff surroundings] at ends
  refine ⟨(invocation.outcome_process surroundings).symm, ?code, ?output, ?settings, ?personality⟩
  case code =>
    rcases ends with ⟨one, -, fails⟩ | ⟨zero, succeeds⟩
    · exact iff_of_true one fails
    · refine iff_of_false (fun one => ?_) succeeds
      exact absurd (zero.symm.trans one) (by decide)
  case output =>
    rcases ends with ⟨one, empty, -⟩ | ⟨zero, -⟩
    · exact .inl ⟨one, empty⟩
    · exact .inr zero
  case settings =>
    intro fault unresolved
    show Outcome.ofResult (invocation.result surroundings) = Outcome.ofResult (.error fault)
    rw [Invocation.result, unresolved]
    rfl
  case personality =>
    intro triple symbol settings named
    cases result : (Command.personality triple symbol).output settings with
    | ok output => exact ⟨output, rfl⟩
    | error fault =>
      have refused := (Command.isError_output_iff _ settings).mp ⟨fault, result⟩
      cases refused
      exact absurd rfl named

end AsmTarget
