/-
**A refused request leaves no trace, and a granted one stays on its side.**

Symbols and their uses are one side of a context, sections the other. Every operation that can be
refused touches one side only, and nothing at all when it is refused. Whether a target has an
operation of its own can be asked beforehand, and the answer is what the operation then does.

* `Context.OnSymbols`, `Context.OnSections`: an operation keeps to one side, and leaves the context
  as it was when it is refused;
* `Context.openSection_eq_ok_iff`, `Context.openSection_eq_error_iff`: what a request for a section
  comes to, by the section that is known under the name;
* `Descriptor.isOk_personality_iff`, `Descriptor.isOk_stackNote_iff`: when the two operations are
  granted that not every flavor has;
* `Context.operations_confined`: **all of this, in every context**.
-/

import AsmTarget.Proofs.Emission.History

namespace AsmTarget

namespace Context

variable {Fault Value : Type}

/-- An operation works on symbols: the sections stay as they were, and so does everything when the
operation is refused. It is given by what it comes to and the context after it. -/
structure OnSymbols (before : Context) (step : Except Fault Value × Context) : Prop where
  sections : step.2.sections = before.sections
  refused : ∀ fault, step.1 = .error fault → step.2 = before

/-- An operation works on sections: the symbols and their uses stay as they were, and so does
everything when the operation is refused. -/
structure OnSections (before : Context) (step : Except Fault Value × Context) : Prop where
  symbols : step.2.symbols = before.symbols
  used : step.2.used = before.used
  refused : ∀ fault, step.1 = .error fault → step.2 = before

variable (context : Context)

/-! ### Requests to the context itself -/

theorem onSymbols_internSymbol (name : String) :
    context.OnSymbols (context.internSymbol name) := by
  unfold internSymbol
  cases Symbol.ofName? name with
  | none => exact ⟨rfl, fun _ _ => rfl⟩
  | some symbol => exact ⟨rfl, fun _ refused => nomatch refused⟩

theorem name_of_section? {name : String} {known : Section}
    (found : context.section? name = some known) : known.name = name := by
  simpa using List.find?_some found

/-- A request for a section is met unless the name is known with other attributes. -/
theorem openSection_eq_ok_iff {name : String} {attributes : SectionAttributes} {s : Section} :
    (context.openSection name attributes).1 = .ok s ↔
      s = ⟨name, attributes⟩ ∧ (context.section? name = none ∨
        context.section? name = some ⟨name, attributes⟩) := by
  unfold openSection
  cases found : context.section? name with
  | none => simp [eq_comm]
  | some known =>
    obtain rfl := context.name_of_section? found
    by_cases same : known.attributes = attributes
    · subst same
      simp [eq_comm]
    · have other : known ≠ ⟨known.name, attributes⟩ := fun equal =>
        same (congrArg Section.attributes equal)
      simp [same, other]

/-- A request for a section is refused for the attributes under which the name is known. -/
theorem openSection_eq_error_iff {name : String} {attributes : SectionAttributes}
    {fault : ContextFault} :
    (context.openSection name attributes).1 = .error fault ↔
      ∃ known, context.section? name = some known ∧ known.attributes ≠ attributes ∧
        fault = .sectionConflict name known.attributes attributes := by
  unfold openSection
  cases context.section? name with
  | none => simp
  | some known =>
    by_cases same : known.attributes = attributes
    · simp [same]
    · simp [same, eq_comm (a := fault)]

theorem onSections_openSection (name : String) (attributes : SectionAttributes) :
    context.OnSections (context.openSection name attributes) := by
  refine ⟨?_, ?_, ?_⟩
  · rw [openSection_snd]
  · rw [openSection_snd]
  · intro fault refused
    obtain ⟨known, found, other, -⟩ := context.openSection_eq_error_iff.mp refused
    simp only [openSection, found, if_neg other]

end Context

/-! ### Operations that not every flavor has -/

namespace Descriptor

variable (descriptor : Descriptor) (context : Context)

theorem personality_fst (symbol : Symbol) (encoding : PointerEncoding) :
    (descriptor.personality symbol encoding context).1 =
      (personalityForm? descriptor.flavor symbol).elim
        (.error (.unsupported .personality descriptor.flavor)) .ok := by
  unfold personality
  cases personalityForm? descriptor.flavor symbol <;> rfl

theorem isOk_personality_iff {symbol : Symbol} {encoding : PointerEncoding} :
    (∃ expr, (descriptor.personality symbol encoding context).1 = .ok expr) ↔
      descriptor.hasPersonality = true := by
  rw [descriptor.personality_fst, ← descriptor.isSome_personalityForm? symbol]
  cases personalityForm? descriptor.flavor symbol <;> simp

theorem onSymbols_personality (symbol : Symbol) (encoding : PointerEncoding) :
    context.OnSymbols (descriptor.personality symbol encoding context) := by
  unfold personality
  cases personalityForm? descriptor.flavor symbol with
  | none => exact ⟨rfl, fun _ _ => rfl⟩
  | some expr => exact ⟨rfl, fun _ refused => nomatch refused⟩

theorem mem_symbols_of_personalityForm? {flavor : Flavor} {symbol : Symbol} {expr : Expr}
    (form : personalityForm? flavor symbol = some expr) : symbol ∈ expr.symbols := by
  cases flavor <;> cases form
  exact List.mem_cons_self

/-- Where a target has a form for personality routines, the symbol is known and used afterwards. -/
theorem personality_snd {symbol : Symbol} {encoding : PointerEncoding}
    (supported : descriptor.hasPersonality = true) :
    (descriptor.personality symbol encoding context).2.symbol? symbol.name = some symbol ∧
      (descriptor.personality symbol encoding context).2.isUsed symbol = true := by
  rw [← descriptor.isSome_personalityForm? symbol, Option.isSome_iff_exists] at supported
  obtain ⟨expr, form⟩ := supported
  have inside := mem_symbols_of_personalityForm? form
  have after : (descriptor.personality symbol encoding context).2 = context.record expr := by
    simp only [personality, form]
  rw [after]
  constructor
  · exact Context.symbol?_eq_some (List.mem_union_left inside context.symbols)
  · exact decide_eq_true (List.mem_union_left inside context.used)

/-- The section that says that the stack holds no code. -/
def gnuStack : Section := ⟨".note.GNU-stack", ⟨.progBits, .none, .metadata⟩⟩

theorem stackNote?_eq (flavor : Flavor) :
    stackNote? flavor = if flavor = .elf then some gnuStack else none := by
  cases flavor <;> rfl

theorem hasStackNote_iff : descriptor.hasStackNote = true ↔ descriptor.flavor = .elf := by
  rw [hasStackNote, stackNote?_eq]
  split <;> simp_all

theorem stackNote_of_unsupported (other : descriptor.hasStackNote = false) :
    descriptor.stackNote context =
      (.error (.unsupported .stackNote descriptor.flavor), context) := by
  rw [hasStackNote, Option.isSome_eq_false_iff, Option.isNone_iff_eq_none] at other
  simp only [stackNote, other]

theorem stackNote_of_supported (supported : descriptor.hasStackNote = true) :
    descriptor.stackNote context =
      ((context.openSection gnuStack.name gnuStack.attributes).1.mapError .context,
        (context.openSection gnuStack.name gnuStack.attributes).2) := by
  have note : stackNote? descriptor.flavor = some gnuStack := by
    rw [stackNote?_eq, if_pos (descriptor.hasStackNote_iff.mp supported)]
  simp only [stackNote, note]

theorem isOk_stackNote_iff (supported : descriptor.hasStackNote = true) :
    (∃ s, (descriptor.stackNote context).1 = .ok s) ↔
      context.section? gnuStack.name = none ∨ context.section? gnuStack.name = some gnuStack := by
  simp only [descriptor.stackNote_of_supported context supported, mapError_eq_ok_iff]
  constructor
  · rintro ⟨s, met⟩
    exact (context.openSection_eq_ok_iff.mp met).2
  · intro unopposed
    exact ⟨gnuStack, context.openSection_eq_ok_iff.mpr ⟨rfl, unopposed⟩⟩

/-- Where the request is not met, the refusal tells the attributes that the name is known with. -/
theorem stackNote_ok_or_conflict (supported : descriptor.hasStackNote = true) :
    (∃ s, (descriptor.stackNote context).1 = .ok s) ∨
      ∃ known, context.section? gnuStack.name = some known ∧
        (descriptor.stackNote context).1 = .error (.context
          (.sectionConflict gnuStack.name known.attributes gnuStack.attributes)) := by
  rw [descriptor.stackNote_of_supported context supported]
  cases result : (context.openSection gnuStack.name gnuStack.attributes).1 with
  | ok s => exact .inl ⟨s, rfl⟩
  | error cause =>
    obtain ⟨known, found, -, rfl⟩ := context.openSection_eq_error_iff.mp result
    exact .inr ⟨known, found, rfl⟩

theorem onSections_stackNote : context.OnSections (descriptor.stackNote context) := by
  cases supported : descriptor.hasStackNote with
  | false =>
    rw [descriptor.stackNote_of_unsupported context supported]
    exact ⟨rfl, rfl, fun _ _ => rfl⟩
  | true =>
    rw [descriptor.stackNote_of_supported context supported]
    have confined := context.onSections_openSection gnuStack.name gnuStack.attributes
    refine ⟨confined.symbols, confined.used, fun fault refused => ?_⟩
    cases result : (context.openSection gnuStack.name gnuStack.attributes).1 with
    | ok s => cases (mapError_eq_ok_iff.mpr result).symm.trans refused
    | error cause => exact confined.refused cause result

end Descriptor

/-! ### All operations -/

open Descriptor (gnuStack)

/-- **Requests for symbols, sections and the two extensions, in every context.** Each works on one
side of the context and on nothing when it is refused. A personality routine is referred to exactly
on the targets that say so, and its symbol is known and used then. The stack note is unsupported
exactly on the targets that say so; on the others it is there unless its name is known with other
attributes, which is what the refusal tells then. -/
theorem Context.operations_confined (context : Context) :
    (∀ name, context.OnSymbols (context.internSymbol name)) ∧
      (∀ expr, (context.record expr).sections = context.sections) ∧
      (∀ descriptor : Descriptor, ∀ symbol encoding,
        context.OnSymbols (descriptor.personality symbol encoding context) ∧
        ((∃ expr, (descriptor.personality symbol encoding context).1 = .ok expr) ↔
          descriptor.hasPersonality = true) ∧
        (descriptor.hasPersonality = true →
          (descriptor.personality symbol encoding context).2.symbol? symbol.name = some symbol ∧
          (descriptor.personality symbol encoding context).2.isUsed symbol = true)) ∧
      (∀ name attributes, context.OnSections (context.openSection name attributes)) ∧
      ∀ descriptor : Descriptor,
        context.OnSections (descriptor.stackNote context) ∧
        ((∃ extension flavor,
          (descriptor.stackNote context).1 = .error (.unsupported extension flavor)) ↔
            descriptor.hasStackNote = false) ∧
        (descriptor.hasStackNote = true →
          ((∃ s, (descriptor.stackNote context).1 = .ok s) ↔
            context.section? gnuStack.name = none ∨
            context.section? gnuStack.name = some gnuStack) ∧
          ((∃ s, (descriptor.stackNote context).1 = .ok s) ∨
            ∃ known, context.section? gnuStack.name = some known ∧
              (descriptor.stackNote context).1 = .error (.context
                (.sectionConflict gnuStack.name known.attributes gnuStack.attributes)))) := by
  refine ⟨context.onSymbols_internSymbol, fun _ => rfl, ?personality,
    context.onSections_openSection, ?stackNote⟩
  case personality =>
    intro descriptor symbol encoding
    exact ⟨descriptor.onSymbols_personality context symbol encoding,
      descriptor.isOk_personality_iff context, descriptor.personality_snd context⟩
  case stackNote =>
    intro descriptor
    refine ⟨descriptor.onSections_stackNote context, ?_, fun supported => ?_⟩
    · cases supported : descriptor.hasStackNote with
      | false => simp [descriptor.stackNote_of_unsupported context supported]
      | true =>
        rw [descriptor.stackNote_of_supported context supported]
        cases (context.openSection gnuStack.name gnuStack.attributes).1 <;> simp [Except.mapError]
    · exact ⟨descriptor.isOk_stackNote_iff context supported,
        descriptor.stackNote_ok_or_conflict context supported⟩

end AsmTarget
