/-
**What one action does to a context, and what a run does.**

An action has two sides. It may make symbols known and take note of their use, and it may ask for a
section. What it does to each side is read off the action alone, refused or not: a refused action
names no symbol, and a section that is refused is known already.

* `Action.interned?`, `Action.recorded?`, `Action.requested?`: what an action asks for;
* `Context.perform_snd`: **one action**, the context after it;
* `Context.mem_symbols_performAll`, `Context.mem_used_performAll`, `Context.section?_performAll`:
  **a run**, on each of the three parts of a context;
* `Context.Unique`: no symbol and no name of a section is held twice, which every action keeps.
-/

import AsmTarget.Emission.Action
import Mathlib.Data.List.Nodup

namespace AsmTarget

/-! ### What an action asks for -/

namespace Action

/-- The symbol that an action makes known by its name alone. -/
def interned? : Action → Option Symbol
  | .internSymbol name => Symbol.ofName? name
  | .record _ | .openSection .. | .personality .. | .stackNote _ => none

/-- The expression whose symbols an action takes note of. -/
def recorded? : Action → Option Expr
  | .record expr => some expr
  | .personality descriptor symbol _ => Descriptor.personalityForm? descriptor.flavor symbol
  | .internSymbol _ | .openSection .. | .stackNote _ => none

/-- The section that an action asks the context for. -/
def requested? : Action → Option Section
  | .openSection name attributes => some ⟨name, attributes⟩
  | .stackNote descriptor => Descriptor.stackNote? descriptor.flavor
  | .internSymbol _ | .record _ | .personality .. => none

/-- The symbols that an action takes note of. -/
def used (action : Action) : List Symbol :=
  action.recorded?.elim [] Expr.symbols

/-- The symbols that an action makes known. -/
def known (action : Action) : List Symbol :=
  action.interned?.toList ++ action.used

end Action

namespace Context

variable (context : Context)

/-! ### Requests for sections -/

/-- The sections once one has been asked for: a section that was known stays what it was. -/
def sectionsWith (s : Section) : List Section :=
  if (context.section? s.name).isSome then context.sections else s :: context.sections

theorem openSection_snd (name : String) (attributes : SectionAttributes) :
    (context.openSection name attributes).2 =
      { context with sections := context.sectionsWith ⟨name, attributes⟩ } := by
  unfold openSection sectionsWith
  cases context.section? name with
  | none => rfl
  | some known => simp only [Option.isSome_some, if_true]; split <;> rfl

/-- The section of a name once one has been asked for: the known one, or else that one. -/
theorem find?_sectionsWith (s : Section) (name : String) :
    (context.sectionsWith s).find? (·.name == name) =
      (context.section? name).or (if s.name = name then some s else none) := by
  unfold sectionsWith
  by_cases same : s.name = name
  · subst same
    unfold section?
    cases found : context.sections.find? (·.name == s.name) <;> simp [found]
  · unfold section?
    split <;> simp [same]

theorem nodup_sectionsWith (s : Section) (apart : (context.sections.map (·.name)).Nodup) :
    ((context.sectionsWith s).map (·.name)).Nodup := by
  unfold sectionsWith
  split
  · exact apart
  · next new =>
    rw [List.map_cons, List.nodup_cons]
    refine ⟨?_, apart⟩
    intro member
    obtain ⟨known, held, same⟩ := List.mem_map.mp member
    apply new
    rw [section?, List.find?_isSome]
    exact ⟨known, held, by simpa using same⟩

/-! ### One action -/

/-- **The context after an action**, part by part. -/
theorem perform_snd (action : Action) :
    (context.perform action).2 =
      { symbols := action.known ∪ context.symbols
        used := action.used ∪ context.used
        sections := action.requested?.elim context.sections context.sectionsWith } := by
  cases action with
  | internSymbol name =>
    show (context.internSymbol name).2 = Context.mk (((Symbol.ofName? name).toList ++ []) ∪ _) _ _
    unfold internSymbol
    cases Symbol.ofName? name <;> rfl
  | record expr => rfl
  | openSection name attributes => exact context.openSection_snd name attributes
  | personality descriptor symbol encoding =>
    show (descriptor.personality symbol encoding context).2 =
      Context.mk ((Descriptor.personalityForm? descriptor.flavor symbol).elim [] Expr.symbols ∪ _)
        ((Descriptor.personalityForm? descriptor.flavor symbol).elim [] Expr.symbols ∪ _) _
    unfold Descriptor.personality
    cases Descriptor.personalityForm? descriptor.flavor symbol <;> rfl
  | stackNote descriptor =>
    show (descriptor.stackNote context).2 =
      Context.mk _ _ ((Descriptor.stackNote? descriptor.flavor).elim _ context.sectionsWith)
    unfold Descriptor.stackNote
    cases Descriptor.stackNote? descriptor.flavor with
    | none => rfl
    | some note => exact context.openSection_snd note.name note.attributes

/-- The section of a name after an action: the known one, or else the requested one. -/
theorem section?_perform (action : Action) (name : String) :
    (context.perform action).2.section? name =
      (context.section? name).or (action.requested?.filter (·.name == name)) := by
  rw [perform_snd, section?]
  cases action.requested? with
  | none => rw [Option.filter_none, Option.or_none, Option.elim_none, section?]
  | some s => simp [find?_sectionsWith, Option.filter_some]

/-! ### No name twice -/

/-- No symbol is held twice, and no two sections have one name. -/
structure Unique (context : Context) : Prop where
  symbols : context.symbols.Nodup
  sections : (context.sections.map (·.name)).Nodup

theorem unique_fresh : fresh.Unique :=
  ⟨List.nodup_nil, List.nodup_nil⟩

theorem Unique.perform {context : Context} (unique : context.Unique) (action : Action) :
    (context.perform action).2.Unique := by
  rw [perform_snd]
  refine ⟨List.Nodup.union _ unique.symbols, ?_⟩
  cases action.requested? with
  | none => exact unique.sections
  | some s => exact context.nodup_sectionsWith s unique.sections

/-! ### A run -/

/-- A part of the context to which every action adds holds after a run what the actions add. -/
theorem mem_performAll {part : Context → List Symbol} {added : Action → List Symbol}
    (step : ∀ (reached : Context) (action : Action),
      part (reached.perform action).2 = added action ∪ part reached)
    (actions : List Action) (symbol : Symbol) :
    symbol ∈ part (context.performAll actions).2 ↔
      (∃ action ∈ actions, symbol ∈ added action) ∨ symbol ∈ part context := by
  induction actions generalizing context with
  | nil => simp [performAll]
  | cons action actions run =>
    show symbol ∈ part ((context.perform action).2.performAll actions).2 ↔ _
    rw [run, step]
    simp only [List.mem_union_iff, List.mem_cons, exists_eq_or_imp]
    rw [or_left_comm, or_assoc]

theorem mem_symbols_performAll (actions : List Action) (symbol : Symbol) :
    symbol ∈ (context.performAll actions).2.symbols ↔
      (∃ action ∈ actions, symbol ∈ action.known) ∨ symbol ∈ context.symbols :=
  context.mem_performAll (fun reached action => by rw [perform_snd]) actions symbol

theorem mem_used_performAll (actions : List Action) (symbol : Symbol) :
    symbol ∈ (context.performAll actions).2.used ↔
      (∃ action ∈ actions, symbol ∈ action.used) ∨ symbol ∈ context.used :=
  context.mem_performAll (fun reached action => by rw [perform_snd]) actions symbol

/-- The section of a name after a run: the known one, or else the first one that was asked for. -/
theorem section?_performAll (actions : List Action) (name : String) :
    (context.performAll actions).2.section? name =
      (context.section? name).or
        ((actions.filterMap Action.requested?).find? (·.name == name)) := by
  induction actions generalizing context with
  | nil => simp [performAll]
  | cons action actions run =>
    show ((context.perform action).2.performAll actions).2.section? name = _
    rw [run, section?_perform, Option.or_assoc, List.filterMap_cons]
    cases action.requested? with
    | none => rfl
    | some s => by_cases same : s.name = name <;> simp [same, Option.filter_some]

theorem Unique.performAll {context : Context} (unique : context.Unique) (actions : List Action) :
    (context.performAll actions).2.Unique := by
  induction actions generalizing context with
  | nil => exact unique
  | cons action actions run => exact run (unique.perform action)

end Context

end AsmTarget
