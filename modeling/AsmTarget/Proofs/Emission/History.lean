/-
**A context is what its history says.**

A run starts from the fresh context and may be refused in parts. Its history is the list of all
actions with what came of each. The final context holds what the history accounts for and nothing
else.

* `Expr.RefersTo`: a name stands in an expression;
* `Context.history`: the history of a run; `History.Interns`, `History.Records`, `History.Names`,
  `History.Uses`: what can be read off it;
* `FirstRequest`: a section is what the first request for its name asked for;
* `Account`: the context is what the history says;
* `account_performAll`: **every run is accounted for**.
-/

import AsmTarget.Proofs.Emission.Step
import Mathlib.Data.Set.Card

namespace AsmTarget

/-! ### Names in expressions -/

/-- An expression contains a reference to a symbol of this name. -/
inductive Expr.RefersTo (name : String) : Expr → Prop where
  | reference (symbol : Symbol) (kind : ReferenceKind) (same : symbol.name = name) :
    RefersTo name (.reference symbol kind)
  | left (operator : Operator) {left : Expr} (right : Expr) (inside : RefersTo name left) :
    RefersTo name (.binary operator left right)
  | right (operator : Operator) (left : Expr) {right : Expr} (inside : RefersTo name right) :
    RefersTo name (.binary operator left right)

theorem Expr.mem_symbols_iff {expr : Expr} {symbol : Symbol} :
    symbol ∈ expr.symbols ↔ expr.RefersTo symbol.name := by
  induction expr with
  | constant value =>
    constructor
    · intro member
      cases member
    · rintro ⟨⟩
  | reference other kind =>
    rw [Expr.symbols, List.mem_singleton]
    constructor
    · rintro rfl
      exact .reference symbol kind rfl
    · rintro ⟨_, _, same⟩
      exact (Symbol.eq_of_name same).symm
  | binary operator left right inLeft inRight =>
    rw [Expr.symbols, List.mem_append, inLeft, inRight]
    constructor
    · rintro (inside | inside)
      · exact .left operator right inside
      · exact .right operator left inside
    · rintro (_ | ⟨_, _, inside⟩ | ⟨_, _, inside⟩)
      · exact .inl inside
      · exact .inr inside

/-- Only names of symbols stand in an expression. -/
theorem Expr.RefersTo.exists_symbol {expr : Expr} {name : String} (refers : expr.RefersTo name) :
    ∃ symbol ∈ expr.symbols, symbol.name = name := by
  induction refers with
  | reference symbol kind same => exact ⟨symbol, List.mem_singleton.mpr rfl, same⟩
  | left operator right inside found =>
    obtain ⟨symbol, member, same⟩ := found
    exact ⟨symbol, List.mem_append_left _ member, same⟩
  | right operator left inside found =>
    obtain ⟨symbol, member, same⟩ := found
    exact ⟨symbol, List.mem_append_right _ member, same⟩

/-! ### Histories -/

/-- What was asked of a context, each action with what came of it, in the order of asking. -/
abbrev History := List (Action × Except Refusal Reply)

/-- The history of a run. -/
def Context.history (context : Context) (actions : List Action) : History :=
  actions.zip (context.performAll actions).1

namespace History

variable (history : History)

/-- A request for the symbol of this name was met. -/
def Interns (name : String) : Prop :=
  ∃ symbol, (.internSymbol name, .ok (.symbol symbol)) ∈ history

/-- An expression was recorded, by itself or as a reference to a personality routine on a target
that has a form for it. -/
def Records (expr : Expr) : Prop :=
  (.record expr, .ok (.expr expr)) ∈ history ∨
    ∃ descriptor symbol encoding, descriptor.hasPersonality = true ∧
      (.personality descriptor symbol encoding, .ok (.expr expr)) ∈ history

/-- The name stands in a recorded expression. -/
def Uses (name : String) : Prop :=
  ∃ expr, history.Records expr ∧ expr.RefersTo name

/-- The name was made known, by a request for its symbol or by use. -/
def Names (name : String) : Prop :=
  history.Interns name ∨ history.Uses name

end History

/-- The first action that asks for a section of this name asks for this very section. -/
inductive FirstRequest (s : Section) : List Action → Prop where
  | here {action : Action} (actions : List Action) (asks : action.requested? = some s) :
    FirstRequest s (action :: actions)
  | later {action : Action} {actions : List Action}
    (another : ∀ other ∈ action.requested?, other.name ≠ s.name)
    (first : FirstRequest s actions) : FirstRequest s (action :: actions)

/-- Some action asks for a section of this name. -/
def Requested (actions : List Action) (name : String) : Prop :=
  ∃ action ∈ actions, ∃ s ∈ action.requested?, s.name = name

/-- **A context is what a run of actions and its history say.** -/
structure Account (context : Context) (actions : List Action) (history : History) : Prop where
  /-- The names that are known are those that the history names. -/
  known_iff : ∀ name, (context.symbol? name).isSome = true ↔ history.Names name
  /-- A name is known as the name of its own symbol. -/
  known_name : ∀ name, ∀ symbol ∈ context.symbol? name, symbol.name = name
  /-- The used symbols are those in recorded expressions. -/
  used_iff : ∀ symbol, context.isUsed symbol = true ↔ history.Uses symbol.name
  /-- Every used symbol is known. -/
  used_known : ∀ symbol, context.isUsed symbol = true → context.symbol? symbol.name = some symbol
  /-- No symbol is known under the empty name. -/
  empty_unknown : context.symbol? "" = none
  /-- There are as many symbols as names. -/
  symbolCount_eq : (context.symbolCount : ℕ∞) = {name | history.Names name}.encard
  /-- A name stands for the section that the first request for it asked for. -/
  opened_iff : ∀ name s, context.section? name = some s ↔ s.name = name ∧ FirstRequest s actions
  /-- There are as many sections as names that were ever asked for. -/
  sectionCount_eq : (context.sectionCount : ℕ∞) = {name | Requested actions name}.encard

/-! ### Results in a history -/

/-- An action that comes to the same in every context stands in the history with that result. -/
theorem Context.mem_history_iff {action : Action} {fixed : Except Refusal Reply}
    (always : ∀ reached : Context, (reached.perform action).1 = fixed) (context : Context)
    (actions : List Action) (result : Except Refusal Reply) :
    (action, result) ∈ context.history actions ↔ action ∈ actions ∧ result = fixed := by
  induction actions generalizing context with
  | nil => simp [history, performAll]
  | cons first actions run =>
    show (action, result) ∈
      (first, (context.perform first).1) :: (context.perform first).2.history actions ↔ _
    rw [List.mem_cons, run, Prod.mk.injEq, List.mem_cons]
    constructor
    · rintro (⟨rfl, rfl⟩ | ⟨later, same⟩)
      · exact ⟨.inl rfl, always context⟩
      · exact ⟨.inr later, same⟩
    · rintro ⟨rfl | later, same⟩
      · exact .inl ⟨rfl, same.trans (always context).symm⟩
      · exact .inr ⟨later, same⟩

theorem Context.perform_internSymbol (context : Context) (name : String) :
    (context.perform (.internSymbol name)).1 =
      (Symbol.ofName? name).elim (.error (.byContext .emptySymbolName)) (.ok <| .symbol ·) := by
  show ((context.internSymbol name).1.map Reply.symbol).mapError Refusal.byContext = _
  unfold internSymbol
  cases Symbol.ofName? name <;> rfl

theorem Context.perform_personality (context : Context) (descriptor : Descriptor)
    (symbol : Symbol) (encoding : PointerEncoding) :
    (context.perform (.personality descriptor symbol encoding)).1 =
      (Descriptor.personalityForm? descriptor.flavor symbol).elim
        (.error (.byDescriptor (.unsupported .personality descriptor.flavor)))
        (.ok <| .expr ·) := by
  show ((descriptor.personality symbol encoding context).1.map Reply.expr).mapError
    Refusal.byDescriptor = _
  unfold Descriptor.personality
  cases Descriptor.personalityForm? descriptor.flavor symbol <;> rfl

/-- A target has a form for personality routines exactly when it says so. -/
theorem Descriptor.isSome_personalityForm? (descriptor : Descriptor) (symbol : Symbol) :
    (personalityForm? descriptor.flavor symbol).isSome = descriptor.hasPersonality := by
  unfold hasPersonality
  cases descriptor.flavor <;> rfl

namespace Context

variable (context : Context) (actions : List Action)

theorem interns_iff {name : String} : (context.history actions).Interns name ↔
    ∃ action ∈ actions, ∃ symbol ∈ action.interned?, symbol.name = name := by
  have stands := mem_history_iff fun reached => reached.perform_internSymbol name
  constructor
  · rintro ⟨symbol, member⟩
    obtain ⟨asked, met⟩ := (stands context actions _).mp member
    cases found : Symbol.ofName? name with
    | none => rw [found] at met; cases met
    | some other => exact ⟨_, asked, other, found, Symbol.ofName?_eq_some.mp found⟩
  · rintro ⟨action, asked, symbol, interned, rfl⟩
    cases action with
    | internSymbol name =>
      obtain rfl := Symbol.ofName?_eq_some.mp interned
      refine ⟨symbol, (stands context actions _).mpr ⟨asked, ?_⟩⟩
      rw [Symbol.ofName?_eq_some.mpr rfl, Option.elim_some]
    | record | openSection | personality | stackNote => cases interned

theorem records_iff {expr : Expr} : (context.history actions).Records expr ↔
    ∃ action ∈ actions, action.recorded? = some expr := by
  constructor
  · rintro (member | ⟨descriptor, symbol, encoding, supported, member⟩)
    · have asked := (mem_history_iff (fun _ => rfl) context actions _).mp member
      exact ⟨_, asked.1, rfl⟩
    · have stands := mem_history_iff fun reached =>
        reached.perform_personality descriptor symbol encoding
      obtain ⟨asked, met⟩ := (stands context actions _).mp member
      refine ⟨_, asked, ?_⟩
      show Descriptor.personalityForm? descriptor.flavor symbol = some expr
      cases form : Descriptor.personalityForm? descriptor.flavor symbol with
      | none => rw [form] at met; cases met
      | some other => rw [form] at met; cases met; rfl
  · rintro ⟨action, asked, recorded⟩
    cases action with
    | record other =>
      cases recorded
      exact .inl ((mem_history_iff (fun _ => rfl) context actions _).mpr ⟨asked, rfl⟩)
    | personality descriptor symbol encoding =>
      have form : Descriptor.personalityForm? descriptor.flavor symbol = some expr := recorded
      have stands := mem_history_iff fun reached =>
        reached.perform_personality descriptor symbol encoding
      refine .inr ⟨descriptor, symbol, encoding, ?_, (stands context actions _).mpr ⟨asked, ?_⟩⟩
      · rw [← descriptor.isSome_personalityForm? symbol, form, Option.isSome_some]
      · rw [form, Option.elim_some]
    | internSymbol | openSection | stackNote => cases recorded

theorem uses_iff {symbol : Symbol} : (context.history actions).Uses symbol.name ↔
    ∃ action ∈ actions, symbol ∈ action.used := by
  constructor
  · rintro ⟨expr, recorded, refers⟩
    obtain ⟨action, asked, same⟩ := (context.records_iff actions).mp recorded
    refine ⟨action, asked, ?_⟩
    rw [Action.used, same]
    exact Expr.mem_symbols_iff.mpr refers
  · rintro ⟨action, asked, member⟩
    rw [Action.used] at member
    cases same : action.recorded? with
    | none => rw [same] at member; cases member
    | some expr =>
      rw [same] at member
      exact ⟨expr, (context.records_iff actions).mpr ⟨action, asked, same⟩,
        Expr.mem_symbols_iff.mp member⟩

theorem names_iff {symbol : Symbol} : (context.history actions).Names symbol.name ↔
    ∃ action ∈ actions, symbol ∈ action.known := by
  rw [History.Names, interns_iff, uses_iff]
  simp only [Action.known, List.mem_append, Option.mem_toList, and_or_left, exists_or]
  constructor
  · rintro (⟨action, asked, other, interned, same⟩ | used)
    · exact .inl ⟨action, asked, Symbol.eq_of_name same ▸ interned⟩
    · exact .inr used
  · rintro (⟨action, asked, interned⟩ | used)
    · exact .inl ⟨action, asked, symbol, interned, rfl⟩
    · exact .inr used

end Context

/-- Only names of symbols are named in a history. -/
theorem Context.exists_symbol_of_names (context : Context) (actions : List Action) {name : String}
    (named : (context.history actions).Names name) : ∃ symbol : Symbol, symbol.name = name := by
  rcases named with interned | ⟨expr, _, refers⟩
  · obtain ⟨_, _, symbol, _, same⟩ := (context.interns_iff actions).mp interned
    exact ⟨symbol, same⟩
  · obtain ⟨symbol, _, same⟩ := refers.exists_symbol
    exact ⟨symbol, same⟩

/-! ### Requests in a run -/

theorem firstRequest_iff {actions : List Action} {name : String} {s : Section} :
    (actions.filterMap Action.requested?).find? (·.name == name) = some s ↔
      s.name = name ∧ FirstRequest s actions := by
  induction actions with
  | nil =>
    constructor
    · intro found
      cases found
    · rintro ⟨_, ⟨⟩⟩
  | cons action actions first =>
    cases requested : action.requested? with
    | none =>
      rw [List.filterMap_cons_none requested, first]
      refine and_congr_right fun _ => ⟨fun later => .later (by simp [requested]) later, ?_⟩
      rintro (⟨_, asks⟩ | ⟨_, later⟩)
      · rw [requested] at asks
        cases asks
      · exact later
    | some other =>
      rw [List.filterMap_cons_some requested, List.find?_cons]
      by_cases same : other.name = name
      · rw [beq_iff_eq.mpr same]
        constructor
        · rintro ⟨⟩
          exact ⟨same, .here actions requested⟩
        · rintro ⟨named, ⟨_, asks⟩ | ⟨another, _⟩⟩
          · rw [← requested, asks]
          · exact absurd (same.trans named.symm) (another other requested)
      · rw [beq_false_of_ne same, first]
        refine and_congr_right fun named => ⟨fun later => .later ?_ later, ?_⟩
        · intro each asked
          rw [requested] at asked
          cases asked
          exact fun equal => same (equal.trans named)
        · rintro (⟨_, asks⟩ | ⟨_, later⟩)
          · rw [requested] at asks
            cases asks
            exact absurd named same
          · exact later

theorem isSome_section?_performAll_iff {actions : List Action} {name : String} :
    ((Context.fresh.performAll actions).2.section? name).isSome = true ↔
      Requested actions name := by
  rw [Context.section?_performAll]
  show ((actions.filterMap Action.requested?).find? (·.name == name)).isSome = true ↔ _
  rw [List.find?_isSome]
  simp only [List.mem_filterMap, beq_iff_eq, Requested, Option.mem_def]
  constructor
  · rintro ⟨s, ⟨action, asked, asks⟩, same⟩
    exact ⟨action, asked, s, asks, same⟩
  · rintro ⟨action, asked, s, asks, same⟩
    exact ⟨s, ⟨action, asked, asks⟩, same⟩

/-! ### The account of a run -/

/-- A list in which nothing stands twice counts what stands in it. -/
theorem length_eq_encard {names : List String} (apart : names.Nodup) {holds : String → Prop}
    (same : ∀ name, name ∈ names ↔ holds name) :
    (names.length : ℕ∞) = {name | holds name}.encard := by
  have listed : {name | holds name} = (names.toFinset : Set String) := by
    ext name
    rw [List.coe_toFinset, Set.mem_ofPred_eq, Set.mem_ofPred_eq, same]
  rw [listed, Set.encard_coe_eq_coe_finsetCard, List.toFinset_card_of_nodup apart]

/-- A name is known exactly when it is that of a symbol in the table. -/
theorem Context.isSome_symbol?_iff {context : Context} {name : String} :
    (context.symbol? name).isSome = true ↔ name ∈ context.symbols.map (·.name) := by
  rw [symbol?, List.find?_isSome, List.mem_map]
  simp only [beq_iff_eq]

theorem Context.symbol?_eq_some {context : Context} {symbol : Symbol}
    (member : symbol ∈ context.symbols) : context.symbol? symbol.name = some symbol := by
  have known : (context.symbol? symbol.name).isSome = true :=
    isSome_symbol?_iff.mpr (List.mem_map_of_mem member)
  obtain ⟨other, found⟩ := Option.isSome_iff_exists.mp known
  have same : other.name = symbol.name := by simpa using List.find?_some found
  rw [found, Symbol.eq_of_name same]

/-- **Every run is accounted for.** After any actions on the fresh context, done or refused, the
context holds the names that the history names, the uses that it records, and for each name of a
section what the first request for it asked for. -/
theorem account_performAll (actions : List Action) :
    Account (Context.fresh.performAll actions).2 actions (Context.fresh.history actions) := by
  have symbols (symbol : Symbol) : symbol ∈ (Context.fresh.performAll actions).2.symbols ↔
      (Context.fresh.history actions).Names symbol.name := by
    rw [Context.mem_symbols_performAll, Context.names_iff]
    exact or_iff_left List.not_mem_nil
  have used (symbol : Symbol) :
      (Context.fresh.performAll actions).2.isUsed symbol = true ↔
        (Context.fresh.history actions).Uses symbol.name := by
    rw [Context.isUsed, decide_eq_true_eq, Context.mem_used_performAll, Context.uses_iff]
    exact or_iff_left List.not_mem_nil
  have names (name : String) :
      name ∈ (Context.fresh.performAll actions).2.symbols.map (·.name) ↔
        (Context.fresh.history actions).Names name := by
    rw [List.mem_map]
    constructor
    · rintro ⟨symbol, member, rfl⟩
      exact (symbols symbol).mp member
    · intro named
      obtain ⟨symbol, rfl⟩ := Context.fresh.exists_symbol_of_names actions named
      exact ⟨symbol, (symbols symbol).mpr named, rfl⟩
  have unique := Context.unique_fresh.performAll actions
  constructor
  case known_iff =>
    intro name
    rw [Context.isSome_symbol?_iff, names]
  case known_name =>
    intro name symbol found
    simpa using List.find?_some found
  case used_iff => exact used
  case used_known =>
    intro symbol isUsed
    exact Context.symbol?_eq_some ((symbols symbol).mpr (.inr ((used symbol).mp isUsed)))
  case empty_unknown =>
    rw [← Option.not_isSome_iff_eq_none, Context.isSome_symbol?_iff, List.mem_map]
    rintro ⟨symbol, _, empty⟩
    exact symbol.nonempty empty
  case symbolCount_eq =>
    rw [← length_eq_encard (unique.symbols.map fun _ _ => Symbol.eq_of_name) names,
      List.length_map, Context.symbolCount]
  case opened_iff =>
    intro name s
    rw [Context.section?_performAll, ← firstRequest_iff]
    rfl
  case sectionCount_eq =>
    have requested (name : String) :
        name ∈ (Context.fresh.performAll actions).2.sections.map (·.name) ↔
          Requested actions name := by
      rw [← isSome_section?_performAll_iff, Context.section?, List.find?_isSome, List.mem_map]
      simp only [beq_iff_eq]
    rw [← length_eq_encard unique.sections requested, List.length_map, Context.sectionCount]

end AsmTarget
