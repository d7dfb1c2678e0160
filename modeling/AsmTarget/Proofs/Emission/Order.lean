/-
**The order of an emission does not matter, and its two sides do not see each other.**

An action adds to a context what it asks for and never takes anything away, so what an action comes
to can depend on the actions before it in one way only: a request for a section finds the attributes
of an earlier request for the same name.

* `Context.granted`: the section that a request finds or makes, on which its result depends;
* `Context.Holds`: everything that an action asks for is there already. It is so after the action
  and stays so (`Holds.perform`), and then the action changes nothing (`Holds.perform_snd`);
* `Action.Agree`: the actions ask for no section with two kinds of attributes. Then each of them
  comes to what it comes to alone (`performAll_fst_of_agree`);
* `Context.Separate`: a part of a context that the actions of one side see and change alone, and
  `Separate.performAll`: what a run makes of such a part;
* `Context.performAll_order_irrelevant`: **two orders, repetitions, and the two sides of a run**.
-/

import AsmTarget.Descriptor.Build
import AsmTarget.Proofs.Emission.Refusal
import Mathlib.Data.List.Lattice

namespace AsmTarget

namespace Context

variable (context : Context)

/-! ### What the result of an action depends on -/

/-- The section that a request finds in the context, or else makes. -/
def granted (s : Section) : Section :=
  (context.section? s.name).getD s

theorem openSection_fst (name : String) (attributes : SectionAttributes) :
    (context.openSection name attributes).1 =
      let found := context.granted ⟨name, attributes⟩
      if found.attributes = attributes then .ok found
      else .error (.sectionConflict name found.attributes attributes) := by
  unfold openSection granted
  cases context.section? name with
  | none => simp
  | some known =>
    by_cases same : known.attributes = attributes
    · simp [same]
    · simp [same]

/-- **What an action comes to** depends on the context through the section that it asks for. -/
theorem perform_fst_congr {first second : Context} {action : Action}
    (same : ∀ s ∈ action.requested?, first.granted s = second.granted s) :
    (first.perform action).1 = (second.perform action).1 := by
  cases action with
  | internSymbol name => rw [perform_internSymbol, perform_internSymbol]
  | record expr => rfl
  | openSection name attributes =>
    have result := same ⟨name, attributes⟩ rfl
    show ((first.openSection name attributes).1.map Reply.opened).mapError Refusal.byContext =
      ((second.openSection name attributes).1.map Reply.opened).mapError Refusal.byContext
    rw [openSection_fst, openSection_fst, result]
  | personality descriptor symbol encoding =>
    rw [perform_personality, perform_personality]
  | stackNote descriptor =>
    show ((descriptor.stackNote first).1.map Reply.opened).mapError Refusal.byDescriptor =
      ((descriptor.stackNote second).1.map Reply.opened).mapError Refusal.byDescriptor
    cases supported : descriptor.hasStackNote with
    | false =>
      rw [descriptor.stackNote_of_unsupported first supported,
        descriptor.stackNote_of_unsupported second supported]
    | true =>
      have asks : Descriptor.stackNote? descriptor.flavor = some Descriptor.gnuStack := by
        rw [Descriptor.stackNote?_eq, if_pos (descriptor.hasStackNote_iff.mp supported)]
      rw [descriptor.stackNote_of_supported first supported,
        descriptor.stackNote_of_supported second supported, openSection_fst, openSection_fst,
        same Descriptor.gnuStack asks]

/-! ### Actions done again -/

/-- Everything that an action asks for is there already. -/
structure Holds (action : Action) : Prop where
  known : action.known ⊆ context.symbols
  used : action.used ⊆ context.used
  requested : ∀ s ∈ action.requested?, (context.section? s.name).isSome = true

variable {context}

theorem holds_perform (action : Action) : (context.perform action).2.Holds action := by
  refine ⟨fun symbol member => ?_, fun symbol member => ?_, fun s asks => ?_⟩
  · rw [perform_snd]
    exact List.mem_union_left member _
  · rw [perform_snd]
    exact List.mem_union_left member _
  · rw [section?_perform, Option.mem_def.mp asks, Option.filter_some, beq_self_eq_true, if_pos rfl,
      Option.isSome_or]
    exact Bool.or_true _

/-- What is there stays there. -/
theorem Holds.perform {action : Action} (holds : context.Holds action) (other : Action) :
    (context.perform other).2.Holds action := by
  refine ⟨fun symbol member => ?_, fun symbol member => ?_, fun s asks => ?_⟩
  · rw [perform_snd]
    exact List.mem_union_right _ (holds.known member)
  · rw [perform_snd]
    exact List.mem_union_right _ (holds.used member)
  · rw [section?_perform, Option.isSome_or, holds.requested s asks]
    exact Bool.true_or _

/-- An action that asks for what is there changes nothing. -/
theorem Holds.perform_snd {action : Action} (holds : context.Holds action) :
    (context.perform action).2 = context := by
  rw [Context.perform_snd, List.Subset.union_eq_right holds.known,
    List.Subset.union_eq_right holds.used]
  cases asks : action.requested? with
  | none => rfl
  | some s =>
    show Context.mk _ _ (context.sectionsWith s) = _
    rw [sectionsWith, if_pos (holds.requested s asks)]

/-- A section that is there is found by every later request for it. -/
theorem Holds.perform_fst {action : Action} (holds : context.Holds action) (other : Action) :
    ((context.perform other).2.perform action).1 = (context.perform action).1 := by
  apply perform_fst_congr
  intro s asks
  rw [granted, granted, section?_perform, Option.or_of_isSome (holds.requested s asks)]

/-- An action that changes nothing and comes to the same again does so after any others. -/
theorem Holds.performAll {action : Action} (holds : context.Holds action) (others : List Action) :
    (context.performAll others).2.perform action =
      ((context.perform action).1, (context.performAll others).2) := by
  induction others generalizing context with
  | nil => exact Prod.ext rfl holds.perform_snd
  | cons other others again =>
    show ((context.perform other).2.performAll others).2.perform action = _
    rw [again (holds.perform other), holds.perform_fst other]
    rfl

/-- **An action of a run, done again at its end**, comes to what it came to and changes nothing. -/
theorem perform_again {actions : List Action} {action : Action} {result : Except Refusal Reply}
    (done : (action, result) ∈ context.history actions) :
    (context.performAll actions).2.perform action = (result, (context.performAll actions).2) := by
  induction actions generalizing context with
  | nil => cases done
  | cons first actions again =>
    rcases List.mem_cons.mp done with here | later
    · obtain ⟨rfl, rfl⟩ := Prod.mk.inj here
      show ((context.perform action).2.performAll actions).2.perform action = _
      rw [(holds_perform action).performAll actions]
      refine Prod.ext ?_ rfl
      apply perform_fst_congr
      intro s asks
      rw [granted, granted, section?_perform, Option.mem_def.mp asks, Option.filter_some,
        beq_self_eq_true, if_pos rfl]
      cases context.section? s.name <;> rfl
    · exact again later

end Context

/-! ### Actions that ask for the same sections -/

/-- No two of the actions ask for sections of one name with different attributes. -/
def Action.Agree (actions : List Action) : Prop :=
  ∀ first ∈ actions, ∀ second ∈ actions, ∀ s ∈ first.requested?, ∀ other ∈ second.requested?,
    s.name = other.name → s.attributes = other.attributes

instance (actions : List Action) : Decidable (Action.Agree actions) :=
  inferInstanceAs (Decidable (∀ first ∈ actions, ∀ second ∈ actions, ∀ s ∈ first.requested?,
    ∀ other ∈ second.requested?, s.name = other.name → s.attributes = other.attributes))

theorem Action.Agree.eq {actions : List Action} (agree : Agree actions) {first second : Action}
    {s other : Section} (asked : first ∈ actions) (askedToo : second ∈ actions)
    (asks : first.requested? = some s) (asksToo : second.requested? = some other)
    (named : s.name = other.name) : s = other := by
  have same := agree first asked second askedToo s asks other asksToo named
  cases s
  cases other
  cases named
  cases same
  rfl

theorem Action.Agree.of_perm {first second : List Action} (agree : Agree first)
    (moved : first.Perm second) : Agree second :=
  fun one asked other askedToo =>
    agree one (moved.mem_iff.mpr asked) other (moved.mem_iff.mpr askedToo)

namespace Context

variable {context : Context}

/-- A request finds or makes the same section before and after an action that agrees with it. -/
theorem granted_perform {action : Action} {s : Section}
    (agrees : ∀ other ∈ action.requested?, other.name = s.name → other = s) :
    (context.perform action).2.granted s = context.granted s := by
  rw [granted, granted, section?_perform]
  cases asks : action.requested? with
  | none => rw [Option.filter_none, Option.or_none]
  | some other =>
    by_cases named : other.name = s.name
    · rw [agrees other asks named, Option.filter_some, beq_self_eq_true, if_pos rfl]
      cases context.section? s.name <;> rfl
    · rw [Option.filter_some, beq_false_of_ne named, if_neg Bool.false_ne_true, Option.or_none]

/-- **Actions that agree come to what each of them comes to alone.** -/
theorem performAll_fst_of_agree {actions : List Action} (agree : Action.Agree actions) :
    (context.performAll actions).1 = actions.map fun action => (context.perform action).1 := by
  induction actions generalizing context with
  | nil => rfl
  | cons first actions alone =>
    have later : Action.Agree actions := fun one asked other askedToo =>
      agree one (List.mem_cons_of_mem _ asked) other (List.mem_cons_of_mem _ askedToo)
    show (context.perform first).1 :: ((context.perform first).2.performAll actions).1 = _
    rw [alone later, List.map_cons]
    refine congrArg _ (List.map_congr_left fun action asked => ?_)
    apply perform_fst_congr
    intro s asks
    apply granted_perform
    intro other asksToo named
    exact agree.eq List.mem_cons_self (List.mem_cons_of_mem _ asked) asksToo asks named

/-- The first request for a name is any request for it, when all of them agree. -/
theorem find?_requested_iff {actions : List Action} (agree : Action.Agree actions) {name : String}
    {s : Section} : (actions.filterMap Action.requested?).find? (·.name == name) = some s ↔
      s.name = name ∧ ∃ action ∈ actions, action.requested? = some s := by
  constructor
  · intro found
    have named : s.name = name := by simpa using List.find?_some found
    exact ⟨named, List.mem_filterMap.mp (List.mem_of_find?_eq_some found)⟩
  · rintro ⟨rfl, action, asked, asks⟩
    have some : ((actions.filterMap Action.requested?).find? (·.name == s.name)).isSome = true :=
      List.find?_isSome.mpr ⟨s, List.mem_filterMap.mpr ⟨action, asked, asks⟩, beq_self_eq_true _⟩
    obtain ⟨first, found⟩ := Option.isSome_iff_exists.mp some
    have named : first.name = s.name := by simpa using List.find?_some found
    obtain ⟨other, askedToo, asksToo⟩ := List.mem_filterMap.mp (List.mem_of_find?_eq_some found)
    rw [found, agree.eq askedToo asked asksToo asks named]

/-! ### Contexts that are alike -/

/-- Two contexts know the same symbols, hold the same ones used, and hold the same sections. -/
structure Alike (first second : Context) : Prop where
  symbols_eq : ∀ name, first.symbol? name = second.symbol? name
  used_eq : ∀ symbol, first.isUsed symbol = second.isUsed symbol
  sections_eq : ∀ name, first.section? name = second.section? name
  symbolCount_eq : first.symbolCount = second.symbolCount
  sectionCount_eq : first.sectionCount = second.sectionCount

theorem symbol?_eq_some_iff {name : String} {symbol : Symbol} :
    context.symbol? name = some symbol ↔ symbol ∈ context.symbols ∧ symbol.name = name := by
  constructor
  · intro found
    exact ⟨List.mem_of_find?_eq_some found, by simpa using List.find?_some found⟩
  · rintro ⟨member, rfl⟩
    exact symbol?_eq_some member

theorem mem_names_sections_iff {name : String} :
    name ∈ context.sections.map (·.name) ↔ (context.section? name).isSome = true := by
  rw [Context.section?, List.find?_isSome, List.mem_map]
  simp only [beq_iff_eq]

/-- Contexts that hold nothing twice are alike when they hold the same. -/
theorem Alike.of_unique {first second : Context} (unique : first.Unique)
    (uniqueToo : second.Unique)
    (symbols : ∀ symbol, symbol ∈ first.symbols ↔ symbol ∈ second.symbols)
    (used : ∀ symbol, symbol ∈ first.used ↔ symbol ∈ second.used)
    (sections : ∀ name, first.section? name = second.section? name) : first.Alike second where
  symbols_eq name := by
    ext symbol
    rw [symbol?_eq_some_iff, symbol?_eq_some_iff, symbols]
  used_eq symbol := by rw [Context.isUsed, Context.isUsed, decide_eq_decide, used]
  sections_eq := sections
  symbolCount_eq :=
    ((List.perm_ext_iff_of_nodup unique.symbols uniqueToo.symbols).mpr symbols).length_eq
  sectionCount_eq := by
    have names : (first.sections.map (·.name)).Perm (second.sections.map (·.name)) := by
      rw [List.perm_ext_iff_of_nodup unique.sections uniqueToo.sections]
      intro name
      rw [mem_names_sections_iff, mem_names_sections_iff, sections]
    simpa [Context.sectionCount] using names.length_eq

/-- **Two orders of actions that agree** lead to contexts that are alike. -/
theorem alike_of_perm {first second : List Action} (moved : first.Perm second)
    (agree : Action.Agree first) :
    (fresh.performAll first).2.Alike (fresh.performAll second).2 := by
  refine .of_unique (unique_fresh.performAll first) (unique_fresh.performAll second) ?_ ?_ ?_
  · intro symbol
    simp only [mem_symbols_performAll, moved.mem_iff]
  · intro symbol
    simp only [mem_used_performAll, moved.mem_iff]
  · intro name
    rw [section?_performAll, section?_performAll]
    refine congrArg _ (Option.ext fun s => ?_)
    rw [find?_requested_iff agree, find?_requested_iff (agree.of_perm moved)]
    simp only [moved.mem_iff]

end Context

/-! ### The two sides of a run -/

/-- Whether an action works on the sections of a context; the others work on its symbols. -/
def Action.onSections : Action → Bool
  | .openSection .. | .stackNote _ => true
  | .internSymbol _ | .record _ | .personality .. => false

namespace Context

/-- A part of contexts that the actions of one side see and change alone: no other action changes
it, and two contexts with the same part are not told apart on that side. -/
structure Separate {Part : Type} (side : Action → Bool) (part : Context → Part) : Prop where
  other : ∀ (context : Context) (action : Action), side action = false →
    part (context.perform action).2 = part context
  same : ∀ {first second : Context}, part first = part second → ∀ action, side action = true →
    (first.perform action).1 = (second.perform action).1 ∧
      part (first.perform action).2 = part (second.perform action).2

/-- **One side of a run**: its results and its part of the context are those of its own actions
without the others. -/
theorem Separate.performAll {Part : Type} {side : Action → Bool} {part : Context → Part}
    (separate : Separate side part) (first second : Context) (alike : part first = part second)
    (actions : List Action) :
    (first.history actions).filter (side ·.1) = second.history (actions.filter side) ∧
      part (first.performAll actions).2 = part (second.performAll (actions.filter side)).2 := by
  induction actions generalizing first second with
  | nil => exact ⟨rfl, alike⟩
  | cons action actions run =>
    show List.filter (side ·.1)
        ((action, (first.perform action).1) :: (first.perform action).2.history actions) = _ ∧
      part ((first.perform action).2.performAll actions).2 = _
    cases within : side action with
    | false =>
      simp only [List.filter_cons, within, Bool.false_eq_true, if_false]
      exact run _ _ ((separate.other first action within).trans alike)
    | true =>
      obtain ⟨result, after⟩ := separate.same alike action within
      obtain ⟨results, final⟩ := run _ _ after
      simp only [List.filter_cons, within, if_true, results, result]
      exact ⟨rfl, final⟩

theorem separate_sections : Separate Action.onSections Context.sections where
  other context action within := by
    rw [perform_snd]
    cases action with
    | internSymbol | record | personality => rfl
    | openSection | stackNote => cases within
  same {first second} alike action _ := by
    have found (name : String) : first.section? name = second.section? name := by
      rw [section?, section?, alike]
    refine ⟨perform_fst_congr fun s _ => by rw [granted, granted, found], ?_⟩
    rw [perform_snd, perform_snd]
    cases action.requested? with
    | none => exact alike
    | some s =>
      show first.sectionsWith s = second.sectionsWith s
      rw [sectionsWith, sectionsWith, found, alike]

theorem separate_symbols :
    Separate (!Action.onSections ·) fun context => (context.symbols, context.used) where
  other context action within := by
    rw [perform_snd]
    cases action with
    | openSection | stackNote => rfl
    | internSymbol | record | personality => cases within
  same {first second} alike action within := by
    obtain ⟨symbols, used⟩ := Prod.mk.inj alike
    refine ⟨perform_fst_congr fun s asks => ?_, ?_⟩
    · cases action with
      | internSymbol | record | personality => cases asks
      | openSection | stackNote => cases within
    · simp only [perform_snd, symbols, used]

/-! ### Whole emissions -/

/-- **The order of an emission.** Two orders of the same actions, none of which asks for a section
with other attributes than another one does, come to the same action by action and lead to contexts
that are alike. An action of any run that is done again comes to the same again and changes nothing.
In every run, with refusals or without, the results of the actions on sections and the sections are
those of these actions alone; so it is for the actions on symbols, the symbols and their uses. -/
theorem performAll_order_irrelevant :
    (∀ first second : List Action, first.Perm second → Action.Agree first →
      (∀ i j : Nat, first[i]? = second[j]? →
        (fresh.performAll first).1[i]? = (fresh.performAll second).1[j]?) ∧
      (fresh.performAll first).2.Alike (fresh.performAll second).2) ∧
    (∀ actions action result, (action, result) ∈ fresh.history actions →
      (fresh.performAll actions).2.perform action = (result, (fresh.performAll actions).2)) ∧
    ∀ actions : List Action,
      let onSections := actions.filter Action.onSections
      let onSymbols := actions.filter (!Action.onSections ·)
      (fresh.history actions).filter (·.1.onSections) = fresh.history onSections ∧
      (fresh.performAll actions).2.sections = (fresh.performAll onSections).2.sections ∧
      (fresh.history actions).filter (!·.1.onSections) = fresh.history onSymbols ∧
      (fresh.performAll actions).2.symbols = (fresh.performAll onSymbols).2.symbols ∧
      (fresh.performAll actions).2.used = (fresh.performAll onSymbols).2.used := by
  refine ⟨?orders, fun _ _ _ => perform_again, ?sides⟩
  case orders =>
    intro first second moved agree
    refine ⟨fun i j same => ?_, alike_of_perm moved agree⟩
    rw [performAll_fst_of_agree agree, performAll_fst_of_agree (agree.of_perm moved),
      List.getElem?_map, List.getElem?_map, same]
  case sides =>
    intro actions
    obtain ⟨sectionResults, sections⟩ := separate_sections.performAll fresh fresh rfl actions
    obtain ⟨symbolResults, symbols⟩ := separate_symbols.performAll fresh fresh rfl actions
    obtain ⟨known, used⟩ := Prod.mk.inj symbols
    exact ⟨sectionResults, sections, symbolResults, known, used⟩

/-- A stack note and a request for its section, a symbol by its name and by its use: the other way
round, each finds what it makes here. -/
theorem performAll_order_irrelevant_stackNote :
    let linux : Descriptor := .build .elf ⟨.x86_64, .unknown, .linux, .gnu⟩ ⟨.att⟩
    let actions : List Action :=
      [.openSection ".note.GNU-stack" ⟨.progBits, .none, .metadata⟩, .internSymbol "main",
        .record (.reference ⟨"main", by decide⟩ .plt), .stackNote linux]
    Action.Agree actions ∧
      (fresh.performAll actions).2.Alike (fresh.performAll actions.reverse).2 := by
  intro linux actions
  have agree : Action.Agree actions := by decide
  exact ⟨agree, (performAll_order_irrelevant.1 actions _ actions.reverse_perm.symm agree).2⟩

end Context

end AsmTarget
