/-
**The list of constraints, beside their translation.**

A command writes a line for each constraint, and says on it where nothing is written for the name.
Emitters translate the same names with the aliases of their descriptor and leave these names out.
Both go through the names on their own, and stop at a name that they do not know. What they have in
common is the list of spellings, which the lines show and the translation keeps a part of.

* `AliasTable.translate_eq_mapM`, `Command.mapM_constraintLine`: **both made of the spellings**;
* `AliasTable.Drops`: nothing is written for a known name;
* `Command.afterArrow?`, `Command.shownWord?`: a line read by one who knows its name;
* `Command.listing_agrees`: **every list of names, with every built descriptor**.
-/

import AsmTarget.Command.Outcome
import AsmTarget.Proofs.Alias.Translation
import AsmTarget.Proofs.Descriptor.Built

namespace AsmTarget

variable {name line : String} {names : List String} {spelling : Spelling}
  {spellings : List Spelling}

/-! ### The translation -/

namespace AliasTable

variable {table : AliasTable}

/-- **The translation** keeps the words among the spellings of all names. -/
theorem translate_eq_mapM (table : AliasTable) (names : List String) :
    table.translate names = (names.mapM table.lookup).map (·.filterMap Spelling.word?) := by
  induction names with
  | nil => rfl
  | cons name names rest =>
    rw [translate, List.mapM_cons, rest]
    cases table.lookup name with
    | error fault => rfl
    | ok spelling =>
      cases names.mapM table.lookup with
      | error fault => rfl
      | ok spellings => cases spelling <;> rfl

/-- The translation knows a name and writes nothing for it. -/
def Drops (table : AliasTable) (name : String) : Prop :=
  table.translate [name] = .ok []

theorem drops_iff (known : table.lookup name = .ok spelling) :
    table.Drops name ↔ spelling = .omitted := by
  rw [Drops, translate, known]
  cases spelling with
  | native word =>
    constructor
    · intro dropped
      cases dropped
    · intro omitted
      cases omitted
  | omitted => exact iff_of_true rfl rfl

end AliasTable

/-! ### The lines -/

namespace Command

/-- The line of a name with this spelling. -/
def spellingLine (name : String) (spelling : Spelling) : String :=
  name ++ " -> " ++ spelling.word?.getD "(omitted)"

theorem constraintLine_eq (name : String) :
    constraintLine name = (AliasTable.x86.lookup name).map (spellingLine name) := by
  unfold constraintLine
  cases AliasTable.x86.lookup name <;> rfl

/-- **The lines** show the spellings of all names. -/
theorem mapM_constraintLine (names : List String) :
    names.mapM constraintLine =
      (names.mapM AliasTable.x86.lookup).map (List.zipWith spellingLine names) := by
  induction names with
  | nil => rfl
  | cons name names rest =>
    rw [List.mapM_cons, List.mapM_cons, rest, constraintLine_eq]
    cases AliasTable.x86.lookup name with
    | error fault => rfl
    | ok spelling => cases names.mapM AliasTable.x86.lookup <;> rfl

/-- What a line says after a name and an arrow, if it starts with these. -/
def afterArrow? (name line : String) : Option String :=
  if Text.startsWith line (name ++ " -> ") then
    some (String.ofList (line.toList.drop (name ++ " -> ").toList.length))
  else none

theorem afterArrow?_eq_some_iff {said : String} :
    afterArrow? name line = some said ↔ line = name ++ " -> " ++ said := by
  unfold afterArrow?
  constructor
  · intro found
    split at found
    · next starts =>
      obtain ⟨rest, split⟩ := Text.startsWith_iff.mp starts
      rw [← split, List.drop_left, Option.some.injEq] at found
      apply String.toList_injective
      rw [String.toList_append, ← found, String.toList_ofList, split]
    · cases found
  · rintro rfl
    rw [if_pos (Text.startsWith_append _ _), String.toList_append (s := name ++ " -> "),
      List.drop_left, String.ofList_toList]

/-- The spelling that a line shows of its name, if it does not say that there is none. -/
def shownWord? (name line : String) : Option String :=
  (afterArrow? name line).filter (· ≠ "(omitted)")

/-- No name of x86 is spelled like the remark that it is left out. -/
theorem word?_ne_remark (known : AliasTable.x86.lookup name = .ok spelling) :
    spelling.word? ≠ some "(omitted)" := by
  have entries : ∀ entry ∈ AliasTable.x86, (Spelling.ofEntry entry.2).word? ≠ some "(omitted)" := by
    decide
  unfold AliasTable.lookup at known
  cases found : AliasTable.x86.wordFor? name with
  | none => rw [found] at known; cases known
  | some word =>
    rw [found] at known
    cases known
    obtain ⟨entry, first, rfl⟩ := Option.map_eq_some_iff.mp found
    exact entries entry (List.mem_of_find?_eq_some first)

theorem spellingLine_eq_remark_iff (known : AliasTable.x86.lookup name = .ok spelling) :
    spellingLine name spelling = name ++ " -> (omitted)" ↔ AliasTable.x86.Drops name := by
  have remark : name ++ " -> (omitted)" = name ++ " -> " ++ "(omitted)" := by
    rw [String.append_assoc]
    rfl
  rw [AliasTable.drops_iff known, spellingLine, remark, String.append_right_inj]
  cases spelling with
  | native word => exact iff_of_false (fun same => word?_ne_remark known (congrArg some same)) nofun
  | omitted => exact iff_of_true rfl rfl

theorem shownWord?_spellingLine (known : AliasTable.x86.lookup name = .ok spelling) :
    shownWord? name (spellingLine name spelling) = spelling.word? := by
  have said : afterArrow? name (spellingLine name spelling) =
      some (spelling.word?.getD "(omitted)") := afterArrow?_eq_some_iff.mpr rfl
  rw [shownWord?, said]
  cases spelling with
  | native word =>
    have other : word ≠ "(omitted)" := fun same => word?_ne_remark known (congrArg some same)
    simp [Spelling.word?, Option.filter_some, other]
  | omitted => rfl

/-! ### The whole list -/

/-- Results that are all there stand in the order of what they are results of. -/
theorem forall₂_of_mapM {Item Value : Type} {step : Item → Except Fault Value} {list : List Item}
    {values : List Value} (all : list.mapM step = .ok values) :
    List.Forall₂ (fun item value => step item = .ok value) list values := by
  induction list generalizing values with
  | nil =>
    cases all
    exact .nil
  | cons item rest ih =>
    rw [List.mapM_cons] at all
    cases first : step item with
    | error fault => rw [first] at all; cases all
    | ok value =>
      cases others : rest.mapM step with
      | error fault => rw [first, others] at all; cases all
      | ok more =>
        rw [first, others] at all
        cases all
        exact .cons first (ih others)

theorem lines_list (known : List.Forall₂ (fun name spelling =>
    AliasTable.x86.lookup name = .ok spelling) names spellings) :
    List.Forall₂ (fun name line => (∃ said, line = name ++ " -> " ++ said) ∧
        (line = name ++ " -> (omitted)" ↔ AliasTable.x86.Drops name))
      names (List.zipWith spellingLine names spellings) := by
  induction known with
  | nil => exact .nil
  | cons first _ others => exact .cons ⟨⟨_, rfl⟩, spellingLine_eq_remark_iff first⟩ others

theorem lines_show (known : List.Forall₂ (fun name spelling =>
    AliasTable.x86.lookup name = .ok spelling) names spellings) :
    List.zipWith shownWord? names (List.zipWith spellingLine names spellings) =
      spellings.map Spelling.word? := by
  induction known with
  | nil => rfl
  | cons first _ others =>
    rw [List.zipWith_cons_cons, List.zipWith_cons_cons, List.map_cons,
      shownWord?_spellingLine first, others]

/-- **The list of constraints and their translation, for all names and every built descriptor.**
Both are refused for the same names and in the same words, those for the first name that is unknown.
Otherwise there is a line for each name, in order, that starts with the name and an arrow. It ends
with the remark that the name is left out exactly for the names that the translation drops, and what
the other lines say after the arrow is the translation. -/
theorem listing_agrees {descriptor : Descriptor} (built : descriptor.Built) (names : List String) :
    (∀ fault, names.mapM constraintLine = .error fault ↔
        descriptor.aliases.translate names = .error fault) ∧
      (∀ fault, names.mapM constraintLine = .error fault ↔
        ∃ name, descriptor.aliases.FirstUnknown names name ∧ fault = .unknownConstraint name) ∧
      ((∃ lines, names.mapM constraintLine = .ok lines) ↔
        ∃ words, descriptor.aliases.translate names = .ok words) ∧
      ∀ lines, names.mapM constraintLine = .ok lines →
        List.Forall₂ (fun name line => (∃ said, line = name ++ " -> " ++ said) ∧
          (line = name ++ " -> (omitted)" ↔ descriptor.aliases.Drops name)) names lines ∧
        descriptor.aliases.translate names =
          .ok ((List.zipWith shownWord? names lines).filterMap id) := by
  rw [built.aliases_eq]
  have refused (fault : Fault) : names.mapM constraintLine = .error fault ↔
      AliasTable.x86.translate names = .error fault := by
    rw [mapM_constraintLine, AliasTable.translate_eq_mapM, map_eq_error_iff, map_eq_error_iff]
  refine ⟨refused, fun fault => (refused fault).trans AliasTable.translate_eq_error_iff,
    ?granted, ?lines⟩
  case granted =>
    simp only [mapM_constraintLine, AliasTable.translate_eq_mapM, map_eq_ok_iff]
    constructor
    · rintro ⟨_, spellings, looked, -⟩
      exact ⟨_, spellings, looked, rfl⟩
    · rintro ⟨_, spellings, looked, -⟩
      exact ⟨_, spellings, looked, rfl⟩
  case lines =>
    intro lines listed
    rw [mapM_constraintLine, map_eq_ok_iff] at listed
    obtain ⟨spellings, looked, rfl⟩ := listed
    have known := forall₂_of_mapM looked
    refine ⟨lines_list known, ?_⟩
    rw [AliasTable.translate_eq_mapM, looked, lines_show known, List.filterMap_map]
    rfl

/-- On Windows, a name that is listed three times around two that are left out is written three
times. -/
theorem listing_agrees_windows :
    let descriptor := Descriptor.ofTriple ⟨.x86_64, .pc, .win32, .msvc⟩ default
    let names := ["\x7bcc\x7d", "\x7bflags\x7d", "\x7bcc\x7d", "\x7bfpsr\x7d", "\x7bcc\x7d"]
    let lines := ["\x7bcc\x7d -> cc", "\x7bflags\x7d -> (omitted)", "\x7bcc\x7d -> cc",
      "\x7bfpsr\x7d -> (omitted)", "\x7bcc\x7d -> cc"]
    descriptor.Built ∧ names.mapM constraintLine = .ok lines ∧
      descriptor.aliases.translate names = .ok ["cc", "cc", "cc"] := by
  intro descriptor names lines
  have built : descriptor.Built := Descriptor.built_build _ _ _
  have listed : names.mapM constraintLine = .ok lines := by decide
  obtain ⟨-, -, -, agreed⟩ := listing_agrees built names
  refine ⟨built, listed, ?_⟩
  rw [(agreed lines listed).2]
  decide

end Command

end AsmTarget
