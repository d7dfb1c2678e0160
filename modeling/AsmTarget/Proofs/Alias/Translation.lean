/-
**Lists of constraints in translation.**

A list of names is translated with any table of aliases, also one in which a name has several
entries. The first entry of a name counts, and where its spelling is empty nothing is written for
the name. A list with an unknown name is refused as a whole, for the first such name.

* `AliasTable.Knows`, `AliasTable.FirstSpelling`: what a table says about a name, in the order of
  its entries;
* `AliasTable.translate_cons`: **one name** before others;
* `AliasTable.translate_eq_ok_iff`, `AliasTable.translate_eq_error_iff`: **a list of names**, known
  or with a first unknown one;
* `AliasTable.translate_append`: two lists, one after the other;
* `AliasTable.translate_eq_foldlM`: the translation as a loop that writes on;
* `AliasTable.translate_exact`: all of this, for every table and every list.
-/

import AsmTarget.Alias
import Mathlib.Data.List.Forall2

namespace AsmTarget.AliasTable

variable {table : AliasTable} {name word : String} {names words : List String} {fault : Fault}

/-! ### Single names -/

/-- The table has an entry for a name. -/
def Knows (table : AliasTable) (name : String) : Prop :=
  name ∈ table.map (·.1)

/-- The first entry of a table for a name has a spelling, whatever comes after that entry. -/
def FirstSpelling (table : AliasTable) (name word : String) : Prop :=
  ∃ before after, table = before ++ (name, word) :: after ∧ ¬ Knows before name

theorem wordFor?_eq_some_iff : table.wordFor? name = some word ↔ table.FirstSpelling name word := by
  rw [wordFor?, Option.map_eq_some_iff]
  constructor
  · rintro ⟨⟨key, spelling⟩, found, rfl⟩
    obtain ⟨same, before, after, rfl, others⟩ := List.find?_eq_some_iff_append.mp found
    obtain rfl := eq_of_beq same
    refine ⟨before, after, rfl, fun known => ?_⟩
    obtain ⟨entry, member, same⟩ := List.mem_map.mp known
    simpa [same] using others entry member
  · rintro ⟨before, after, rfl, unknown⟩
    refine ⟨(name, word), ?_, rfl⟩
    refine List.find?_eq_some_iff_append.mpr ⟨beq_self_eq_true name, before, after, rfl, ?_⟩
    intro entry member
    simpa using fun same => unknown (List.mem_map.mpr ⟨entry, member, same⟩)

theorem wordFor?_eq_none_iff : table.wordFor? name = none ↔ ¬ table.Knows name := by
  simp only [wordFor?, Option.map_eq_none_iff, List.find?_eq_none, Knows, List.mem_map, beq_iff_eq,
    not_exists, not_and]

theorem knows_of_wordFor? (found : table.wordFor? name = some word) : table.Knows name := by
  by_contra unknown
  rw [wordFor?_eq_none_iff.mpr unknown] at found
  cases found

/-- What is written for a name is its spelling, unless that is empty. -/
theorem written_ofEntry (word : String) :
    (Spelling.ofEntry word).word?.toList = [word].filter (· ≠ "") := by
  by_cases empty : word = "" <;> simp [Spelling.ofEntry, Spelling.word?, empty]

/-! ### One name before others -/

/-- **One name** before others: an unknown one is all that counts, and what is written for a known
one stands before the rest. -/
theorem translate_cons (table : AliasTable) (name : String) (names : List String) :
    table.translate (name :: names) =
      (table.wordFor? name).elim (.error (.unknownConstraint name))
        fun word => (table.translate names).map ([word].filter (· ≠ "") ++ ·) := by
  rw [translate, lookup]
  cases table.wordFor? name with
  | none => rfl
  | some word =>
    rw [Option.elim_some, ← written_ofEntry]
    cases table.translate names <;> rfl

/-! ### Lists of names -/

/-- **A list of known names** is translated to their spellings in order, without the empty ones. -/
theorem translate_eq_ok_iff :
    table.translate names = .ok words ↔
      ∃ spellings, List.Forall₂ table.FirstSpelling names spellings ∧
        words = spellings.filter (· ≠ "") := by
  induction names generalizing words with
  | nil => simp [translate, eq_comm]
  | cons name names rest =>
    rw [translate_cons]
    simp only [List.forall₂_cons_left_iff, ← wordFor?_eq_some_iff]
    cases table.wordFor? name with
    | none => simp
    | some word =>
      rw [Option.elim_some, map_eq_ok_iff]
      constructor
      · rintro ⟨written, translated, rfl⟩
        obtain ⟨spellings, first, rfl⟩ := rest.mp translated
        exact ⟨word :: spellings, ⟨word, spellings, rfl, first, rfl⟩, (List.filter_append _ _).symm⟩
      · rintro ⟨_, ⟨_, spellings, ⟨⟩, first, rfl⟩, rfl⟩
        exact ⟨_, rest.mpr ⟨spellings, first, rfl⟩, (List.filter_append _ _).symm⟩

/-- A name of a list is the first one that a table does not know, whatever comes after it. -/
def FirstUnknown (table : AliasTable) (names : List String) (name : String) : Prop :=
  ∃ before after, names = before ++ name :: after ∧ (∀ known ∈ before, table.Knows known) ∧
    ¬ table.Knows name

theorem not_firstUnknown_nil : ¬ table.FirstUnknown [] name := by
  rintro ⟨before, after, empty, -⟩
  exact List.append_ne_nil_of_right_ne_nil before (List.cons_ne_nil name after) empty.symm

theorem firstUnknown_cons_of_unknown {other : String} (unknown : ¬ table.Knows name) :
    table.FirstUnknown (name :: names) other ↔ other = name := by
  constructor
  · rintro ⟨before, after, same, knows, -⟩
    cases before with
    | nil => exact (List.cons.inj same).1.symm
    | cons first before =>
      obtain rfl := (List.cons.inj same).1
      exact absurd (knows name List.mem_cons_self) unknown
  · rintro rfl
    exact ⟨[], names, rfl, List.forall_mem_nil _, unknown⟩

theorem firstUnknown_cons_of_known {other : String} (known : table.Knows name) :
    table.FirstUnknown (name :: names) other ↔ table.FirstUnknown names other := by
  constructor
  · rintro ⟨before, after, same, knows, unknown⟩
    cases before with
    | nil =>
      obtain rfl := (List.cons.inj same).1
      exact absurd known unknown
    | cons first before =>
      exact ⟨before, after, (List.cons.inj same).2, (List.forall_mem_cons.mp knows).2, unknown⟩
  · rintro ⟨before, after, rfl, knows, unknown⟩
    exact ⟨name :: before, after, rfl, List.forall_mem_cons.mpr ⟨known, knows⟩, unknown⟩

/-- **A list with an unknown name** is refused for the first one. -/
theorem translate_eq_error_iff :
    table.translate names = .error fault ↔
      ∃ name, table.FirstUnknown names name ∧ fault = .unknownConstraint name := by
  induction names with
  | nil => simp [translate, not_firstUnknown_nil]
  | cons name names rest =>
    rw [translate_cons]
    cases found : table.wordFor? name with
    | none =>
      have unknown := wordFor?_eq_none_iff.mp found
      simp only [firstUnknown_cons_of_unknown unknown, exists_eq_left, Option.elim_none,
        Except.error.injEq, eq_comm (a := fault)]
    | some word =>
      have known := knows_of_wordFor? found
      rw [Option.elim_some, map_eq_error_iff, rest]
      simp only [firstUnknown_cons_of_known known]

theorem exists_translate_iff :
    (∃ words, table.translate names = .ok words) ↔ ∀ name ∈ names, table.Knows name := by
  induction names with
  | nil => simp [translate]
  | cons name names rest =>
    rw [translate_cons, List.forall_mem_cons, ← rest]
    cases found : table.wordFor? name with
    | none =>
      have unknown := wordFor?_eq_none_iff.mp found
      simp [unknown]
    | some word =>
      have known := knows_of_wordFor? found
      simp [map_eq_ok_iff, known]

/-- Two lists one after the other are translated one after the other. -/
theorem translate_append (table : AliasTable) (names more : List String) :
    table.translate (names ++ more) = (do
      let words ← table.translate names
      let others ← table.translate more
      return words ++ others) := by
  induction names with
  | nil =>
    rw [List.nil_append, translate]
    cases table.translate more <;> rfl
  | cons name names rest =>
    rw [List.cons_append, translate_cons, translate_cons, rest]
    cases table.wordFor? name with
    | none => rfl
    | some word =>
      cases table.translate names with
      | error cause => rfl
      | ok words =>
        cases table.translate more with
        | error cause => rfl
        | ok others => exact congrArg Except.ok (List.append_assoc _ _ _).symm

/-- A loop over names adds their translation to what it has written before. -/
theorem foldlM_written (table : AliasTable) (names written : List String) :
    names.foldlM (fun written name => do return written ++ (← table.lookup name).word?.toList)
      written = (table.translate names).map (written ++ ·) := by
  induction names generalizing written with
  | nil => exact congrArg Except.ok (List.append_nil written).symm
  | cons name names rest =>
    rw [List.foldlM_cons, translate]
    cases table.lookup name with
    | error cause => rfl
    | ok spelling =>
      show names.foldlM _ (written ++ spelling.word?.toList) = _
      rw [rest]
      cases table.translate names with
      | error cause => rfl
      | ok words => exact congrArg Except.ok (List.append_assoc _ _ _)

/-- **The translation as a loop** that starts with nothing written and goes on with each name. -/
theorem translate_eq_foldlM (table : AliasTable) (names : List String) :
    table.translate names = names.foldlM
      (fun written name => do return written ++ (← table.lookup name).word?.toList) [] := by
  rw [foldlM_written]
  cases table.translate names <;> rfl

/-! ### Every table and every list -/

/-- **Translation, for every table and every list of names.** It is the loop over the names. It
succeeds exactly when the table knows all of them, and writes the spellings of their first entries
in order then, as often as the names occur and without the empty ones. Otherwise it is refused for
the first name that the table does not know. Two lists, one after the other, are translated one
after the other: both are written, or the refusal of the first counts, or that of the second. -/
theorem translate_exact (table : AliasTable) (names : List String) :
    table.translate names = names.foldlM
        (fun written name => do return written ++ (← table.lookup name).word?.toList) [] ∧
      ((∃ words, table.translate names = .ok words) ↔ ∀ name ∈ names, table.Knows name) ∧
      (∀ words, table.translate names = .ok words ↔
        ∃ spellings, List.Forall₂ table.FirstSpelling names spellings ∧
          words = spellings.filter (· ≠ "")) ∧
      (∀ words, table.translate names = .ok words → "" ∉ words) ∧
      (∀ fault, table.translate names = .error fault ↔
        ∃ name, table.FirstUnknown names name ∧ fault = .unknownConstraint name) ∧
      ∀ more, table.translate (names ++ more) =
        match table.translate names, table.translate more with
        | .ok words, .ok others => .ok (words ++ others)
        | .error fault, _ => .error fault
        | .ok _, .error fault => .error fault := by
  refine ⟨translate_eq_foldlM table names, exists_translate_iff, fun _ => translate_eq_ok_iff,
    ?nothingEmpty, fun _ => translate_eq_error_iff, ?append⟩
  case nothingEmpty =>
    intro words translated empty
    obtain ⟨spellings, -, rfl⟩ := translate_eq_ok_iff.mp translated
    simpa using (List.mem_filter.mp empty).2
  case append =>
    intro more
    rw [translate_append]
    cases table.translate names <;> cases table.translate more <;> rfl

/-- An empty first entry hides a later one, and an unknown name keeps the known one before it from
being written. -/
example :
    let table : AliasTable := [("x", ""), ("y", "b"), ("x", "a"), ("y", "")]
    table.translate ["y", "x", "y"] = .ok ["b", "b"] ∧
      table.translate ["y", "z", "w"] = .error (.unknownConstraint "z") := by
  decide

end AsmTarget.AliasTable
