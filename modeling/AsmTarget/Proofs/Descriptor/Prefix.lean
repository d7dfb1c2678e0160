/-
**Private and global names.**

A descriptor has a start for the names that the assembler keeps to itself and, on some targets, one
that is put in front of every global name. The first is never empty, so it marks all private names.
The second, where it is not empty, does not begin like the first, so that no global name is taken
for a private one. Where there is no second start, a source-level name is private when it is written
like one.

* `Flavor.privatePrefix_mem`, `Flavor.globalPrefix_mem`: the starts of all targets;
  `fitting_starts`: **any two of them fit together**;
* `Symbol.isTemporary_iff`: the names with a start that is not empty;
* `Descriptor.startsWith_globalPrefix_iff`: the global names that look private;
* `Descriptor.prefixes_told_apart`: **private and global names** on every target.
-/

import AsmTarget.Descriptor.Build

namespace AsmTarget

open Text

/-! ### The two starts -/

namespace Flavor

theorem privatePrefix_mem (flavor : Flavor) (architecture : Architecture) :
    flavor.privatePrefix architecture ∈ ["L", ".L"] := by
  cases flavor <;> cases architecture <;> decide

theorem globalPrefix_mem (flavor : Flavor) (architecture : Architecture) :
    flavor.globalPrefix architecture ∈ ["", "_"] := by
  cases flavor <;> cases architecture <;> decide

end Flavor

/-- **The starts fit together**, also in pairs that no target has: private names are marked, and
what is put in front of a global name is nothing or hides how the name begins. -/
theorem fitting_starts : ∀ mark ∈ ["L", ".L"], mark ≠ "" ∧
    ∀ start ∈ ["", "_"], start = "" ∨ Apart start mark := by
  decide

/-- Names are private when they have the start, as soon as there is one. -/
theorem Symbol.isTemporary_iff {symbol : Symbol} {mark : String} (marked : mark ≠ "") :
    symbol.isTemporary mark = true ↔ startsWith symbol.name mark = true := by
  rw [isTemporary, Bool.and_eq_true, bne_iff_ne, and_iff_right marked]

namespace Descriptor

variable (requested : Flavor) (triple : Triple) (settings : Settings)

theorem privatePrefix_ne_empty : (build requested triple settings).privatePrefix ≠ "" :=
  (fitting_starts _ (Flavor.privatePrefix_mem _ _)).1

theorem globalPrefix_apart :
    (build requested triple settings).globalPrefix = "" ∨
      Apart (build requested triple settings).globalPrefix
        (build requested triple settings).privatePrefix :=
  (fitting_starts _ (Flavor.privatePrefix_mem _ _)).2 _ (Flavor.globalPrefix_mem _ _)

/-! ### Names with a start -/

/-- A global name looks private only where nothing is put in front of it and the source-level name
looks private itself. -/
theorem startsWith_globalPrefix_iff (name : String) :
    startsWith ((build requested triple settings).globalPrefix ++ name)
        (build requested triple settings).privatePrefix = true ↔
      (build requested triple settings).globalPrefix = "" ∧
        startsWith name (build requested triple settings).privatePrefix = true := by
  rcases globalPrefix_apart requested triple settings with nothing | apart
  · rw [nothing, String.empty_append]
    exact (and_iff_right rfl).symm
  · have hidden := apart.excludes (startsWith_append _ name)
    have something : (build requested triple settings).globalPrefix ≠ "" := by
      intro nothing
      rw [nothing] at apart
      exact absurd apart.2 (by simp [startsWith])
    rw [hidden]
    exact iff_of_false Bool.false_ne_true fun both => something both.1

/-- **Private and global names are told apart on every target.** The symbol of a private name exists
and is always temporary. That of a global name exists unless nothing is put in front of the empty
name, and it is temporary exactly where nothing is put in front of a source-level name that looks
private. So on targets that put something in front of global names, each of them has a symbol that
is not temporary and whose name is no private one. -/
theorem prefixes_told_apart (name : String) :
    let descriptor := build requested triple settings
    (∃ symbol, Symbol.ofName? (descriptor.privatePrefix ++ name) = some symbol ∧
        symbol.isTemporary descriptor.privatePrefix = true) ∧
      (Symbol.ofName? (descriptor.globalPrefix ++ name) = none ↔
        descriptor.globalPrefix = "" ∧ name = "") ∧
      (∀ symbol, Symbol.ofName? (descriptor.globalPrefix ++ name) = some symbol →
        (symbol.isTemporary descriptor.privatePrefix = true ↔
          descriptor.globalPrefix = "" ∧ startsWith name descriptor.privatePrefix = true)) ∧
      (descriptor.globalPrefix ≠ "" →
        ∃ symbol, Symbol.ofName? (descriptor.globalPrefix ++ name) = some symbol ∧
          symbol.isTemporary descriptor.privatePrefix = false ∧
            ∀ other, symbol.name ≠ descriptor.privatePrefix ++ other) := by
  intro descriptor
  have marked : descriptor.privatePrefix ≠ "" := privatePrefix_ne_empty requested triple settings
  have looks := startsWith_globalPrefix_iff requested triple settings name
  have present {start : String} (something : start ≠ "") : start ++ name ≠ "" :=
    fun empty => something (String.append_eq_empty_iff.mp empty).1
  refine ⟨?kept, ?missing, ?named, ?decorated⟩
  case kept =>
    refine ⟨⟨_, present marked⟩, Symbol.ofName?_eq_some.mpr rfl, ?_⟩
    exact (Symbol.isTemporary_iff marked).mpr (startsWith_append _ name)
  case missing =>
    rw [Symbol.ofName?_eq_none, String.append_eq_empty_iff]
  case named =>
    intro symbol named
    rw [Symbol.isTemporary_iff marked, Symbol.ofName?_eq_some.mp named]
    exact looks
  case decorated =>
    intro something
    have visible : ¬ startsWith (descriptor.globalPrefix ++ name) descriptor.privatePrefix = true :=
      fun begins => something (looks.mp begins).1
    refine ⟨⟨_, present something⟩, Symbol.ofName?_eq_some.mpr rfl, ?_, fun other same => visible ?_⟩
    · rw [Bool.eq_false_iff, ne_eq, Symbol.isTemporary_iff marked]
      exact visible
    · rw [show descriptor.globalPrefix ++ name = descriptor.privatePrefix ++ other from same]
      exact startsWith_append _ other

/-- A source-level name that looks private is hidden behind the underscore of 32-bit Darwin, and
nothing hides it on 64-bit Windows. -/
theorem prefixes_told_apart_windows :
    let darwin := build .darwin32 ⟨.x86, .apple, .darwin, .unknown⟩ default
    let windows := build .microsoft ⟨.x86_64, .pc, .win32, .msvc⟩ default
    (⟨"_Ltmp0", by decide⟩ : Symbol).isTemporary darwin.privatePrefix = false ∧
      (⟨".Ltmp0", by decide⟩ : Symbol).isTemporary windows.privatePrefix = true := by
  intro darwin windows
  have underscore : darwin.globalPrefix ≠ "" := by decide
  obtain ⟨-, -, -, decorated⟩ :=
    prefixes_told_apart .darwin32 ⟨.x86, .apple, .darwin, .unknown⟩ default "Ltmp0"
  obtain ⟨symbol, named, visible, -⟩ := decorated underscore
  obtain ⟨-, -, told, -⟩ :=
    prefixes_told_apart .microsoft ⟨.x86_64, .pc, .win32, .msvc⟩ default ".Ltmp0"
  refine ⟨?_, (told _ (by decide)).mpr (by decide)⟩
  rw [show (⟨"_Ltmp0", by decide⟩ : Symbol) = symbol from
    Symbol.eq_of_name (Symbol.ofName?_eq_some.mp named).symm]
  exact visible

end Descriptor

end AsmTarget
