/-
**Two ways to the object-file format, and where they part.**

A triple implies an object-file format by itself, where the environment decides before the system.
It also selects a flavor, and a flavor has a format; there the Darwin family is asked for before a
forced ELF. The two ways come to the same format on every triple but those that ask for ELF on a
system of the Darwin family, and there the flavor writes Mach-O.

* `Flavor.objectFormat_select`: the format of the selected flavor, by the format of the triple;
* `Descriptor.flavor_ofTriple`: the descriptor of a triple has the selected flavor;
* `Triple.isDarwin_parse_iff`, `Triple.environment_parse_eq_elf_iff`: the two sides of the
  exception, in the words of a text;
* `Flavor.objectFormat_of_text`: **the two formats of a text**, for every text and all settings.
-/

import AsmTarget.Descriptor.Build
import AsmTarget.Proofs.Triple.Search
import Mathlib.Tactic.SplitIfs

namespace AsmTarget

/-! ### Formats of triples -/

theorem Flavor.objectFormat_darwin (architecture : Architecture) :
    (Flavor.darwin architecture).objectFormat = .machO := by
  unfold Flavor.darwin
  split <;> rfl

/-- The Windows systems are those of the two COFF flavors, unless the environment forces ELF. -/
theorem Triple.isWindows_eq {triple : Triple} (notElf : triple.environment ≠ .elf) :
    triple.isWindows = (triple.isMicrosoftWindows || triple.isGnuWindows) := by
  unfold Triple.isWindows Triple.isMicrosoftWindows Triple.isGnuWindows
  cases triple.system <;> cases environment : triple.environment <;> simp_all

/-- Where neither Darwin nor the environment decides, COFF is what the Windows systems get. -/
theorem Flavor.objectFormat_windows (microsoft gnu : Bool) :
    (if microsoft = true then Flavor.microsoft
      else if gnu = true then Flavor.gnuCoff else Flavor.elf).objectFormat =
      if (microsoft || gnu) = true then .coff else .elf := by
  cases microsoft <;> cases gnu <;> rfl

/-- **The format of the selected flavor** is that of the triple, except that the Darwin family gets
Mach-O where the environment asks for ELF. -/
theorem Flavor.objectFormat_select (triple : Triple) :
    (Flavor.select triple).objectFormat =
      if triple.isDarwin = true ∧ triple.environment = .elf then .machO
      else triple.objectFormat := by
  unfold Flavor.select Triple.objectFormat
  by_cases darwin : triple.isDarwin = true
  · rw [darwin, Bool.true_or, if_pos rfl, Flavor.objectFormat_darwin]
    cases triple.environment <;> simp
  · rw [Bool.not_eq_true] at darwin
    by_cases machO : triple.environment = .machO
    · simp [machO, Flavor.objectFormat_darwin]
    · by_cases elf : triple.environment = .elf
      · simp [darwin, elf, Flavor.objectFormat]
      · rw [darwin, Bool.false_or, beq_eq_false_iff_ne.mpr machO, if_neg Bool.false_ne_true,
          if_neg elf, Flavor.objectFormat_windows, ← Triple.isWindows_eq elf]
        cases environment : triple.environment <;> simp_all

theorem Flavor.adapted_select (triple : Triple) :
    (Flavor.select triple).adapted triple.architecture = Flavor.select triple := by
  unfold Flavor.select Flavor.darwin
  split_ifs with darwin wide <;> simp [Flavor.adapted, Flavor.darwin, *]

/-- The descriptor of a triple has the selected flavor, whatever the settings. -/
theorem Descriptor.flavor_ofTriple (triple : Triple) (settings : Settings) :
    (Descriptor.ofTriple triple settings).flavor = Flavor.select triple :=
  Flavor.adapted_select triple

/-! ### The exception in the words of a text -/

namespace Triple

/-- The starts of the systems of the Darwin family. -/
def darwinStarts : List String := ["darwin", "macosx", "ios"]

/-- Whether the words of a text ask for ELF on a system of the Darwin family: the first word that
names a system has one of the Darwin starts, and the first one that names an environment is
`elf`. -/
def asksElfOnDarwin (text : String) : Prop :=
  (∃ word ∈ (words text).2.find? WordKind.system.takes,
    ∃ start ∈ darwinStarts, Text.startsWith word start = true) ∧
  (words text).2.find? WordKind.environment.takes = some "elf"

theorem isDarwin_iff {triple : Triple} :
    triple.isDarwin = true ↔ triple.system ∈ [.darwin, .macOsx, .ios] := by
  unfold isDarwin
  cases triple.system <;> simp

/-- The Darwin starts are those of the Darwin family. -/
theorem mem_darwinStarts_iff : ∀ entry ∈ OperatingSystem.starts,
    entry.1 ∈ darwinStarts ↔ entry.2 ∈ [OperatingSystem.darwin, .macOsx, .ios] := by
  decide

theorem darwinStarts_known :
    ∀ start ∈ darwinStarts, ∃ entry ∈ OperatingSystem.starts, entry.1 = start := by
  decide

theorem isDarwin_parse_iff {text : String} :
    (parse text).isDarwin = true ↔ ∃ word ∈ (words text).2.find? WordKind.system.takes,
      ∃ start ∈ darwinStarts, Text.startsWith word start = true := by
  rw [parse_eq_ofFirsts, isDarwin_iff, ofFirsts]
  cases (words text).2.find? WordKind.system.takes with
  | none => simp
  | some word =>
    simp only [Option.bind_some, Option.mem_some_iff, exists_eq_left']
    constructor
    · intro family
      cases found : OperatingSystem.ofWord? word with
      | none => simp [found] at family
      | some system =>
        obtain ⟨known, begins⟩ := OperatingSystem.named_iff.mpr found
        rw [found, Option.getD_some] at family
        exact ⟨_, (mem_darwinStarts_iff _ known).mpr family, begins⟩
    · rintro ⟨start, darwin, begins⟩
      obtain ⟨entry, known, rfl⟩ := darwinStarts_known start darwin
      rw [OperatingSystem.named_iff.mp (.start known begins), Option.getD_some]
      exact (mem_darwinStarts_iff entry known).mp darwin

theorem environment_parse_eq_elf_iff {text : String} :
    (parse text).environment = .elf ↔
      (words text).2.find? WordKind.environment.takes = some "elf" := by
  rw [parse_eq_ofFirsts, ofFirsts]
  cases (words text).2.find? WordKind.environment.takes with
  | none => simp
  | some word =>
    rw [Option.bind_some, Option.some.injEq, ← Environment.ofWord?_eq_elf_iff]
    cases Environment.ofWord? word <;> simp

end Triple

/-! ### The two formats of a text -/

/-- **The two formats of a text.** For every text and all settings, the flavor of the descriptor is
the selected one, and its format is that of the triple exactly when the words of the text do not
ask for ELF on a system of the Darwin family. Where they do, the triple says ELF and the flavor
writes Mach-O. -/
theorem Flavor.objectFormat_of_text (text : String) (settings : Settings) :
    (Descriptor.ofTriple (Triple.parse text) settings).flavor = Flavor.select (Triple.parse text) ∧
      ((Flavor.select (Triple.parse text)).objectFormat = (Triple.parse text).objectFormat ↔
        ¬ Triple.asksElfOnDarwin text) ∧
      (Triple.asksElfOnDarwin text ↔ (Triple.parse text).objectFormat = .elf ∧
        (Flavor.select (Triple.parse text)).objectFormat = .machO) := by
  have asks : Triple.asksElfOnDarwin text ↔
      (Triple.parse text).isDarwin = true ∧ (Triple.parse text).environment = .elf := by
    rw [Triple.isDarwin_parse_iff, Triple.environment_parse_eq_elf_iff, Triple.asksElfOnDarwin]
  have forced (elf : (Triple.parse text).environment = .elf) :
      (Triple.parse text).objectFormat = .elf := by
    rw [Triple.objectFormat, elf]
  refine ⟨Descriptor.flavor_ofTriple _ settings, ?_, ?_⟩
  · rw [Flavor.objectFormat_select, asks]
    split_ifs with exception
    · simp [exception, forced exception.2]
    · simp [exception]
  · rw [Flavor.objectFormat_select, asks]
    split_ifs with exception
    · simp [exception, forced exception.2]
    · simp +contextual [exception]

/-- The two formats of a text differ on a text that asks for ELF on Darwin. -/
theorem Flavor.objectFormat_differs_on_darwin_elf :
    ¬ ∀ (text : String) (settings : Settings),
      (Descriptor.ofTriple (Triple.parse text) settings).flavor.objectFormat =
        (Triple.parse text).objectFormat := by
  intro agree
  exact absurd (agree "x86_64-apple-darwin-elf" ⟨.att⟩) (by decide)

end AsmTarget
