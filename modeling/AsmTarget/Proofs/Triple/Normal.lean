/-
**The normal form of a triple is read back.**

The normal form names all parts but an unknown environment, in the order of the slots. A word that
names a part names it with a version after it as well, when the part is known by its start, and
blanks at the end of the whole text are the end of a version. So the text of a triple is read as the
triple, with any versions, and a text may be replaced by the normal form of its triple.

* `Text.Solid`: a name; `Text.trimmed_append`: the blanks at the end of a text made of names;
* `Triple.versioned`: the normal form with versions; `Triple.words_versioned`: its words;
* `OperatingSystem.ofWord?_append`, `Environment.ofWord?_append`: **a name with a version**;
* `Triple.parse_versioned`: **a triple with versions is read back**;
* `Command.normalised`: a command with a triple in its normal form;
* `Triple.normal_form`: **all of this, for triples and commands**.
-/

import AsmTarget.Command.Outcome
import AsmTarget.Proofs.Descriptor.Names
import AsmTarget.Proofs.Triple.Search

namespace AsmTarget

/-! ### Names and the blanks after them -/

namespace Text

variable {word : List Char}

/-- A word with neither blanks nor the mark between words. -/
structure Solid (word : List Char) : Prop where
  nonempty : word ≠ []
  noBlank : ∀ c ∈ word, isBlank c = false
  noMark : '-' ∉ word

theorem solid_of_all (nonempty : word ≠ [])
    (checked : (word.all fun c => !isBlank c && c != '-') = true) : Solid word := by
  have each : ∀ c ∈ word, isBlank c = false ∧ c ≠ '-' := by
    simpa using List.all_eq_true.mp checked
  exact ⟨nonempty, fun c member => (each c member).1, fun member => (each _ member).2 rfl⟩

theorem Solid.stops_append (solid : Solid word) (rest : List Char) :
    Stops isBlank (word ++ rest) := by
  obtain ⟨c, others, rfl⟩ := List.exists_cons_of_ne_nil solid.nonempty
  exact stops_cons (solid.noBlank c List.mem_cons_self) (others ++ rest)

theorem Solid.reverse (solid : Solid word) : Solid word.reverse where
  nonempty := by simpa using solid.nonempty
  noBlank := by simpa using solid.noBlank
  noMark := by simpa using solid.noMark

theorem withoutTrailing_starts (text : List Char) : withoutTrailing text <+: text := by
  rw [← List.reverse_suffix, withoutTrailing, List.reverse_reverse]
  exact List.dropWhile_suffix isBlank

/-- Between solid words blanks stay; those at the end go. -/
theorem trimmed_append {first last : List Char} (solid : Solid first) (solidLast : Solid last)
    (between tail : List Char) : trimmed (first ++ (between ++ (last ++ tail))) =
      first ++ (between ++ (last ++ withoutTrailing tail)) := by
  obtain ⟨trailing, blank, ended⟩ := exists_trailing tail
  have ends : Stops isBlank (first ++ (between ++ (last ++ withoutTrailing tail))).reverse := by
    have stops := stops_reverse_withoutTrailing tail
    simp only [List.reverse_append, List.append_assoc]
    -- Either the tail has nothing but blanks, or one of its characters stops.
    cases kept : (withoutTrailing tail).reverse with
    | nil => exact solidLast.reverse.stops_append _
    | cons c rest => exact fun other same => stops other (kept ▸ same)
  have whole : first ++ (between ++ (last ++ tail)) =
      [] ++ (first ++ (between ++ (last ++ withoutTrailing tail))) ++ trailing := by
    simp [← ended]
  rw [whole]
  exact (Stripped.intro (List.forall_mem_nil _) blank (solid.stops_append _) ends).trimmed

end Text

open Text

/-! ### Names with versions -/

theorem Architecture.solid_name (architecture : Architecture) :
    Solid architecture.name.toList := by
  cases architecture <;> exact solid_of_all (List.cons_ne_nil _ _) rfl

theorem Vendor.solid_name (vendor : Vendor) : Solid vendor.name.toList := by
  cases vendor <;> exact solid_of_all (List.cons_ne_nil _ _) rfl

theorem OperatingSystem.solid_name (system : OperatingSystem) : Solid system.name.toList := by
  cases system <;> exact solid_of_all (List.cons_ne_nil _ _) rfl

theorem Environment.solid_name (environment : Environment) : Solid environment.name.toList := by
  cases environment <;> exact solid_of_all (List.cons_ne_nil _ _) rfl

/-- What an environment makes of a version: three of them may have one. -/
def Environment.version : Environment → String → String
  | gnu, version | msvc, version | android, version => version
  | elf, _ | machO, _ | unknown, _ => ""

theorem Architecture.ofWord_name (architecture : Architecture) :
    ofWord architecture.name = architecture := by
  cases architecture <;> decide

theorem Vendor.ofWord?_name (vendor : Vendor) : ofWord? vendor.name = some vendor := by
  cases vendor <;> decide

/-- **A known system with a version** is that system. -/
theorem OperatingSystem.ofWord?_append {system : OperatingSystem} (known : system ≠ .unknown)
    (version : String) : ofWord? (system.name ++ version) = some system := by
  have listed : (system.name, system) ∈ starts := by
    revert known
    cases system <;> decide
  exact named_iff.mp (.start listed (startsWith_append _ _))

/-- **A known environment with a version** is that environment. -/
theorem Environment.ofWord?_append {environment : Environment} (known : environment ≠ .unknown)
    (version : String) :
    ofWord? (environment.name ++ environment.version version) = some environment := by
  rw [← named_iff]
  cases environment with
  | gnu => exact .gnu (startsWith_append "gnu" version)
  | msvc => exact .msvc (startsWith_append "msvc" version)
  | android => exact .android (startsWith_append "android" version)
  | elf => exact .elf rfl
  | machO => exact .machO rfl
  | unknown => exact absurd rfl known

/-! ### The words of the normal form -/

/-- What a word of one kind is to the readers of the other kinds. -/
theorem Vendor.of_ofWord? {word : String} {vendor : Vendor} (found : ofWord? word = some vendor) :
    OperatingSystem.ofWord? word = none ∧ Environment.ofWord? word = none := by
  rcases recognised_once word with others | ⟨other, -⟩ | ⟨other, -⟩
  · exact others
  · cases other.symm.trans found
  · cases other.symm.trans found

theorem OperatingSystem.of_ofWord? {word : String} {system : OperatingSystem}
    (found : ofWord? word = some system) : Environment.ofWord? word = none := by
  rcases recognised_once word with ⟨other, -⟩ | ⟨-, other⟩ | ⟨-, other⟩
  · cases other.symm.trans found
  · exact other
  · cases other.symm.trans found

theorem Environment.of_ofWord? {word : String} {environment : Environment}
    (found : ofWord? word = some environment) : OperatingSystem.ofWord? word = none := by
  rcases recognised_once word with ⟨other, -⟩ | ⟨-, other⟩ | ⟨-, other⟩
  · exact other
  · cases other.symm.trans found
  · exact other

namespace Triple

variable {triple : Triple} {version further : String}

/-- The words after the architecture, with versions. -/
def laterWords (triple : Triple) (version further : String) : List String :=
  triple.vendor.name :: (triple.system.name ++ version) ::
    if triple.environment = .unknown then []
    else [triple.environment.name ++ triple.environment.version further]

/-- The normal form with a version after the system and one after the environment, if it may have
one. -/
def versioned (triple : Triple) (version further : String) : String :=
  triple.architecture.name ++ "-" ++ triple.vendor.name ++ "-" ++ (triple.system.name ++ version) ++
    if triple.environment = .unknown then ""
    else "-" ++ (triple.environment.name ++ triple.environment.version further)

theorem versioned_empty (triple : Triple) : triple.versioned "" "" = triple.text := by
  have bare : triple.environment.version "" = "" := by cases triple.environment <;> rfl
  rw [versioned, text, bare, String.append_empty, String.append_empty]

/-- The word of the system is that of no environment, and it is none of a system only when the
system is unknown. -/
theorem system_word {system : OperatingSystem} (known : system ≠ .unknown ∨ version = "") :
    (OperatingSystem.ofWord? (system.name ++ version) = some system ∨
      OperatingSystem.ofWord? (system.name ++ version) = none ∧ system = .unknown) ∧
      Environment.ofWord? (system.name ++ version) = none := by
  by_cases unknown : system = .unknown
  · obtain rfl : version = "" := known.resolve_left (not_not_intro unknown)
    subst unknown
    decide
  · have found := OperatingSystem.ofWord?_append unknown version
    exact ⟨.inl found, OperatingSystem.of_ofWord? found⟩

/-- Each word is of the kind of its part, so it is the first one of its kind. -/
theorem ofFirsts_laterWords (known : triple.system ≠ .unknown ∨ version = "") (further : String) :
    ofFirsts triple.architecture.name (triple.laterWords version further) = triple := by
  obtain ⟨architecture, vendor, system, environment⟩ := triple
  have vendorWord := vendor.ofWord?_name
  obtain ⟨vendorNoSystem, vendorNoEnvironment⟩ := Vendor.of_ofWord? vendorWord
  obtain ⟨systemFound, systemNoEnvironment⟩ := system_word known
  rw [ofFirsts_eq, laterWords, Architecture.ofWord_name]
  by_cases unknown : environment = .unknown
  · -- Without a word for it the environment stays unknown.
    simp only [unknown, if_true, List.findSome?_cons, List.findSome?_nil, vendorWord,
      vendorNoSystem, vendorNoEnvironment, systemNoEnvironment]
    rcases systemFound with found | ⟨missing, rfl⟩
    · simp [found]
    · simp [missing]
  · have environmentWord := Environment.ofWord?_append unknown further
    have environmentNoSystem := Environment.of_ofWord? environmentWord
    simp only [unknown, if_false, List.findSome?_cons, List.findSome?_nil, vendorWord,
      vendorNoSystem, vendorNoEnvironment, systemNoEnvironment, environmentWord,
      environmentNoSystem]
    rcases systemFound with found | ⟨missing, rfl⟩
    · simp [found]
    · simp [missing]

theorem words_of_joined {text : String} {first : List Char} {others : List (List Char)}
    (joined : trimmed text.toList = first ++ others.flatMap ('-' :: ·)) (free : '-' ∉ first)
    (allFree : ∀ word ∈ others, '-' ∉ word) :
    words text = (String.ofList first, others.map String.ofList) := by
  rw [words, joined, Divided.split ⟨rfl, free, allFree⟩]

/-- The text is that of its words; what may be lost is at the end of the system's version. -/
theorem trimmed_of_unknown (unknown : triple.environment = .unknown) :
    trimmed (triple.versioned version further).toList = triple.architecture.name.toList ++
      [triple.vendor.name.toList,
        triple.system.name.toList ++ withoutTrailing version.toList].flatMap ('-' :: ·) := by
  have written : (triple.versioned version further).toList =
      triple.architecture.name.toList ++ ('-' :: (triple.vendor.name.toList ++ ['-']) ++
        (triple.system.name.toList ++ version.toList)) := by
    simp [versioned, unknown]
  rw [written, trimmed_append triple.architecture.solid_name triple.system.solid_name]
  simp

/-- The text is that of its words; what may be lost is at the end of the environment's version. -/
theorem trimmed_of_known (known : triple.environment ≠ .unknown) :
    trimmed (triple.versioned version further).toList = triple.architecture.name.toList ++
      [triple.vendor.name.toList, triple.system.name.toList ++ version.toList,
        triple.environment.name.toList ++
          withoutTrailing (triple.environment.version further).toList].flatMap ('-' :: ·) := by
  have written : (triple.versioned version further).toList =
      triple.architecture.name.toList ++ ('-' :: (triple.vendor.name.toList ++
        '-' :: (triple.system.name.toList ++ (version.toList ++ ['-']))) ++
        (triple.environment.name.toList ++ (triple.environment.version further).toList)) := by
    simp [versioned, known]
  rw [written, trimmed_append triple.architecture.solid_name triple.environment.solid_name]
  simp

theorem free_append {name text : List Char} (solid : Solid name) (free : '-' ∉ text) :
    '-' ∉ name ++ text :=
  fun member => (List.mem_append.mp member).elim solid.noMark free

theorem free_append_cut {name text : List Char} (solid : Solid name) (free : '-' ∉ text) :
    '-' ∉ name ++ withoutTrailing text :=
  free_append solid fun member => free ((withoutTrailing_starts text).mem member)

/-- **The words of the normal form with versions**, one of which may have lost blanks. -/
theorem words_versioned (versionFree : '-' ∉ version.toList) (furtherFree : '-' ∉ further.toList) :
    ∃ version' further', (version = "" → version' = "") ∧ words (triple.versioned version further) =
      (triple.architecture.name, triple.laterWords version' further') := by
  by_cases unknown : triple.environment = .unknown
  · refine ⟨String.ofList (withoutTrailing version.toList), "", by rintro rfl; rfl, ?_⟩
    rw [words_of_joined (trimmed_of_unknown unknown) triple.architecture.solid_name.noMark]
    · simp [laterWords, unknown]
    · refine List.forall_mem_cons.mpr ⟨triple.vendor.solid_name.noMark, ?_⟩
      exact List.forall_mem_singleton.mpr (free_append_cut triple.system.solid_name versionFree)
  · refine ⟨version, String.ofList (withoutTrailing further.toList), id, ?_⟩
    have cut : triple.environment.version (String.ofList (withoutTrailing further.toList)) =
        String.ofList (withoutTrailing (triple.environment.version further).toList) := by
      cases triple.environment <;> rfl
    have suffixFree : '-' ∉ (triple.environment.version further).toList := by
      cases triple.environment <;> first | exact furtherFree | exact List.not_mem_nil
    rw [words_of_joined (trimmed_of_known unknown) triple.architecture.solid_name.noMark]
    · simp [laterWords, unknown, cut]
    · refine List.forall_mem_cons.mpr ⟨triple.vendor.solid_name.noMark, ?_⟩
      refine List.forall_mem_cons.mpr ⟨free_append triple.system.solid_name versionFree, ?_⟩
      exact List.forall_mem_singleton.mpr
        (free_append_cut triple.environment.solid_name suffixFree)

/-- **A triple with versions is read back.** A system that is not known may have none. -/
theorem parse_versioned (known : triple.system ≠ .unknown ∨ version = "")
    (versionFree : '-' ∉ version.toList) (furtherFree : '-' ∉ further.toList) :
    parse (triple.versioned version further) = triple := by
  obtain ⟨version', further', same, found⟩ := words_versioned versionFree furtherFree
  rw [parse_eq_ofFirsts, found]
  exact ofFirsts_laterWords (known.imp_right same) further'

theorem parse_text (triple : Triple) : parse triple.text = triple := by
  rw [← versioned_empty]
  exact parse_versioned (.inr rfl) List.not_mem_nil List.not_mem_nil

end Triple

/-! ### Commands -/

/-- A command with its triple in the normal form. -/
def Command.normalised : Command → Command
  | .describe triple format => .describe (Triple.parse triple).text format
  | .select triple => .select (Triple.parse triple).text
  | .constraint names => .constraint names
  | .personality triple symbol => .personality (Triple.parse triple).text symbol
  | .stackNote triple => .stackNote (Triple.parse triple).text
  | .fingerprint triple => .fingerprint (Triple.parse triple).text

theorem Command.output_normalised (command : Command) (settings : Settings) :
    command.normalised.output settings = command.output settings := by
  cases command <;> simp only [normalised, output, descriptor, Triple.parse_text]

namespace Triple

/-- **The normal form stands for the triple.** It is read back, with or without versions; it tells
triples apart; and a command has the same outcome for it as for the text that it was made from. -/
theorem normal_form :
    (∀ text, parse (parse text).text = parse text) ∧
    (∀ text other, parse text = parse other ↔ (parse text).text = (parse other).text) ∧
    (∀ triple, versioned triple "" "" = triple.text) ∧
    (∀ triple version further, triple.system ≠ .unknown → '-' ∉ version.toList →
      '-' ∉ further.toList → parse (triple.versioned version further) = triple) ∧
    ∀ surroundings invocation, Outcome.ofRequest surroundings (some (.run invocation)) =
      Outcome.ofRequest surroundings
        (some (.run { invocation with command := invocation.command.normalised })) := by
  refine ⟨fun text => parse_text _, fun text other => text_injective.eq_iff.symm,
    versioned_empty, ?_, ?_⟩
  · intro triple version further known versionFree furtherFree
    exact parse_versioned (.inl known) versionFree furtherFree
  · intro surroundings invocation
    simp only [Outcome.ofRequest, Invocation.result, Invocation.settings,
      Command.output_normalised]

/-- A version after each of the two, the second one with a blank at its end. -/
theorem normal_form_versions :
    '-' ∉ "11.4.0".toList ∧ '-' ∉ "eabihf ".toList ∧
      parse "x86_64-apple-darwin11.4.0-gnueabihf " = ⟨.x86_64, .apple, .darwin, .gnu⟩ := by
  refine ⟨by decide, by decide, ?_⟩
  exact normal_form.2.2.2.1 ⟨.x86_64, .apple, .darwin, .gnu⟩ "11.4.0" "eabihf " (by decide)
    (by decide) (by decide)

end Triple

end AsmTarget
