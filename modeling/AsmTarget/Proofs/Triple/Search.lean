/-
**Reading a triple is three searches that do not see each other.**

A triple is read in one pass over its words. A word that a filled slot refuses is offered to the
next slot, so the order of the words could matter in two ways: a word could end up in a slot of
another kind, and a word of one kind could keep one of another kind out. Neither happens, because
no word is of two kinds.

* `WordKind.takes`: the three languages of words, stated apart from the readers of single words;
* `WordKind.takes_unique`: a word is of one kind at most;
* `Vendor.Named`, `OperatingSystem.Named`, `Environment.Named`: what a word names, one way after the
  other; `FirstNamed`: what the first word that names anything names;
* `Slots.place?_getD`: **one word**, `Slots.fill_fst`: **all words**. Each slot ends up with the
  first word of its kind;
* `Triple.ReadAs`: the triple of components by three searches;
* `Harmless`: the changes of a list of words that keep the first word of each kind;
* `Triple.parse_eq_searches`: **the triple of a text by the searches in its components**, and no
  harmless change of the components changes it.
-/

import AsmTarget.Proofs.Triple.Components
import Mathlib.Logic.Relation

namespace AsmTarget

/-! ### The kinds of words -/

/-- The kinds of words after the architecture. -/
inductive WordKind where
  | vendor
  | system
  | environment
  deriving DecidableEq, Repr

/-- The starts of words that name an environment. -/
def Environment.starts : List String := ["gnu", "msvc", "android"]

/-- Whether a word is of a kind. Vendors are whole words, systems are known by their start, and
environments are partly the one and partly the other. -/
def WordKind.takes : WordKind → String → Bool
  | .vendor, word => word ∈ ["apple", "pc", "unknown"]
  | .system, word => OperatingSystem.starts.any fun entry => Text.startsWith word entry.1
  | .environment, word =>
    Environment.starts.any (Text.startsWith word ·) || word ∈ ["elf", "macho"]

theorem WordKind.takes_vendor {word : String} :
    WordKind.vendor.takes word = true ↔ word = "apple" ∨ word = "pc" ∨ word = "unknown" := by
  simp [WordKind.takes]

theorem WordKind.takes_system {word : String} :
    WordKind.system.takes word = true ↔
      ∃ entry ∈ OperatingSystem.starts, Text.startsWith word entry.1 = true := by
  rw [WordKind.takes, List.any_eq_true]

theorem WordKind.takes_environment {word : String} :
    WordKind.environment.takes word = true ↔
      (∃ start ∈ Environment.starts, Text.startsWith word start = true) ∨
        word = "elf" ∨ word = "macho" := by
  simp [WordKind.takes]

theorem Vendor.isSome_ofWord? (word : String) :
    (Vendor.ofWord? word).isSome = WordKind.vendor.takes word := by
  rw [Bool.eq_iff_iff, WordKind.takes_vendor, Vendor.ofWord?, List.find?_isSome]
  simp [Vendor.all, Vendor.name, @eq_comm _ word]

theorem OperatingSystem.isSome_ofWord? (word : String) :
    (OperatingSystem.ofWord? word).isSome = WordKind.system.takes word := by
  rw [Bool.eq_iff_iff, WordKind.takes_system, OperatingSystem.ofWord?, Option.isSome_map,
    List.find?_isSome]

theorem Environment.isSome_ofWord? (word : String) :
    (Environment.ofWord? word).isSome = WordKind.environment.takes word := by
  rw [Bool.eq_iff_iff, WordKind.takes_environment]
  unfold Environment.ofWord? Environment.starts
  grind

/-! ### No word is of two kinds -/

/-- No start of a system and no start of an environment is a start of the other. -/
theorem starts_apart : ∀ entry ∈ OperatingSystem.starts, ∀ start ∈ Environment.starts,
    Text.Apart entry.1 start := by
  decide

theorem WordKind.system_not_vendor {word : String} (vendor : WordKind.vendor.takes word = true) :
    WordKind.system.takes word = false := by
  rcases WordKind.takes_vendor.mp vendor with rfl | rfl | rfl <;> decide

theorem WordKind.environment_not_vendor {word : String}
    (vendor : WordKind.vendor.takes word = true) : WordKind.environment.takes word = false := by
  rcases WordKind.takes_vendor.mp vendor with rfl | rfl | rfl <;> decide

/-- **No word names a system and an environment.** Both languages are open-ended, so the starts
themselves have to be told apart. -/
theorem WordKind.environment_not_system {word : String}
    (system : WordKind.system.takes word = true) : WordKind.environment.takes word = false := by
  rw [Bool.eq_false_iff]
  intro environment
  rcases WordKind.takes_environment.mp environment with ⟨start, listed, starts⟩ | rfl | rfl
  · obtain ⟨entry, known, begins⟩ := WordKind.takes_system.mp system
    rw [(starts_apart entry known start listed).excludes begins] at starts
    cases starts
  · revert system
    decide
  · revert system
    decide

/-- A word is of one kind at most. -/
theorem WordKind.takes_unique {word : String} {first second : WordKind}
    (byFirst : first.takes word = true) (bySecond : second.takes word = true) :
    first = second := by
  cases first <;> cases second <;>
    simp_all [WordKind.system_not_vendor, WordKind.environment_not_vendor,
      WordKind.environment_not_system]

/-- Of the three readers of single words, at least two find nothing. -/
theorem recognised_once (word : String) :
    OperatingSystem.ofWord? word = none ∧ Environment.ofWord? word = none ∨
      Vendor.ofWord? word = none ∧ Environment.ofWord? word = none ∨
      Vendor.ofWord? word = none ∧ OperatingSystem.ofWord? word = none := by
  simp only [← Option.isNone_iff_eq_none, ← Option.not_isSome, Bool.not_eq_true',
    Vendor.isSome_ofWord?, OperatingSystem.isSome_ofWord?, Environment.isSome_ofWord?]
  by_cases vendor : WordKind.vendor.takes word = true
  · exact .inl ⟨WordKind.system_not_vendor vendor, WordKind.environment_not_vendor vendor⟩
  · rw [Bool.not_eq_true] at vendor
    by_cases system : WordKind.system.takes word = true
    · exact .inr (.inl ⟨vendor, WordKind.environment_not_system system⟩)
    · rw [Bool.not_eq_true] at system
      exact .inr (.inr ⟨vendor, system⟩)

/-- No start of a system starts another one. -/
theorem starts_exclusive : ∀ first ∈ OperatingSystem.starts, ∀ second ∈ OperatingSystem.starts,
    Text.startsWith first.1 second.1 = true → first = second := by
  decide

/-! ### What words name -/

/-- The words that name a vendor. -/
inductive Vendor.Named : String → Vendor → Prop where
  | apple : Named "apple" .apple
  | pc : Named "pc" .pc
  | unknown : Named "unknown" .unknown

/-- A word names a system by any of the starts that the system has. -/
inductive OperatingSystem.Named (word : String) : OperatingSystem → Prop where
  | start {start : String} {system : OperatingSystem} (known : (start, system) ∈ starts)
    (begins : Text.startsWith word start = true) : Named word system

/-- A word names an environment, three of them by its start and two as a whole. -/
inductive Environment.Named (word : String) : Environment → Prop where
  | gnu (begins : Text.startsWith word "gnu" = true) : Named word .gnu
  | msvc (begins : Text.startsWith word "msvc" = true) : Named word .msvc
  | android (begins : Text.startsWith word "android" = true) : Named word .android
  | elf (whole : word = "elf") : Named word .elf
  | machO (whole : word = "macho") : Named word .machO

theorem Vendor.named_iff {word : String} {vendor : Vendor} :
    Named word vendor ↔ ofWord? word = some vendor := by
  constructor
  · rintro ⟨⟩ <;> decide
  · intro found
    obtain rfl : vendor.name = word := by simpa [ofWord?] using List.find?_some found
    cases vendor
    · exact .apple
    · exact .pc
    · exact .unknown

/-- A word names a system whatever stands before in the list of starts. -/
theorem OperatingSystem.named_iff {word : String} {system : OperatingSystem} :
    Named word system ↔ ofWord? word = some system := by
  rw [ofWord?, Option.map_eq_some_iff]
  constructor
  · rintro ⟨known, begins⟩
    have some : (starts.find? fun entry => Text.startsWith word entry.1).isSome :=
      List.find?_isSome.mpr ⟨_, known, begins⟩
    obtain ⟨first, found⟩ := Option.isSome_iff_exists.mp some
    have listed := List.mem_of_find?_eq_some found
    have startsToo : Text.startsWith word first.1 = true := by simpa using List.find?_some found
    refine ⟨first, found, ?_⟩
    rcases Text.startsWith_comparable begins startsToo with shorter | longer
    · rw [← starts_exclusive _ known first listed shorter]
    · rw [starts_exclusive first listed _ known longer]
  · rintro ⟨entry, found, rfl⟩
    have begins : Text.startsWith word entry.1 = true := by simpa using List.find?_some found
    exact .start (List.mem_of_find?_eq_some found) begins

theorem Environment.named_iff {word : String} {environment : Environment} :
    Named word environment ↔ ofWord? word = some environment := by
  constructor
  · rintro (begins | begins | begins | rfl | rfl)
    · exact if_pos begins
    · -- A start that is tried before is apart from this one.
      have notGnu : Text.startsWith word "gnu" = false :=
        Text.Apart.excludes (by decide) begins
      rw [ofWord?, notGnu, begins]
      rfl
    · have notGnu : Text.startsWith word "gnu" = false :=
        Text.Apart.excludes (by decide) begins
      have notMsvc : Text.startsWith word "msvc" = false :=
        Text.Apart.excludes (by decide) begins
      rw [ofWord?, notGnu, notMsvc, begins]
      rfl
    · decide
    · decide
  · intro found
    unfold ofWord? at found
    split_ifs at found with gnu msvc android elf machO <;> cases found
    · exact .gnu gnu
    · exact .msvc msvc
    · exact .android android
    · exact .elf elf
    · exact .machO machO

theorem Environment.ofWord?_eq_elf_iff {word : String} :
    ofWord? word = some .elf ↔ word = "elf" := by
  rw [← named_iff]
  exact ⟨fun | .elf whole => whole, .elf⟩

/-- What the first word of a list that names anything names, or what stands for nothing. -/
inductive FirstNamed {Part : Type} (Names : String → Part → Prop) (nothing : Part) :
    List String → Part → Prop where
  | found (before after : List String) {word : String} {part : Part}
    (earlier : ∀ other ∈ before, ∀ part, ¬Names other part) (named : Names word part) :
    FirstNamed Names nothing (before ++ word :: after) part
  | missing {words : List String} (unnamed : ∀ word ∈ words, ∀ part, ¬Names word part) :
    FirstNamed Names nothing words nothing

/-- The first word by a reader of single words. -/
theorem firstNamed_iff {Part : Type} {Names : String → Part → Prop}
    {reader : String → Option Part} {nothing part : Part} {words : List String}
    (same : ∀ word part, Names word part ↔ reader word = some part) :
    FirstNamed Names nothing words part ↔ (words.findSome? reader).getD nothing = part := by
  have unread (word : String) : (∀ part, ¬Names word part) ↔ reader word = none := by
    rw [Option.eq_none_iff_forall_ne_some]
    exact forall_congr' fun part => not_congr (same word part)
  constructor
  · rintro (⟨before, after, earlier, named⟩ | unnamed)
    · have none : before.findSome? reader = none :=
        List.findSome?_eq_none_iff.mpr fun other member => (unread other).mp (earlier other member)
      rw [List.findSome?_append, none, Option.none_or, List.findSome?_cons, (same _ _).mp named]
      rfl
    · have none : words.findSome? reader = none :=
        List.findSome?_eq_none_iff.mpr fun word member => (unread word).mp (unnamed word member)
      rw [none]
      rfl
  · rintro rfl
    cases first : words.findSome? reader with
    | none =>
      rw [List.findSome?_eq_none_iff] at first
      exact .missing fun word member => (unread word).mpr (first word member)
    | some part =>
      obtain ⟨before, word, after, rfl, read, earlier⟩ := List.findSome?_eq_some_iff.mp first
      exact .found before after (fun other member => (unread other).mpr (earlier other member))
        ((same word part).mpr read)

/-! ### One pass is three searches -/

/-- **One word.** Every empty slot is filled by what the word is to it, as if there were no other
slot. -/
theorem Slots.place?_getD (slots : Slots) (word : String) :
    (slots.place? word).getD slots =
      { vendor := slots.vendor.or (Vendor.ofWord? word)
        system := slots.system.or (OperatingSystem.ofWord? word)
        environment := slots.environment.or (Environment.ofWord? word) } := by
  obtain ⟨vendor, system, environment⟩ := slots
  unfold Slots.place? offered
  rcases recognised_once word with ⟨noSystem, noEnvironment⟩ | ⟨noVendor, noEnvironment⟩ |
    ⟨noVendor, noSystem⟩
  · rw [noSystem, noEnvironment]
    cases vendor <;> cases Vendor.ofWord? word <;> simp
  · rw [noVendor, noEnvironment]
    cases system <;> cases OperatingSystem.ofWord? word <;> simp
  · rw [noVendor, noSystem]
    cases environment <;> cases Environment.ofWord? word <;> simp

/-- The slots after a word and others are those that the others fill after the word. -/
theorem Slots.fill_cons (slots : Slots) (word : String) (words : List String) :
    (slots.fill (word :: words)).1 = (((slots.place? word).getD slots).fill words).1 := by
  rw [Slots.fill]
  cases slots.place? word <;> rfl

/-- **All words.** Every slot that was empty holds what the first word of its kind is. -/
theorem Slots.fill_fst (slots : Slots) (words : List String) :
    (slots.fill words).1 =
      { vendor := slots.vendor.or (words.findSome? Vendor.ofWord?)
        system := slots.system.or (words.findSome? OperatingSystem.ofWord?)
        environment := slots.environment.or (words.findSome? Environment.ofWord?) } := by
  induction words generalizing slots with
  | nil => simp [Slots.fill]
  | cons word words filled =>
    rw [Slots.fill_cons, filled, Slots.place?_getD]
    simp only [List.findSome?_cons, Option.or_assoc]
    cases Vendor.ofWord? word <;> cases OperatingSystem.ofWord? word <;>
      cases Environment.ofWord? word <;> rfl

/-- What a reader of single words finds first is what the first word of its language is. -/
theorem findSome?_eq_find?_bind {Part : Type} {reader : String → Option Part}
    {language : String → Bool} (same : ∀ word, (reader word).isSome = language word)
    (words : List String) : words.findSome? reader = (words.find? language).bind reader := by
  induction words with
  | nil => rfl
  | cons word words found =>
    rw [List.findSome?_cons, List.find?_cons, ← same word, found]
    cases here : reader word <;> simp [here]

/-! ### Triples by search -/

namespace Triple

/-- The triple of a first word and others, where each part after the architecture is that of the
first word of its kind. -/
def ofFirsts (first : String) (others : List String) : Triple where
  architecture := .ofWord first
  vendor := ((others.find? WordKind.vendor.takes).bind Vendor.ofWord?).getD .unknown
  system := ((others.find? WordKind.system.takes).bind OperatingSystem.ofWord?).getD .unknown
  environment :=
    ((others.find? WordKind.environment.takes).bind Environment.ofWord?).getD .unknown

theorem ofFirsts_eq (first : String) (others : List String) :
    ofFirsts first others =
      ⟨.ofWord first, (others.findSome? Vendor.ofWord?).getD .unknown,
        (others.findSome? OperatingSystem.ofWord?).getD .unknown,
        (others.findSome? Environment.ofWord?).getD .unknown⟩ := by
  simp only [ofFirsts, findSome?_eq_find?_bind Vendor.isSome_ofWord?,
    findSome?_eq_find?_bind OperatingSystem.isSome_ofWord?,
    findSome?_eq_find?_bind Environment.isSome_ofWord?]

theorem parse_eq_ofFirsts (text : String) :
    parse text = ofFirsts (words text).1 (words text).2 := by
  unfold parse read
  simp only [Slots.fill_fst, Option.none_or, ofFirsts_eq]

theorem Components.parse {text first : String} {others : List String}
    (components : Components text first others) : parse text = ofFirsts first others := by
  rw [parse_eq_ofFirsts, components_iff.mp components]

/-- A triple as the components of a text say. The first one alone decides the architecture, and
each other part is that of the first later component which names one. -/
structure ReadAs (first : String) (others : List String) (triple : Triple) : Prop where
  architecture : triple.architecture = .ofWord first
  vendor : FirstNamed Vendor.Named .unknown others triple.vendor
  system : FirstNamed OperatingSystem.Named .unknown others triple.system
  environment : FirstNamed Environment.Named .unknown others triple.environment

theorem readAs_iff {first : String} {others : List String} {triple : Triple} :
    ReadAs first others triple ↔ ofFirsts first others = triple := by
  have vendors (vendor : Vendor) : FirstNamed Vendor.Named .unknown others vendor ↔
      (others.findSome? Vendor.ofWord?).getD .unknown = vendor :=
    firstNamed_iff fun _ _ => Vendor.named_iff
  have systems (system : OperatingSystem) :
      FirstNamed OperatingSystem.Named .unknown others system ↔
        (others.findSome? OperatingSystem.ofWord?).getD .unknown = system :=
    firstNamed_iff fun _ _ => OperatingSystem.named_iff
  have environments (environment : Environment) :
      FirstNamed Environment.Named .unknown others environment ↔
        (others.findSome? Environment.ofWord?).getD .unknown = environment :=
    firstNamed_iff fun _ _ => Environment.named_iff
  rw [ofFirsts_eq]
  constructor
  · rintro ⟨architecture, vendor, system, environment⟩
    rw [← architecture, (vendors _).mp vendor, (systems _).mp system,
      (environments _).mp environment]
  · rintro rfl
    exact ⟨rfl, (vendors _).mpr rfl, (systems _).mpr rfl, (environments _).mpr rfl⟩

end Triple

/-! ### Changes of the words that do not matter -/

/-- One change of the words after the architecture: they may change places as long as those of one
kind stay in order, and words may come in that add nothing. -/
inductive Harmless : List String → List String → Prop where
  | reordered {words others : List String} (moved : words.Perm others)
    (inOrder : ∀ kind : WordKind, words.filter kind.takes = others.filter kind.takes) :
    Harmless words others
  | unrecognised (before after : List String) {word : String}
    (nothing : ∀ kind : WordKind, kind.takes word = false) :
    Harmless (before ++ after) (before ++ word :: after)
  | unknownVendor (before after : List String)
    (noVendor : ∀ word ∈ before ++ after, WordKind.vendor.takes word = false) :
    Harmless (before ++ after) (before ++ "unknown" :: after)
  | further (kind : WordKind) {words : List String} {word : String}
    (present : ∃ known ∈ words, kind.takes known = true) (sameKind : kind.takes word = true) :
    Harmless words (words ++ [word])

/-- The first word of a kind, found among the words of that kind alone. -/
theorem WordKind.find?_eq_head? (kind : WordKind) (words : List String) :
    words.find? kind.takes = (words.filter kind.takes).head? :=
  List.head?_filter.symm

/-- A word of another kind, wherever it stands, does not change the first word of a kind. -/
theorem WordKind.find?_insert {kind : WordKind} {word : String}
    (other : kind.takes word = false) (before after : List String) :
    (before ++ word :: after).find? kind.takes = (before ++ after).find? kind.takes := by
  rw [List.find?_append, List.find?_append, List.find?_cons_of_neg (by simp [other])]

/-- Nothing that comes after a word of a kind changes the first word of that kind. -/
theorem WordKind.find?_append {kind : WordKind} {words : List String}
    (present : ∃ known ∈ words, kind.takes known = true) (after : List String) :
    (words ++ after).find? kind.takes = words.find? kind.takes := by
  rw [List.find?_append, Option.or_of_isSome (List.find?_isSome.mpr present)]

/-- **A harmless change changes no part of the triple.** -/
theorem Harmless.ofFirsts_eq {words others : List String} (change : Harmless words others)
    (first : String) : Triple.ofFirsts first others = Triple.ofFirsts first words := by
  cases change with
  | reordered moved inOrder =>
    simp only [Triple.ofFirsts, WordKind.find?_eq_head?, inOrder]
  | unrecognised before after nothing =>
    simp only [Triple.ofFirsts, WordKind.find?_insert (nothing _)]
  | unknownVendor before after noVendor =>
    have none : (before ++ after).find? WordKind.vendor.takes = none := by
      rw [List.find?_eq_none]
      intro word member
      rw [noVendor word member]
      exact Bool.false_ne_true
    have one : (before ++ "unknown" :: after).find? WordKind.vendor.takes = some "unknown" := by
      rw [List.find?_append] at none ⊢
      rw [(Option.or_eq_none_iff.mp none).1]
      rfl
    have system : WordKind.system.takes "unknown" = false := by decide
    have environment : WordKind.environment.takes "unknown" = false := by decide
    simp only [Triple.ofFirsts, WordKind.find?_insert system, WordKind.find?_insert environment,
      none, one]
    rfl
  | @further kind _ word present sameKind =>
    have same : ∀ each : WordKind, (words ++ [word]).find? each.takes = words.find? each.takes := by
      intro each
      by_cases takes : each.takes word = true
      · rw [← WordKind.takes_unique sameKind takes]
        exact WordKind.find?_append present [word]
      · rw [WordKind.find?_insert (Bool.eq_false_iff.mpr takes), List.append_nil]
    simp only [Triple.ofFirsts, same]

/-- Any number of harmless changes, made or taken back, changes no part of the triple. -/
theorem ofFirsts_eq_of_changes {words others : List String}
    (changes : Relation.EqvGen Harmless words others) (first : String) :
    Triple.ofFirsts first others = Triple.ofFirsts first words := by
  induction changes with
  | rel _ _ change => exact change.ofFirsts_eq first
  | refl => rfl
  | symm _ _ _ before => exact before.symm
  | trans _ _ _ _ _ before after => exact after.trans before

namespace Triple

/-- **Reading a triple is three independent searches.** Every text has components. The first one
alone decides the architecture, and each other part is that of the first later component which names
one. So no number of harmless changes of the later components, made or taken back, changes the
triple. -/
theorem parse_eq_searches (text : String) :
    (∃ first others, Components text first others) ∧
      ∀ first others, Components text first others →
        (∀ triple, parse text = triple ↔ ReadAs first others triple) ∧
        ∀ other changed, Components other first changed →
          Relation.EqvGen Harmless others changed → parse other = parse text := by
  refine ⟨⟨_, _, components_words text⟩, fun first others components => ⟨?searches, ?changes⟩⟩
  case searches =>
    intro triple
    rw [components.parse, readAs_iff]
  case changes =>
    intro other changed otherComponents changes
    rw [components.parse, otherComponents.parse, ofFirsts_eq_of_changes changes]

/-- Two texts for 32-bit Windows with the GNU tools, the first one with a blank in front. In the
second one the system and the environment have changed places, a vendor and `w64` have come in, and
a second system comes last. -/
theorem parse_eq_searches_windows :
    Components " i686-win32-gnu" "i686" ["win32", "gnu"] ∧
      Components "i686-unknown-gnu-w64-win32-linux" "i686"
        ["unknown", "gnu", "w64", "win32", "linux"] ∧
      Relation.EqvGen Harmless ["win32", "gnu"] ["unknown", "gnu", "w64", "win32", "linux"] ∧
      parse " i686-win32-gnu" = ⟨.x86, .unknown, .win32, .gnu⟩ ∧
      parse "i686-unknown-gnu-w64-win32-linux" = ⟨.x86, .unknown, .win32, .gnu⟩ := by
  have swapped : Harmless ["win32", "gnu"] ["gnu", "win32"] :=
    .reordered (.swap _ _ _) (by intro kind; cases kind <;> decide)
  have vendor : Harmless ["gnu", "win32"] ["unknown", "gnu", "win32"] :=
    .unknownVendor [] _ (by decide)
  have ignored : Harmless ["unknown", "gnu", "win32"] ["unknown", "gnu", "w64", "win32"] :=
    .unrecognised ["unknown", "gnu"] ["win32"] (by intro kind; cases kind <;> decide)
  have later : Harmless ["unknown", "gnu", "w64", "win32"]
      ["unknown", "gnu", "w64", "win32", "linux"] :=
    .further .system ⟨"win32", by decide⟩ (by decide)
  have changes : Relation.EqvGen Harmless ["win32", "gnu"]
      ["unknown", "gnu", "w64", "win32", "linux"] :=
    .trans _ _ _ (.rel _ _ swapped) (.trans _ _ _ (.rel _ _ vendor)
      (.trans _ _ _ (.rel _ _ ignored) (.rel _ _ later)))
  have short : Components " i686-win32-gnu" "i686" ["win32", "gnu"] :=
    components_iff.mpr (by decide)
  have long : Components "i686-unknown-gnu-w64-win32-linux" "i686"
      ["unknown", "gnu", "w64", "win32", "linux"] :=
    components_iff.mpr (by decide)
  obtain ⟨searches, changed⟩ := (parse_eq_searches " i686-win32-gnu").2 "i686" _ short
  have windows : parse " i686-win32-gnu" = ⟨.x86, .unknown, .win32, .gnu⟩ :=
    (searches _).mpr (readAs_iff.mpr (by decide))
  exact ⟨short, long, changes, windows, (changed _ _ long changes).trans windows⟩

end Triple

end AsmTarget
