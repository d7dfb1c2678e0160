/-
**A settings document is never passed over.**

A document is accepted when it has nothing but the dialect, by a name that some dialect has, or
less; whatever else is in it makes it refused, wherever it stands. So the default is chosen only
when the document leaves the choice open. The option for the dialect accepts the same words.

* `Settings.Plain`: the documents in question; `Settings.Fits`, `Settings.Chooses`: what is accepted
  of them, and as what;
* `Toml.sole_eq_ok_iff`: entries with at most one key; `Settings.Accepted`,
  `Settings.ofToml_eq_ok_iff`: the documents that are accepted, entry by entry;
* `Dialect.tag_eq_name`: **a dialect has one name, in documents and on the command line**;
* `Settings.read?_document`: a document for every word; `Options.take?_dialect`,
  `Request.read?_dialect`: the same word on the command line;
* `Settings.parse_exact`: **all of this for every text and every word**.
-/

import AsmTarget.Proofs.Command.Flag
import AsmTarget.Proofs.Toml.Keys
import AsmTarget.Proofs.Toml.Text
import AsmTarget.Settings.Toml

namespace AsmTarget

open Text

/-! ### Entries with at most one key -/

namespace Toml

variable {Value : Type} {known : String} {absent value : Value}
  {part : Toml → Except Mismatch Value} {entries : List (String × Toml)}

/-- Entries whose keys are all the same, and no key twice. -/
theorem entries_of_only (apart : (entries.map (·.1)).Nodup)
    (only : ∀ entry ∈ entries, entry.1 = known) :
    entries = [] ∨ ∃ inner, entries = [(known, inner)] := by
  match entries, apart, only with
  | [], _, _ => exact .inl rfl
  | [(key, inner)], _, only =>
    have named : key = known := only _ List.mem_cons_self
    exact .inr ⟨inner, by rw [named]⟩
  | first :: second :: others, apart, only =>
    have same : first.1 = second.1 := by rw [only first (by simp), only second (by simp)]
    simp [same] at apart

theorem only_of_sole (accepted : sole known absent part entries = .ok value) :
    ∀ entry ∈ entries, entry.1 = known := by
  induction entries generalizing absent with
  | nil => exact nofun
  | cons entry entries others =>
    change (if entry.1 = known then part entry.2 else .error (.unknownField entry.1 known)) >>=
      (fun next => sole known next part entries) = .ok value at accepted
    split_ifs at accepted with named
    · cases found : part entry.2 with
      | error cause =>
        rw [found] at accepted
        cases accepted
      | ok next =>
        rw [found] at accepted
        exact List.forall_mem_cons.mpr ⟨named, others accepted⟩
    · cases accepted

theorem sole_singleton (inner : Toml) : sole known absent part [(known, inner)] = part inner := by
  show (if known = known then part inner else _) >>= pure = _
  rw [if_pos rfl, bind_pure]

theorem sole_eq_ok_iff (apart : (entries.map (·.1)).Nodup) :
    sole known absent part entries = .ok value ↔
      (entries = [] ∧ value = absent) ∨
        ∃ inner, entries = [(known, inner)] ∧ part inner = .ok value := by
  constructor
  · intro accepted
    rcases entries_of_only apart (only_of_sole accepted) with rfl | ⟨inner, rfl⟩
    · cases accepted
      exact .inl ⟨rfl, rfl⟩
    · rw [sole_singleton] at accepted
      exact .inr ⟨inner, rfl, accepted⟩
  · rintro (⟨rfl, rfl⟩ | ⟨inner, rfl, fits⟩)
    · rfl
    · rw [sole_singleton, fits]

end Toml

/-! ### Documents -/

namespace Dialect

/-- **Documents call a dialect by the name that it has on the command line.** -/
theorem tag_eq_name (dialect : Dialect) : dialect.tag = dialect.name := by
  cases dialect <;> rfl

theorem ofTag?_eq_ofName? (word : String) : ofTag? word = ofName? word := by
  simp only [ofTag?, ofName?, tag_eq_name]

theorem tagged_eq_ok_iff {word : String} {dialect : Dialect} :
    tagged word = .ok dialect ↔ ofName? word = some dialect := by
  rw [tagged, ofTag?_eq_ofName?]
  cases ofName? word with
  | none => exact ⟨nofun, nofun⟩
  | some found => rw [Except.ok.injEq, Option.some.injEq]

theorem ofToml_eq_ok_iff {value : Toml} {dialect : Dialect}
    (noTable : ∀ contents, value ≠ .table contents) :
    ofToml value = .ok dialect ↔ ∃ word, value = .string word ∧ ofName? word = some dialect := by
  cases value with
  | string word =>
    show tagged word = .ok dialect ↔ _
    rw [tagged_eq_ok_iff]
    constructor
    · intro found
      exact ⟨word, rfl, found⟩
    · rintro ⟨_, ⟨⟩, found⟩
      exact found
  | table contents => exact absurd rfl (noTable contents)
  | integer | float | boolean | dateTime | array => exact ⟨nofun, nofun⟩

end Dialect

namespace Settings

/-- What stands for the processor family is a table, and what stands for the dialect in it is none,
if they are there at all. -/
structure Plain (entries : List (String × Toml)) : Prop where
  family : ∀ value, (familyKey, value) ∈ entries → ∃ inner, value = .table inner
  dialect : ∀ inner, (familyKey, .table inner) ∈ entries →
    ∀ contents, (dialectKey, .table contents) ∉ inner

/-- No key but the known ones at either level, and a name of a dialect where one is given. -/
structure Fits (entries : List (String × Toml)) : Prop where
  family : ∀ entry ∈ entries, entry.1 = familyKey
  dialect : ∀ inner, (familyKey, .table inner) ∈ entries → ∀ entry ∈ inner, entry.1 = dialectKey
  name : ∀ inner, (familyKey, .table inner) ∈ entries → ∀ value, (dialectKey, value) ∈ inner →
    ∃ word, value = .string word ∧ (Dialect.ofName? word).isSome

/-- The dialect with the name that is given, or the first one where none is given. -/
inductive Chooses (entries : List (String × Toml)) : Dialect → Prop where
  | noFamily (left : ∀ value, (familyKey, value) ∉ entries) : Chooses entries .att
  | noDialect {inner : List (String × Toml)} (family : (familyKey, .table inner) ∈ entries)
    (left : ∀ value, (dialectKey, value) ∉ inner) : Chooses entries .att
  | named {inner : List (String × Toml)} {word : String} {dialect : Dialect}
    (family : (familyKey, .table inner) ∈ entries) (given : (dialectKey, .string word) ∈ inner)
    (found : Dialect.ofName? word = some dialect) : Chooses entries dialect

/-- The documents that are accepted, and the dialect that each of them chooses. -/
inductive Accepted : List (String × Toml) → Dialect → Prop where
  | nothing : Accepted [] .att
  | family : Accepted [(familyKey, .table [])] .att
  | named {word : String} {dialect : Dialect} (found : Dialect.ofName? word = some dialect) :
    Accepted [(familyKey, .table [(dialectKey, .string word)])] dialect

variable {entries : List (String × Toml)} {dialect : Dialect} {settings : Settings}

/-- A document in question with no other key than that of the family has it once, with a table. -/
theorem Plain.shape (plain : Plain entries) (distinct : Toml.Distinct (.table entries))
    (only : ∀ entry ∈ entries, entry.1 = familyKey) :
    entries = [] ∨
      ∃ inner, entries = [(familyKey, .table inner)] ∧ (inner.map (·.1)).Nodup := by
  cases distinct with
  | table apart inside =>
    rcases Toml.entries_of_only apart only with rfl | ⟨value, rfl⟩
    · exact .inl rfl
    obtain ⟨inner, rfl⟩ := plain.family value List.mem_cons_self
    cases inside _ List.mem_cons_self with
    | table apart _ => exact .inr ⟨inner, rfl, apart⟩

theorem ofToml_table_eq_ok_iff : ofToml (.table entries) = .ok settings ↔
    Toml.sole familyKey default familyDialect entries = .ok settings.dialect := by
  show Settings.mk <$> Toml.sole familyKey default familyDialect entries = .ok settings ↔ _
  cases Toml.sole familyKey default familyDialect entries with
  | error cause => exact ⟨nofun, nofun⟩
  | ok dialect =>
    constructor
    · rintro ⟨⟩
      rfl
    · rintro ⟨⟩
      rfl

theorem Accepted.sole (accepted : Accepted entries dialect) :
    Toml.sole familyKey default familyDialect entries = .ok dialect := by
  cases accepted with
  | nothing | family => rfl
  | named found =>
    rw [Toml.sole_singleton]
    exact (Toml.sole_singleton _).trans (Dialect.tagged_eq_ok_iff.mpr found)

/-- **The documents that are accepted**, of those in question. -/
theorem ofToml_eq_ok_iff (distinct : Toml.Distinct (.table entries)) (plain : Plain entries) :
    ofToml (.table entries) = .ok settings ↔ Accepted entries settings.dialect := by
  rw [ofToml_table_eq_ok_iff]
  refine ⟨fun chosen => ?_, Accepted.sole⟩
  rcases plain.shape distinct (Toml.only_of_sole chosen) with rfl | ⟨inner, rfl, apart⟩
  · rw [← Except.ok.inj chosen]
    exact .nothing
  · rw [Toml.sole_singleton] at chosen
    rcases (Toml.sole_eq_ok_iff apart).mp chosen with ⟨rfl, absent⟩ | ⟨value, rfl, fits⟩
    · rw [absent]
      exact .family
    · have noTable (contents : List (String × Toml)) : value ≠ .table contents := by
        rintro rfl
        exact plain.dialect _ List.mem_cons_self contents List.mem_cons_self
      obtain ⟨word, rfl, found⟩ := (Dialect.ofToml_eq_ok_iff noTable).mp fits
      exact .named found

theorem Accepted.fits (accepted : Accepted entries dialect) : Fits entries := by
  cases accepted with
  | nothing => exact ⟨nofun, nofun, nofun⟩
  | family => refine ⟨?_, ?_, ?_⟩ <;> simp
  | named found => refine ⟨?_, ?_, ?_⟩ <;> simp [found]

theorem Accepted.chooses (accepted : Accepted entries dialect) : Chooses entries dialect := by
  cases accepted with
  | nothing => exact .noFamily nofun
  | family => exact .noDialect List.mem_cons_self nofun
  | named found => exact .named List.mem_cons_self List.mem_cons_self found

/-- Keys that are known, and none of them twice, leave three kinds of documents. -/
theorem Fits.accepted (fits : Fits entries) (distinct : Toml.Distinct (.table entries))
    (plain : Plain entries) : ∃ dialect, Accepted entries dialect := by
  rcases plain.shape distinct fits.family with rfl | ⟨inner, rfl, apart⟩
  · exact ⟨_, .nothing⟩
  rcases Toml.entries_of_only apart (fits.dialect inner List.mem_cons_self) with rfl | ⟨value, rfl⟩
  · exact ⟨_, .family⟩
  obtain ⟨word, rfl, known⟩ := fits.name _ List.mem_cons_self value List.mem_cons_self
  obtain ⟨dialect, found⟩ := Option.isSome_iff_exists.mp known
  exact ⟨dialect, .named found⟩

theorem Accepted.eq_of_chooses {other : Dialect} (accepted : Accepted entries dialect)
    (chooses : Chooses entries other) : other = dialect := by
  cases accepted with
  | nothing =>
    cases chooses with
    | noFamily => rfl
    | noDialect family | named family => cases family
  | family =>
    cases chooses with
    | noFamily | noDialect => rfl
    | named family given =>
      obtain rfl : _ = [] := by simpa using family
      cases given
  | @named word dialect found =>
    cases chooses with
    | noFamily left => exact absurd List.mem_cons_self (left _)
    | @noDialect inner family left =>
      obtain rfl : inner = [(dialectKey, .string word)] := by simpa using family
      exact absurd List.mem_cons_self (left _)
    | @named inner word' _ family given found' =>
      obtain rfl : inner = [(dialectKey, .string word)] := by simpa using family
      obtain rfl : word' = word := by simpa using given
      exact Option.some.inj (found'.symm.trans found)

theorem accepted_iff (distinct : Toml.Distinct (.table entries)) (plain : Plain entries) :
    Accepted entries dialect ↔ Fits entries ∧ Chooses entries dialect := by
  constructor
  · intro accepted
    exact ⟨accepted.fits, accepted.chooses⟩
  · rintro ⟨fits, chooses⟩
    obtain ⟨other, accepted⟩ := fits.accepted distinct plain
    rwa [accepted.eq_of_chooses chooses]

theorem parse_eq_ok_iff {text : String} {document : Toml}
    (read : Toml.read? text = some document) :
    parse text = .ok settings ↔ ofToml document = .ok settings := by
  rw [parse, read]
  exact mapError_eq_ok_iff

/-! ### A document for every word -/

/-- The text of a document that gives a word for the dialect. -/
def document (word : String) : String :=
  Text.lines [Toml.headerLine familyKey, Toml.stringLine dialectKey word]

theorem document_toList (word : String) :
    (document word).toList = '[' :: 'x' :: '8' :: '6' :: ']' :: '\n' ::
      ("asm-syntax = ".toList ++ ((Toml.basicString word).toList ++ ['\n'])) := by
  have key : (Toml.stringLine dialectKey word).toList =
      "asm-syntax = ".toList ++ (Toml.basicString word).toList := by
    rw [Toml.stringLine, Toml.line, String.toList_append, String.toList_append]
    rfl
  rw [document, Text.lines, String.toList_ofList, List.flatMap_cons, List.flatMap_cons, key]
  simp [Toml.headerLine, familyKey]

open Toml.Reading Text.Reader

theorem line_family (rest : List Char) :
    line ('[' :: 'x' :: '8' :: '6' :: ']' :: '\n' :: rest) =
      some (some (some (.header ⟨[], familyKey⟩)), rest) := by
  rfl

theorem pair_dialect {value : Text.Reader Toml} {letters rest : List Char} {found : Toml}
    (read : value ('\"' :: letters) = some (found, rest)) :
    pair value ("asm-syntax = ".toList ++ '\"' :: letters) =
      some ((⟨[], dialectKey⟩, found), rest) := by
  have path : Toml.Quoted.path ("asm-syntax = ".toList ++ '\"' :: letters) =
    some (⟨[], dialectKey⟩, '=' :: ' ' :: '\"' :: letters) := by rfl
  have sign : expect '=' ('=' :: ' ' :: '\"' :: letters) = some ((), ' ' :: '\"' :: letters) := rfl
  have blank : Toml.Quoted.blanks (' ' :: '\"' :: letters) = some ((), '\"' :: letters) := rfl
  rw [pair, bind_of_read path, bind_of_read sign, bind_of_read blank, bind_of_read read]
  rfl

theorem line_dialect (word : String) (rest : List Char) :
    line ("asm-syntax = ".toList ++ ((Toml.basicString word).toList ++ '\n' :: rest)) =
      some (some (some (.assignment ⟨[], dialectKey⟩ (.string word))), rest) := by
  have stops : Stops (· == '\"') ('\n' :: rest) := stops_cons rfl rest
  have read := value_basicString nestingLimit word stops
  rw [Toml.basicString_toList, List.cons_append] at read ⊢
  generalize word.toList.flatMap Toml.escape ++ ['\"'] ++ '\n' :: rest = letters at read ⊢
  have blank : Toml.Quoted.blanks ("asm-syntax = ".toList ++ '\"' :: letters) =
    some ((), "asm-syntax = ".toList ++ '\"' :: letters) := by rfl
  have ahead : peek? ("asm-syntax = ".toList ++ '\"' :: letters) =
    some (some 'a', "asm-syntax = ".toList ++ '\"' :: letters) := by rfl
  have stop : lineEnd ('\n' :: rest) = some ((), rest) := rfl
  rw [line, bind_of_read blank, bind_of_read ahead]
  refine (bind_of_read (pair_dialect read)).trans ?_
  exact bind_of_read stop

/-- **The document of a word** is read, whatever the word. -/
theorem read?_document (word : String) :
    Toml.read? (document word) =
      some (.table [(familyKey, .table [(dialectKey, .string word)])]) := by
  have lines : repeated line (document word).toList =
      some ([some (.header ⟨[], familyKey⟩),
        some (.assignment ⟨[], dialectKey⟩ (.string word))], []) := by
    rw [document_toList]
    refine repeatedWithin_cons (line_family _) ?_
    refine repeatedWithin_cons (line_dialect word []) ?_
    exact repeatedWithin_nil rfl
  have mark : accept '\uFEFF' (document word).toList = some (false, (document word).toList) := by
    rw [document_toList]
    rfl
  have read : statements (document word).toList =
      some ([.header ⟨[], familyKey⟩, .assignment ⟨[], dialectKey⟩ (.string word)], []) := by
    rw [statements, bind_of_read mark, bind_of_read lines]
    rfl
  rw [Toml.read?, whole, read]
  rfl

theorem parse_document (word : String) :
    parse (document word) = match Dialect.ofName? word with
      | some dialect => .ok ⟨dialect⟩
      | none => .error (.mismatchedSettings (.unknownVariant word)) := by
  have value : ofToml (.table [(familyKey, .table [(dialectKey, .string word)])]) =
      Settings.mk <$> Dialect.tagged word := by
    show Settings.mk <$> Toml.sole familyKey default familyDialect _ = _
    rw [Toml.sole_singleton]
    exact congrArg (Settings.mk <$> ·) (Toml.sole_singleton _)
  rw [parse, read?_document]
  show (ofToml _).mapError Fault.mismatchedSettings = _
  rw [value, Dialect.tagged, Dialect.ofTag?_eq_ofName?]
  cases Dialect.ofName? word <;> rfl

theorem parse_document_toOption (word : String) :
    (parse (document word)).toOption = (Dialect.ofName? word).map Settings.mk := by
  rw [parse_document]
  cases Dialect.ofName? word <;> rfl

/-- **Nothing in a document is passed over**, and the option for the dialect takes the words that
documents take. -/
theorem parse_exact (text word : String) :
    (∀ document, Toml.read? text = some document → ∃ entries, document = .table entries ∧
      (Plain entries →
        ((∃ settings, parse text = .ok settings) ↔ Fits entries) ∧
        ∀ settings, parse text = .ok settings ↔
          Fits entries ∧ Chooses entries settings.dialect)) ∧
    Toml.read? (document word) =
      some (.table [(familyKey, .table [(dialectKey, .string word)])]) ∧
    (∀ dialect, parse (document word) = .ok ⟨dialect⟩ ↔ word = dialect.name) ∧
    (∀ arguments, Request.read? (("--" ++ dialectOption ++ "=" ++ word) :: arguments) =
      (parse (document word)).toOption.bind fun settings =>
        Request.readAfter? { dialect := some settings.dialect } arguments) ∧
    ∀ options hasFormat rest, Options.dialect options = none →
      Options.take? options hasFormat dialectOption (some word) rest =
        ((parse (document word)).toOption.map fun settings =>
          ({ options with dialect := some settings.dialect }, rest)) ∧
      Options.take? options hasFormat dialectOption none (word :: rest) =
        Options.take? options hasFormat dialectOption (some word) rest := by
  refine ⟨fun document read => ?_, read?_document word, fun dialect => ?_, fun arguments => ?_, ?_⟩
  · obtain ⟨distinct, entries, rfl⟩ := Toml.distinct_read? read
    refine ⟨entries, rfl, fun plain => ?_⟩
    have each (settings : Settings) :
        parse text = .ok settings ↔ Fits entries ∧ Chooses entries settings.dialect := by
      rw [parse_eq_ok_iff read, ofToml_eq_ok_iff distinct plain, accepted_iff distinct plain]
    refine ⟨⟨?_, fun fits => ?_⟩, each⟩
    · rintro ⟨settings, parsed⟩
      exact ((each settings).mp parsed).1
    · obtain ⟨dialect, accepted⟩ := fits.accepted distinct plain
      exact ⟨⟨dialect⟩, (each ⟨dialect⟩).mpr ⟨fits, accepted.chooses⟩⟩
  · rw [← Dialect.ofName?_eq_some_iff, parse_document]
    cases Dialect.ofName? word <;> simp
  · rw [Request.read?_dialect, parse_document_toOption]
    cases Dialect.ofName? word <;> rfl
  · intro options hasFormat rest left
    refine ⟨?_, Options.take?_dialect_next left hasFormat word rest⟩
    rw [Options.take?_dialect left, parse_document_toOption, Option.map_map]
    rfl

/-- A name with a capital letter is no name, although nothing else is wrong with the document. -/
theorem parse_exact_capital :
    Plain [(familyKey, .table [(dialectKey, .string "Intel")])] ∧
      (¬∃ settings, parse (document "Intel") = .ok settings) ∧
      parse (document "intel") = .ok ⟨.intel⟩ := by
  have plain : Plain [(familyKey, .table [(dialectKey, .string "Intel")])] := by
    refine ⟨?_, ?_⟩ <;> simp
  obtain ⟨decoded, read, -⟩ := parse_exact (document "Intel") "Intel"
  obtain ⟨_, ⟨⟩, accepts⟩ := decoded _ read
  refine ⟨plain, fun accepted => ?_, ((parse_exact "" "intel").2.2.1 .intel).mpr rfl⟩
  obtain ⟨word, ⟨⟩, known⟩ := ((accepts plain).1.mp accepted).name _ List.mem_cons_self _
    List.mem_cons_self
  cases known

end Settings

end AsmTarget
