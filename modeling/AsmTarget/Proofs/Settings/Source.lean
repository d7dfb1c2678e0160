/-
**Where settings come from, and what does not matter to them.**

Settings have one source: the file that was named, or else the conventional one if it is a file, or
else nothing, which means the default. What the source holds decides whether there are settings at
all; a dialect that is asked for directly only takes the place of the one found.

* `Entry.Describes`, `Entry.Unusable`: what an entry describes, or why it is no use;
* `Settings.Found`, `Settings.Missed`: what the source of settings holds;
* `Settings.resolve_eq_ok_iff`, `Settings.resolve_eq_error_iff`: the settings by their source;
* `Surroundings.source`: the entry that settings are taken from;
* `Settings.resolve_congr`, `Settings.resolve_look_congr`: other surroundings with the same source;
* `Outcome.ofRequest_look`: a program needs to look at one path alone;
* `Settings.resolve_by_source`: **all of this for every choice of a file and a dialect**.
-/

import AsmTarget.Command.Outcome
import AsmTarget.Proofs.Settings.Place

namespace AsmTarget

/-! ### What an entry holds -/

/-- The settings that an entry describes, which has to be a file with a text. -/
inductive Entry.Describes : Entry → Settings → Prop where
  | file {contents : ByteArray} {text : String} {settings : Settings}
    (readable : String.fromUTF8? contents = some text)
    (fits : Settings.parse text = .ok settings) : Describes (.file contents) settings

/-- Why the entry at a path is of no use. -/
inductive Entry.Unusable (path : String) : Entry → Fault → Prop where
  | absent : Unusable path .absent (.notFound path)
  | directory : Unusable path .directory (.unreadable "Is a directory (os error 21)")
  | notText {contents : ByteArray} (unreadable : String.fromUTF8? contents = none) :
    Unusable path (.file contents) (.unreadable "stream did not contain valid UTF-8")
  | unfit {contents : ByteArray} {text : String} {fault : Fault}
    (readable : String.fromUTF8? contents = some text)
    (refused : Settings.parse text = .error fault) : Unusable path (.file contents) fault

theorem Entry.Describes.required {entry : Entry} {settings : Settings}
    (describes : entry.Describes settings) (path : String) :
    Settings.required path entry = .ok settings := by
  cases describes with
  | file readable fits =>
    rw [Settings.required, Settings.load, readable]
    show (Settings.parse _).mapError _ = _
    rw [fits]
    rfl

theorem Entry.Unusable.required {path : String} {entry : Entry} {cause : Fault}
    (unusable : entry.Unusable path cause) :
    Settings.required path entry = .error (.notLoaded path cause) := by
  cases unusable with
  | absent | directory => rfl
  | notText unreadable =>
    rw [Settings.required, Settings.load, unreadable]
    rfl
  | unfit readable refused =>
    rw [Settings.required, Settings.load, readable]
    show (Settings.parse _).mapError _ = _
    rw [refused]
    rfl

/-- An entry describes settings or is of no use. -/
theorem Entry.describes_or_unusable (path : String) (entry : Entry) :
    (∃ settings, entry.Describes settings) ∨ ∃ fault, entry.Unusable path fault := by
  cases entry with
  | absent => exact .inr ⟨_, .absent⟩
  | directory => exact .inr ⟨_, .directory⟩
  | file contents =>
    cases readable : String.fromUTF8? contents with
    | none => exact .inr ⟨_, .notText readable⟩
    | some text =>
      cases parsed : Settings.parse text with
      | ok settings => exact .inl ⟨settings, .file readable parsed⟩
      | error fault => exact .inr ⟨fault, .unfit readable parsed⟩

/-! ### The source of settings -/

/-- The entry that settings are taken from, at the path of a named file, or else under the
conventional name below the directory. -/
def Surroundings.source (surroundings : Surroundings) : Option String → Entry
  | some path => surroundings.look path
  | none => surroundings.lookBelow Settings.fileName

theorem Surroundings.fullPath_congr {surroundings other : Surroundings}
    (same : other.directory = surroundings.directory) (path : String) :
    other.fullPath path = surroundings.fullPath path := by
  rw [fullPath, fullPath, same]

/-- The source is at one path. The name of the directory matters to it where no file was named,
since a path may be too long with the name in front. -/
theorem Surroundings.source_congr {surroundings other : Surroundings} {file : Option String}
    (same : other.look (file.getD Settings.fileName) =
      surroundings.look (file.getD Settings.fileName))
    (named : file = none → other.directory = surroundings.directory) :
    other.source file = surroundings.source file := by
  cases file with
  | some path => exact same
  | none =>
    have here : other.look Settings.fileName = surroundings.look Settings.fileName := same
    show other.lookBelow _ = surroundings.lookBelow _
    rw [lookBelow, lookBelow, fullPath_congr (named rfl), here]

namespace Settings

/-- The settings that come from a named file, or else from the conventional one if it is there, or
else are the default. -/
inductive Found (surroundings : Surroundings) : Option String → Settings → Prop where
  | named {path : String} {settings : Settings}
    (described : (surroundings.look path).Describes settings) :
    Found surroundings (some path) settings
  | conventional {settings : Settings}
    (described : (surroundings.lookBelow fileName).Describes settings) :
    Found surroundings none settings
  | standard (noFile : ∀ contents, surroundings.lookBelow fileName ≠ .file contents) :
    Found surroundings none default

/-- Why there are no settings: the named file is of no use, or the conventional one is there and of
no use. -/
inductive Missed (surroundings : Surroundings) : Option String → Fault → Prop where
  | named {path : String} {cause : Fault}
    (unusable : (surroundings.look path).Unusable path cause) :
    Missed surroundings (some path) (.notLoaded path cause)
  | conventional {contents : ByteArray} {cause : Fault}
    (present : surroundings.lookBelow fileName = .file contents)
    (unusable : (Entry.file contents).Unusable (surroundings.fullPath fileName) cause) :
    Missed surroundings none (.notLoaded (surroundings.fullPath fileName) cause)

variable {surroundings other : Surroundings} {file : Option String}

theorem found_or_missed (surroundings : Surroundings) (file : Option String) :
    (∃ found, Found surroundings file found) ∨ ∃ fault, Missed surroundings file fault := by
  cases file with
  | some path =>
    rcases (surroundings.look path).describes_or_unusable path with
      ⟨settings, described⟩ | ⟨cause, unusable⟩
    · exact .inl ⟨settings, .named described⟩
    · exact .inr ⟨_, .named unusable⟩
  | none =>
    cases entry : surroundings.lookBelow fileName with
    | absent | directory => exact .inl ⟨default, .standard fun _ => entry ▸ nofun⟩
    | file contents =>
      rcases (Entry.file contents).describes_or_unusable (surroundings.fullPath fileName) with
        ⟨settings, described⟩ | ⟨cause, unusable⟩
      · exact .inl ⟨settings, .conventional (entry ▸ described)⟩
      · exact .inr ⟨_, .conventional entry unusable⟩

theorem resolve_named (path : String) (dialect : Option Dialect) :
    resolve surroundings (some path) dialect =
      (required path (surroundings.look path)).map fun found => ⟨dialect.getD found.dialect⟩ := by
  show (do let found ← required path (surroundings.look path); pure _) = _
  cases required path (surroundings.look path) <;> rfl

theorem resolve_conventional (dialect : Option Dialect) :
    resolve surroundings none dialect =
      (optional (surroundings.fullPath fileName) (surroundings.lookBelow fileName)).map
        fun found => ⟨dialect.getD found.dialect⟩ := by
  show (do let found ← optional _ (surroundings.lookBelow fileName); pure _) = _
  cases optional (surroundings.fullPath fileName) (surroundings.lookBelow fileName) <;> rfl

/-- What is found is what is resolved, but for a dialect that was asked for directly. -/
theorem Found.resolve {found : Settings} (source : Found surroundings file found)
    (dialect : Option Dialect) :
    resolve surroundings file dialect = .ok ⟨dialect.getD found.dialect⟩ := by
  cases source with
  | named described =>
    rw [resolve_named, described.required]
    rfl
  | conventional described =>
    -- Only a file describes anything, so the file is not passed over.
    rw [resolve_conventional]
    generalize surroundings.lookBelow fileName = entry at described
    have isFile : optional (surroundings.fullPath fileName) entry =
        required (surroundings.fullPath fileName) entry := by
      cases described
      rfl
    rw [isFile, described.required]
    rfl
  | standard noFile =>
    rw [resolve_conventional]
    cases entry : surroundings.lookBelow fileName with
    | absent | directory => rfl
    | file contents => exact absurd entry (noFile contents)

/-- A source of no use is what is complained about, whatever was asked for directly. -/
theorem Missed.resolve {fault : Fault} (source : Missed surroundings file fault)
    (dialect : Option Dialect) : resolve surroundings file dialect = .error fault := by
  cases source with
  | named unusable =>
    rw [resolve_named, unusable.required]
    rfl
  | conventional present unusable =>
    rw [resolve_conventional, present, optional, unusable.required]
    rfl

/-- **Settings by their source.** -/
theorem resolve_eq_ok_iff {dialect : Option Dialect} {settings : Settings} :
    resolve surroundings file dialect = .ok settings ↔
      ∃ found, Found surroundings file found ∧ settings = ⟨dialect.getD found.dialect⟩ := by
  constructor
  · intro resolved
    rcases found_or_missed surroundings file with ⟨found, source⟩ | ⟨fault, source⟩
    · rw [source.resolve dialect, Except.ok.injEq] at resolved
      exact ⟨found, source, resolved.symm⟩
    · rw [source.resolve dialect] at resolved
      cases resolved
  · rintro ⟨found, source, rfl⟩
    exact source.resolve dialect

/-- **Refusals by the source**, in which a dialect that was asked for directly has no part. -/
theorem resolve_eq_error_iff {dialect : Option Dialect} {fault : Fault} :
    resolve surroundings file dialect = .error fault ↔ Missed surroundings file fault := by
  refine ⟨fun refused => ?_, fun source => source.resolve dialect⟩
  rcases found_or_missed surroundings file with ⟨found, source⟩ | ⟨other, source⟩
  · rw [source.resolve dialect] at refused
    cases refused
  · rw [source.resolve dialect, Except.error.injEq] at refused
    exact refused ▸ source

/-! ### Other surroundings -/

theorem Found.congr {found : Settings} (here : Found surroundings file found)
    (same : other.source file = surroundings.source file) : Found other file found := by
  cases here with
  | @named path _ described =>
    have there : other.look path = surroundings.look path := same
    exact .named (there ▸ described)
  | conventional described =>
    have there : other.lookBelow fileName = surroundings.lookBelow fileName := same
    exact .conventional (there ▸ described)
  | standard noFile =>
    have there : other.lookBelow fileName = surroundings.lookBelow fileName := same
    exact .standard (there ▸ noFile)

theorem found_congr (same : other.source file = surroundings.source file) {found : Settings} :
    Found other file found ↔ Found surroundings file found :=
  ⟨fun there => there.congr same.symm, fun here => here.congr same⟩

/-- **Two surroundings with the same source.** The wording of a refusal has the name of the
directory in it where no file was named. -/
theorem resolve_congr {dialect : Option Dialect}
    (same : other.source file = surroundings.source file)
    (named : file = none → other.directory = surroundings.directory) :
    resolve other file dialect = resolve surroundings file dialect := by
  cases file with
  | some path =>
    have here : other.look path = surroundings.look path := same
    rw [resolve_named, resolve_named, here]
  | none =>
    have here : other.lookBelow fileName = surroundings.lookBelow fileName := same
    rw [resolve_conventional, resolve_conventional, here,
      Surroundings.fullPath_congr (named rfl)]

/-- **Two directories** that agree on the entries named by the path of the source. -/
theorem resolve_look_congr {directory : String} {first second : List (String × FileTree)}
    {dialect : Option Dialect}
    (agree : ∀ part ∈ FileTree.parts (file.getD fileName),
      (FileTree.directory first).child? part = (FileTree.directory second).child? part) :
    resolve ⟨directory, (FileTree.directory first).look⟩ file dialect =
      resolve ⟨directory, (FileTree.directory second).look⟩ file dialect :=
  resolve_congr (Surroundings.source_congr (FileTree.look_congr agree) fun _ => rfl) fun _ => rfl

/-- **Another conventional file**, or something else in its place, does not matter to a path that
does not name it. -/
theorem look_insert_fileName {path : String} (apart : fileName ∉ FileTree.parts path)
    (entries : List (String × FileTree)) (node : FileTree) :
    ((FileTree.directory entries).insert fileName node).look path =
      (FileTree.directory entries).look path := by
  have inserted : (FileTree.directory entries).insert fileName node =
      FileTree.insertAt node [fileName] (.directory entries) := rfl
  obtain ⟨changed, same, kept⟩ := FileTree.child?_insertAt entries fileName node
  rw [inserted, same]
  exact FileTree.look_congr fun part member =>
    kept part fun equal => apart (equal ▸ member)

end Settings

/-- **A program needs to look at one path alone**, that of a named file or the conventional one. -/
theorem Outcome.ofRequest_look (surroundings : Surroundings) (invocation : Invocation) :
    Outcome.ofRequest surroundings (some (.run invocation)) =
      Outcome.ofRequest
        ⟨surroundings.directory, fun _ => surroundings.look invocation.consulted⟩
        (some (.run invocation)) := by
  let reduced : Surroundings :=
    ⟨surroundings.directory, fun _ => surroundings.look invocation.consulted⟩
  have source : surroundings.source invocation.settingsFile =
      reduced.source invocation.settingsFile :=
    Surroundings.source_congr rfl fun _ => rfl
  have settings : invocation.settings surroundings = invocation.settings reduced :=
    Settings.resolve_congr source fun _ => rfl
  simp only [ofRequest, Invocation.result, settings, reduced]

namespace Settings

/-- **The settings for every choice of a file and a dialect.** They come from the source of the
choice, with the dialect that was asked for in the place of the one found. There are none exactly
when the source is of no use, whatever dialect was asked for. Other surroundings with the same
source give the same; so do other entries of the directory that the path of the source does not
name, and in particular another conventional file where a file was named. A program ends the same
way when it looks at that path alone, whatever its command. -/
theorem resolve_by_source (surroundings : Surroundings) (file : Option String)
    (dialect : Option Dialect) :
    (∀ settings, resolve surroundings file dialect = .ok settings ↔
      ∃ found, Found surroundings file found ∧ settings = ⟨dialect.getD found.dialect⟩) ∧
    (∀ fault, resolve surroundings file dialect = .error fault ↔ Missed surroundings file fault) ∧
    (∀ asked, (∃ settings, resolve surroundings file dialect = .ok settings) ↔
      ∃ settings, resolve surroundings file asked = .ok settings) ∧
    (∀ other : Surroundings, other.source file = surroundings.source file →
      (∀ settings, resolve other file dialect = .ok settings ↔
        resolve surroundings file dialect = .ok settings) ∧
      ((file = none → other.directory = surroundings.directory) →
        resolve other file dialect = resolve surroundings file dialect)) ∧
    (∀ directory first second,
      (∀ part ∈ FileTree.parts (file.getD fileName),
        (FileTree.directory first).child? part = (FileTree.directory second).child? part) →
      resolve ⟨directory, (FileTree.directory first).look⟩ file dialect =
        resolve ⟨directory, (FileTree.directory second).look⟩ file dialect) ∧
    (∀ directory entries path node, fileName ∉ FileTree.parts path →
      resolve ⟨directory, ((FileTree.directory entries).insert fileName node).look⟩ (some path)
          dialect =
        resolve ⟨directory, (FileTree.directory entries).look⟩ (some path) dialect) ∧
    ∀ command, Outcome.ofRequest surroundings (some (.run ⟨dialect, file, command⟩)) =
      Outcome.ofRequest ⟨surroundings.directory, fun _ => surroundings.look (file.getD fileName)⟩
        (some (.run ⟨dialect, file, command⟩)) := by
  refine ⟨fun _ => resolve_eq_ok_iff, fun _ => resolve_eq_error_iff, ?asked, ?other,
    fun _ _ _ => resolve_look_congr, ?conventional, ?program⟩
  case asked =>
    intro asked
    simp only [resolve_eq_ok_iff]
    constructor
    · rintro ⟨_, found, source, -⟩
      exact ⟨_, found, source, rfl⟩
    · rintro ⟨_, found, source, -⟩
      exact ⟨_, found, source, rfl⟩
  case other =>
    intro other same
    refine ⟨fun settings => ?_, resolve_congr same⟩
    simp only [resolve_eq_ok_iff, found_congr same]
  case conventional =>
    intro directory entries path node apart
    exact resolve_congr (look_insert_fileName apart entries node) nofun
  case program =>
    intro command
    exact Outcome.ofRequest_look surroundings ⟨dialect, file, command⟩

/-- In the directory `/`, where the conventional file is no text. It is complained about when no
file is named, with one slash in front, and although a dialect was asked for. When a file is named
and missing, that one is complained about instead. -/
theorem resolve_by_source_spoiled :
    let spoiled := FileTree.directory [(fileName, .file ⟨#[0xff]⟩)]
    spoiled.look fileName = .file ⟨#[0xff]⟩ ∧ spoiled.look "other.toml" = .absent ∧
      resolve ⟨"/", spoiled.look⟩ none (some .intel) = .error (.notLoaded "/asminfo.toml"
        (.unreadable "stream did not contain valid UTF-8")) ∧
      resolve ⟨"/", spoiled.look⟩ (some "other.toml") (some .intel) =
        .error (.notLoaded "other.toml" (.notFound "other.toml")) := by
  intro spoiled
  have present : spoiled.look fileName = .file ⟨#[0xff]⟩ := by rfl
  have missing : spoiled.look "other.toml" = .absent := by rfl
  have full : Surroundings.fullPath ⟨"/", spoiled.look⟩ fileName = "/asminfo.toml" := by
    show joinedPath "/" fileName = "/asminfo.toml"
    rfl
  have below : Surroundings.lookBelow ⟨"/", spoiled.look⟩ fileName = .file ⟨#[0xff]⟩ := by
    rw [Surroundings.lookBelow, full]
    rfl
  have noText : (Entry.file ⟨#[0xff]⟩).Unusable "/asminfo.toml"
      (.unreadable "stream did not contain valid UTF-8") := .notText (by rfl)
  have unusable : (spoiled.look "other.toml").Unusable "other.toml" (.notFound "other.toml") := by
    rw [missing]
    exact .absent
  refine ⟨present, missing, ?conventional, ?named⟩
  case conventional =>
    have missed : Missed ⟨"/", spoiled.look⟩ none (.notLoaded "/asminfo.toml"
        (.unreadable "stream did not contain valid UTF-8")) :=
      full ▸ .conventional below (full.symm ▸ noText)
    exact ((resolve_by_source ⟨"/", spoiled.look⟩ none (some .intel)).2.1 _).mpr missed
  case named =>
    exact ((resolve_by_source ⟨"/", spoiled.look⟩ (some "other.toml") (some .intel)).2.1 _).mpr
      (.named unusable)

end Settings

end AsmTarget
