/-
**Settings as TOML documents.**

A document describes settings when its only key is the processor family, with the dialect as the
only key below it, and either may be left out. Keys are looked at in the order of the document,
and the first thing that does not fit is what the document is refused for.

* `Toml.sole`: a table with at most one key;
* `Dialect.ofToml`, `Settings.ofToml`: the values that a document describes;
* `Settings.parse`: the settings in a text; `Settings.text`: the text of settings.
-/

import AsmTarget.Fault
import AsmTarget.Settings
import AsmTarget.Text.Lines
import AsmTarget.Toml.Reading

namespace AsmTarget

/-- The value that a key has in entries which know no other key. -/
def Toml.sole {Value : Type} (known : String) (absent : Value)
    (part : Toml → Except Mismatch Value) (entries : List (String × Toml)) :
    Except Mismatch Value :=
  entries.foldlM
    (fun _ (key, value) =>
      if key = known then part value else .error (.unknownField key known))
    absent

/-- The dialect with a tag, which has to be one. -/
def Dialect.tagged (word : String) : Except Mismatch Dialect :=
  match Dialect.ofTag? word with
  | some dialect => .ok dialect
  | none => .error (.unknownVariant word)

/-- A dialect is given by its tag, or by a table with the tag as its only key and nothing as the
value. -/
def Dialect.ofToml : Toml → Except Mismatch Dialect
  | .string word => Dialect.tagged word
  | .table [(word, value)] => do
    let dialect ← Dialect.tagged word
    match value with
    | .array [] | .table [] => return dialect
    | _ => .error .wrongKind
  | _ => .error .wrongKind

namespace Settings

/-- The key for the processor family. -/
def familyKey : String := "x86"

/-- The key for the dialect. -/
def dialectKey : String := "asm-syntax"

/-- The key under which a date is kept where a table is expected. -/
def dateKey : String := "$__toml_private_datetime"

/-- The dialect among the settings of a processor family. They may also be given as an array, of
which the first item is the dialect. -/
def familyDialect : Toml → Except Mismatch Dialect
  | .table entries => Toml.sole dialectKey default Dialect.ofToml entries
  | .array [] => .ok default
  | .array (first :: _) => Dialect.ofToml first
  | .dateTime _ => .error (.unknownField dateKey dialectKey)
  | _ => .error .wrongKind

/-- The settings that a document describes. -/
def ofToml : Toml → Except Mismatch Settings
  | .table entries => Settings.mk <$> Toml.sole familyKey default familyDialect entries
  | _ => .error .wrongKind

/-- The settings in the text of a document. -/
def parse (text : String) : Except Fault Settings :=
  match Toml.read? text with
  | none => .error .malformedSettings
  | some document => (ofToml document).mapError .mismatchedSettings

/-- The text of a document that describes settings. -/
def text (settings : Settings) : String :=
  Text.lines [Toml.headerLine familyKey, Toml.stringLine dialectKey settings.dialect.tag]

end Settings

end AsmTarget
