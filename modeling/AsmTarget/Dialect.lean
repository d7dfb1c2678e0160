/-
**The two dialects of x86 assembly text.**

* `name`: the word that names a dialect for a reader and on the command line;
* `ofName?`: the dialect that a word names, letter for letter;
* `tag`, `ofTag?`: how a dialect is written in structured data, and the dialect with a tag;
* `index`: the number of a dialect among the alternatives of an inline-assembly template;
* `description`: a sentence for a reader.
-/

namespace AsmTarget

/-- The order of operands and the way registers are marked. -/
inductive Dialect where
  | att
  | intel
  deriving DecidableEq, Repr

/-- Nothing chosen means the AT&T dialect. -/
instance : Inhabited Dialect := ⟨.att⟩

namespace Dialect

/-- All dialects. -/
def all : List Dialect := [att, intel]

/-- The word that names a dialect. -/
def name : Dialect → String
  | att => "att"
  | intel => "intel"

/-- The dialect with a given name. -/
def ofName? (word : String) : Option Dialect :=
  all.find? (·.name == word)

/-- How a dialect is written in structured data. -/
def tag : Dialect → String
  | att => "att"
  | intel => "intel"

/-- The dialect with a given tag. -/
def ofTag? (word : String) : Option Dialect :=
  all.find? (·.tag == word)

/-- The number of a dialect among alternatives. -/
def index : Dialect → Nat
  | att => 0
  | intel => 1

/-- What choosing a dialect does. -/
def description : Dialect → String
  | att => "Emit AT&T-style assembly"
  | intel => "Emit Intel-style assembly"

/-- Every dialect is found by its name. -/
theorem ofName?_name (dialect : Dialect) : ofName? dialect.name = some dialect := by
  cases dialect <;> decide

/-- No other word finds it. -/
theorem ofName?_eq_some_iff {word : String} {dialect : Dialect} :
    ofName? word = some dialect ↔ word = dialect.name := by
  constructor
  · intro found
    unfold ofName? at found
    have named := List.find?_some found
    exact (eq_of_beq named).symm
  · rintro rfl
    exact ofName?_name dialect

end Dialect

end AsmTarget
