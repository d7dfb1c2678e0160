/-
**Aliases of inline-assembly constraints.**

An alias table pairs the symbolic names of registers and clobbers with the spellings that the
native tools accept. An empty spelling marks a name that is valid and has no counterpart.

* `AliasTable.lookup`: the spelling of a name, from its first entry;
* `AliasTable.translate`: the spellings of a list of names, up to the first unknown one.
-/

import AsmTarget.Fault

namespace AsmTarget

/-- Pairs of a symbolic name and its native spelling, which may be empty. -/
abbrev AliasTable := List (String × String)

/-- The aliases of every x86 target. -/
def AliasTable.x86 : AliasTable :=
  [("\x7bsi\x7d", "S"), ("\x7bdi\x7d", "D"), ("\x7bax\x7d", "a"), ("\x7bcx\x7d", "c"),
    ("\x7bmemory\x7d", "memory"), ("\x7bflags\x7d", ""), ("\x7bdirflag\x7d", ""),
    ("\x7bfpsr\x7d", ""), ("\x7bfpcr\x7d", ""), ("\x7bcc\x7d", "cc")]

/-- What becomes of a known name. -/
inductive Spelling where
  | native (word : String)
  /-- The name is valid, and nothing is written for it. -/
  | omitted
  deriving DecidableEq, Repr

namespace Spelling

/-- The spelling that a table's entry gives. -/
def ofEntry (word : String) : Spelling :=
  if word = "" then omitted else native word

/-- What is written for a name, if anything. -/
def word? : Spelling → Option String
  | native word => some word
  | omitted => none

end Spelling

namespace AliasTable

/-- The second half of the first entry for a name. -/
def wordFor? (table : AliasTable) (name : String) : Option String :=
  (table.find? (·.1 == name)).map (·.2)

/-- The spelling of a name, if the table knows the name. -/
def lookup (table : AliasTable) (name : String) : Except Fault Spelling :=
  match table.wordFor? name with
  | some word => .ok (Spelling.ofEntry word)
  | none => .error (.unknownConstraint name)

/-- The spellings of names in order, without those that have none, unless a name is unknown. -/
def translate (table : AliasTable) : List String → Except Fault (List String)
  | [] => .ok []
  | name :: names => do
    let spelling ← table.lookup name
    let words ← table.translate names
    return spelling.word?.toList ++ words

end AliasTable

end AsmTarget
