/-
**Symbols and the ways to refer to them.**

* `Symbol`: a name that is not empty; two symbols are the same when their names are;
* `Symbol.isTemporary`: whether a name is local to the assembler under a given start;
* `ReferenceKind`: the relocation that a reference asks for, and the suffix that says so.
-/

import AsmTarget.Text.Words

namespace AsmTarget

/-- A symbol, known by its name. -/
structure Symbol where
  name : String
  nonempty : name ≠ ""
  deriving DecidableEq, Repr

namespace Symbol

/-- The symbol with a name, unless the name is empty. -/
def ofName? (name : String) : Option Symbol :=
  if present : name = "" then none else some ⟨name, present⟩

/-- Whether the symbol is local to the assembler, under a start that marks such names. An empty
start marks none. -/
def isTemporary (symbol : Symbol) (mark : String) : Bool :=
  mark != "" && Text.startsWith symbol.name mark

/-- Symbols are ordered as their names are, by code points. -/
def notAfter (first second : Symbol) : Bool :=
  decide (first.name ≤ second.name)

/-- Symbols in order. -/
def sorted (symbols : List Symbol) : List Symbol :=
  symbols.mergeSort notAfter

/-- Symbols with the same name are the same. -/
theorem eq_of_name {first second : Symbol} (same : first.name = second.name) :
    first = second := by
  cases first; cases second; simp_all

theorem toList_ne_nil (symbol : Symbol) : symbol.name.toList ≠ [] :=
  fun empty => symbol.nonempty (String.toList_eq_nil_iff.mp empty)

theorem ofName?_eq_none {name : String} : ofName? name = none ↔ name = "" := by
  unfold ofName?
  split <;> simp_all

theorem ofName?_eq_some {name : String} {symbol : Symbol} :
    ofName? name = some symbol ↔ symbol.name = name := by
  unfold ofName?
  split
  · next empty => simpa [empty] using symbol.nonempty
  · constructor
    · intro found; cases found; rfl
    · intro same; exact congrArg some (eq_of_name same.symm)

end Symbol

/-- How the linker shall resolve a reference to a symbol. -/
inductive ReferenceKind where
  /-- The address itself. -/
  | plain
  /-- The entry in the global offset table, relative to the place of the reference. -/
  | gotPcRel
  /-- The distance from the base of the global offset table. -/
  | gotOffset
  /-- The entry in the procedure linkage table. -/
  | plt
  /-- The pointer to a thread-local variable. -/
  | tlvp
  deriving DecidableEq, Repr

namespace ReferenceKind

/-- All kinds of references. -/
def all : List ReferenceKind := [plain, gotPcRel, gotOffset, plt, tlvp]

/-- What follows the name of the symbol in a reference. -/
def suffix : ReferenceKind → String
  | plain => ""
  | gotPcRel => "@GOTPCREL"
  | gotOffset => "@GOTOFF"
  | plt => "@PLT"
  | tlvp => "@TLVP"

/-- How a kind is written in structured data. -/
def tag : ReferenceKind → String
  | plain => "none"
  | gotPcRel => "got-pc-rel"
  | gotOffset => "got-off"
  | plt => "plt"
  | tlvp => "tlvp-rel"

end ReferenceKind

end AsmTarget
