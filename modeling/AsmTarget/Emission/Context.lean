/-
**The context of one emission.**

A context holds the symbols named so far, those among them that some recorded expression uses,
and the sections opened so far. A symbol or section that is asked for again by name is the same
one. An operation that can be refused answers with its result and the context after it, so that
what a refused operation leaves behind is a question one can ask.

* `ContextFault`: why an operation is refused, and in which words;
* `Context.internSymbol`: the symbol of a name;
* `Context.record`: takes note of every symbol of an expression;
* `Context.openSection`: the section of a name, with attributes that must not change.
-/

import AsmTarget.Expr
import AsmTarget.Section
import AsmTarget.Text.Hexadecimal

namespace AsmTarget

/-! ### Refusals -/

/-- Why the emission context refuses a request. -/
inductive ContextFault where
  | emptySymbolName
  /-- A section exists already, with other attributes than the requested ones. -/
  | sectionConflict (name : String) (existing requested : SectionAttributes)
  deriving DecidableEq, Repr

namespace ContextFault

/-- What a section has and what was asked for, as far as the wording of a conflict goes. -/
def detail (existing requested : SectionAttributes) : String :=
  "type " ++ existing.type.name ++ "/" ++ requested.type.name ++
    ", flags 0x" ++ Text.Hexadecimal.number existing.flags.bits.toNat ++
    "/0x" ++ Text.Hexadecimal.number requested.flags.bits.toNat ++
    ", kind " ++ existing.kind.name ++ "/" ++ requested.kind.name

/-- The wording of a refusal. -/
def message : ContextFault → String
  | emptySymbolName => "symbol names must not be empty"
  | sectionConflict name existing requested =>
    "section '" ++ name ++ "' already exists with different attributes: " ++
      detail existing requested

end ContextFault

/-! ### The context -/

/-- The symbols and sections of one emission. -/
structure Context where
  symbols : List Symbol := []
  used : List Symbol := []
  sections : List Section := []
  deriving DecidableEq, Repr

namespace Context

/-- The context in which nothing has happened. -/
def fresh : Context := {}

/-- The known symbol of a name. -/
def symbol? (context : Context) (name : String) : Option Symbol :=
  context.symbols.find? (·.name == name)

/-- Whether a recorded expression contains a symbol. -/
def isUsed (context : Context) (symbol : Symbol) : Bool :=
  decide (symbol ∈ context.used)

/-- The known section of a name. -/
def section? (context : Context) (name : String) : Option Section :=
  context.sections.find? (·.name == name)

/-- The number of known symbols. -/
def symbolCount (context : Context) : Nat :=
  context.symbols.length

/-- The number of known sections. -/
def sectionCount (context : Context) : Nat :=
  context.sections.length

/-- The symbol of a name, known from now on. -/
def internSymbol (context : Context) (name : String) :
    Except ContextFault Symbol × Context :=
  match Symbol.ofName? name with
  | none => (.error .emptySymbolName, context)
  | some symbol => (.ok symbol, { context with symbols := context.symbols.insert symbol })

/-- The context in which every symbol of an expression is known and used. -/
def record (context : Context) (expr : Expr) : Context :=
  { context with
    symbols := expr.symbols.foldr List.insert context.symbols
    used := expr.symbols.foldr List.insert context.used }

/-- The section of a name, opened with the given attributes when it is new. A known section is
refused when it has other attributes. -/
def openSection (context : Context) (name : String) (attributes : SectionAttributes) :
    Except ContextFault Section × Context :=
  match context.section? name with
  | none =>
    let opened : Section := { name, attributes }
    (.ok opened, { context with sections := opened :: context.sections })
  | some known =>
    if known.attributes = attributes then (.ok known, context)
    else (.error (.sectionConflict name known.attributes attributes), context)

end Context

end AsmTarget
