/-
**Events worth noting.**

Some operations have something to tell beside their result. The events of an operation follow from
what it was applied to, so they are functions of their own and the operations stay plain.

* `Event`: what there is to tell; `Event.level` and `Event.message`: how it is told;
* `Triple.events`, `Flavor.events`, `Descriptor.events`, `AliasTable.events`,
  `Context.actionEvents`, `Settings.events`: the events of the operations, in order.
-/

import AsmTarget.Emission.Action
import AsmTarget.Settings.Toml
import AsmTarget.Text.Quoted
import AsmTarget.Triple.Reading

namespace AsmTarget

/-- How much an event matters. -/
inductive Level where
  | trace
  | debug
  deriving DecidableEq, Repr

/-- How a level is written. -/
def Level.name : Level → String
  | trace => "TRACE"
  | debug => "DEBUG"

/-- Something that happened on the way to a result. -/
inductive Event where
  /-- A word of a triple's text meant nothing. -/
  | ignoredWord (word text : String)
  | selected (flavor : Flavor) (triple : Triple)
  | built (descriptor : Descriptor)
  /-- A constraint was found in an alias table, with this spelling. -/
  | spelled (name word : String)
  | opened (name : String)
  | configured (settings : Settings)
  deriving DecidableEq, Repr

namespace Event

/-- How much an event matters. -/
def level : Event → Level
  | ignoredWord .. | spelled .. | opened _ => .trace
  | selected .. | built _ | configured _ => .debug

/-- The wording of an event. -/
def message : Event → String
  | ignoredWord word text =>
    "ignoring unrecognized triple component '" ++ word ++ "' in '" ++ text ++ "'"
  | selected flavor triple =>
    "selected " ++ flavor.name ++ " descriptor for " ++ triple.text
  | built descriptor =>
    "built " ++ descriptor.flavor.name ++ " descriptor for " ++ descriptor.triple.text ++
      " (pointer size " ++ Text.Decimal.natural descriptor.pointerSize.toNat ++ ", dialect " ++
      descriptor.dialect.name ++ ")"
  | spelled name word => "constraint " ++ name ++ " -> " ++ Text.quoted word
  | opened name => "creating ELF section " ++ name
  | configured settings => "loaded configuration: x86 asm syntax " ++ settings.dialect.name

end Event

/-- The events of reading a triple: the words that mean nothing. -/
def Triple.events (text : String) : List Event :=
  (Triple.read text).ignored.map (.ignoredWord · text)

/-- The event of selecting the flavor of a triple. -/
def Flavor.events (triple : Triple) : List Event :=
  [.selected (.select triple) triple]

/-- The event of building a descriptor. -/
def Descriptor.events (descriptor : Descriptor) : List Event :=
  [.built descriptor]

/-- The events of looking up names up to the first unknown one. -/
def AliasTable.events (table : AliasTable) : List String → List Event
  | [] => []
  | name :: names =>
    match table.wordFor? name with
    | some word => .spelled name word :: table.events names
    | none => []

/-- The event of opening a section, which happens when the section is new. -/
def Context.events (context : Context) (name : String) : List Event :=
  if (context.section? name).isNone then [.opened name] else []

/-- The events of an action: those of the section that it opens, if it opens one. -/
def Context.actionEvents (context : Context) : Action → List Event
  | .openSection name _ => context.events name
  | .stackNote descriptor =>
    match Descriptor.stackNote? descriptor.flavor with
    | some note => context.events note.name
    | none => []
  | .internSymbol _ | .record _ | .personality .. => []

/-- The event of reading settings, which happens when they can be read. -/
def Settings.events (result : Except Fault Settings) : List Event :=
  match result with
  | .ok settings => [.configured settings]
  | .error _ => []

end AsmTarget
