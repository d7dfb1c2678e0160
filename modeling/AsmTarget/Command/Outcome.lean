/-
**What a command does.**

A command either has an output or is refused as a whole; settings are resolved before it starts.

* `Command.output`: the output of a command under settings;
* `Invocation.settings`, `Invocation.result`: the settings of an invocation, and its output;
* `Outcome.ofRequest`: what a process writes and the code it ends with.
-/

import AsmTarget.Command.Line
import AsmTarget.Descriptor.Build
import AsmTarget.Descriptor.Extension
import AsmTarget.Descriptor.Render
import AsmTarget.Fingerprint
import AsmTarget.Settings.Resolution
import AsmTarget.Triple.Reading

namespace AsmTarget

/-- What a process writes, and the code it ends with. -/
structure Outcome where
  code : UInt8
  output : String
  complaint : String
  deriving DecidableEq, Repr

namespace Command

/-- The descriptor of a triple's text. -/
def descriptor (triple : String) (settings : Settings) : Descriptor :=
  .ofTriple (.parse triple) settings

/-- The line that says what a triple selects. -/
def selectLine (triple : Triple) : String :=
  let flavor := Flavor.select triple
  triple.text ++ ": " ++ flavor.name ++ " (" ++ flavor.objectFormat.name ++ ")"

/-- The line that says what becomes of a constraint. -/
def constraintLine (name : String) : Except Fault String := do
  let spelling ← AliasTable.x86.lookup name
  return name ++ " -> " ++ spelling.word?.getD "(omitted)"

/-- The line that refers to a personality routine. A flavor without a form of its own gets the
name of the routine. -/
def personalityLine (descriptor : Descriptor) (name : String) : Except Fault String := do
  let (symbol, context) := Context.fresh.internSymbol name
  let symbol ← symbol.mapError .symbol
  let encoding := PointerEncoding.personality
  if descriptor.hasPersonality then
    let (expr, _) := descriptor.personality symbol encoding context
    return (← expr).text ++ " (encoding " ++ encoding.text ++ ")"
  else
    return symbol.name ++ " (encoding " ++ encoding.text ++
      ", no target-specific form for " ++ descriptor.flavor.name ++ ")"

/-- The line that opens the section which says that the stack holds no code. -/
def stackNoteLine (descriptor : Descriptor) : Except Fault String := do
  let (note, _) := descriptor.stackNote .fresh
  return (← note).directive

/-- The output of a command under settings. -/
def output (command : Command) (settings : Settings) : Except Fault String :=
  match command with
  | .describe triple format => (descriptor triple settings).render format
  | .select triple => return Text.lines [selectLine (.parse triple)]
  | .constraint names => return Text.lines (← names.mapM constraintLine)
  | .personality triple symbol =>
    return Text.lines [← personalityLine (descriptor triple settings) symbol]
  | .stackNote triple => return Text.lines [← stackNoteLine (descriptor triple settings)]
  | .fingerprint triple =>
    return Text.lines [(descriptor triple settings).fingerprint.text]

end Command

namespace Invocation

/-- The path of the only file that an invocation looks at. -/
def consulted (invocation : Invocation) : String :=
  invocation.settingsFile.getD Settings.fileName

/-- The settings of an invocation. -/
def settings (invocation : Invocation) (surroundings : Surroundings) : Except Fault Settings :=
  Settings.resolve surroundings invocation.settingsFile invocation.dialect

/-- The output of an invocation. -/
def result (invocation : Invocation) (surroundings : Surroundings) : Except Fault String := do
  invocation.command.output (← invocation.settings surroundings)

end Invocation

namespace Outcome

/-- The line that tells about a refusal and its causes. -/
def complaintOf (fault : Fault) : String :=
  Text.lines ["error: " ++ ": ".intercalate fault.chain]

/-- The outcome of a result: a refusal leaves the output empty. -/
def ofResult : Except Fault String → Outcome
  | .ok output => { code := 0, output, complaint := "" }
  | .error fault => { code := 1, output := "", complaint := complaintOf fault }

/-- The name and the number of the program. -/
def versionLine : String := "asminfo 0.1.0"

/-- The outcome of arguments that do not follow the rules. -/
def misuse : Outcome :=
  { code := 2, output := "", complaint := Text.lines ["error: the arguments make no sense"] }

/-- The outcome of what a command line asks for, if it asks for anything. -/
def ofRequest (surroundings : Surroundings) : Option Request → Outcome
  | none => misuse
  | some .version => ofResult (.ok (Text.lines [versionLine]))
  | some (.run invocation) => ofResult (invocation.result surroundings)

end Outcome

end AsmTarget
