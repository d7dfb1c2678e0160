/-
**The command line.**

A command line is a command with its operands, in order, and options. Options that hold for every
command may stand before it or after it, once on either side, and the later one counts. Two dashes
alone end the options of a command.

* `Command`, `Invocation`: what a command line asks for;
* `Argument.ofText`: what a single argument looks like;
* `Request.read?`: what a list of arguments asks for, if they follow the rules.
-/

import AsmTarget.Dialect
import AsmTarget.Text.Words

namespace AsmTarget

/-- A command with its operands. -/
inductive Command where
  | describe (triple : String) (format : Option String)
  | select (triple : String)
  | constraint (names : List String)
  | personality (triple symbol : String)
  | stackNote (triple : String)
  | fingerprint (triple : String)
  deriving DecidableEq, Repr

/-- A command with the options that hold for every command. -/
structure Invocation where
  dialect : Option Dialect
  settingsFile : Option String
  command : Command
  deriving DecidableEq, Repr

/-- What a command line asks for. -/
inductive Request where
  | run (invocation : Invocation)
  | version
  deriving DecidableEq, Repr

/-! ### Single arguments -/

/-- What an argument looks like. -/
inductive Argument where
  /-- Two dashes alone. -/
  | separator
  /-- Two dashes, a name, and a value after an equals sign if there is one. -/
  | option (name : String) (value : Option String)
  /-- One dash and letters. -/
  | letters (list : List Char)
  | word (text : String)
  deriving DecidableEq, Repr

/-- What an argument looks like. A dash alone is a word. -/
def Argument.ofText (text : String) : Argument :=
  match text.toList with
  | ['-', '-'] => .separator
  | '-' :: '-' :: rest =>
    let name := rest.takeWhile (· != '=')
    match rest.dropWhile (· != '=') with
    | [] => .option (String.ofList name) none
    | _ :: value => .option (String.ofList name) (some (String.ofList value))
  | '-' :: c :: rest => .letters (c :: rest)
  | _ => .word text

/-! ### Options -/

/-- The options given so far on one side of the command. -/
structure Options where
  dialect : Option Dialect := none
  settingsFile : Option String := none
  format : Option String := none
  deriving DecidableEq, Repr

namespace Options

/-- The options with one more, unless it is given already or its value makes no sense. Only some
commands have a format. -/
def add? (options : Options) (hasFormat : Bool) (name value : String) : Option Options :=
  if name = "x86-asm-syntax" ∧ options.dialect.isNone then
    (Dialect.ofName? value).map fun dialect => { options with dialect := some dialect }
  else if name = "config" ∧ options.settingsFile.isNone ∧ value ≠ "" then
    some { options with settingsFile := some value }
  else if name = "format" ∧ hasFormat ∧ options.format.isNone then
    some { options with format := some value }
  else none

/-- The options with the one whose name was just read. Its value stands after an equals sign or is
the next argument, which then has to be a word. Answers with the arguments that are left. -/
def take? (options : Options) (hasFormat : Bool) (name : String) (value : Option String)
    (rest : List String) : Option (Options × List String) :=
  match value, rest with
  | some value, _ => (options.add? hasFormat name value).map (·, rest)
  | none, following :: others =>
    match Argument.ofText following with
    | .word value => (options.add? hasFormat name value).map (·, others)
    | _ => none
  | none, [] => none

/-- Taking an option never gives arguments back. -/
theorem length_take? {options next : Options} {hasFormat : Bool} {name : String}
    {value : Option String} {rest left : List String}
    (taken : options.take? hasFormat name value rest = some (next, left)) :
    left.length ≤ rest.length := by
  unfold take? at taken
  split at taken
  · obtain ⟨_, _, same⟩ := Option.map_eq_some_iff.mp taken
    simp [(Prod.mk.inj same).2]
  · split at taken
    · obtain ⟨_, _, same⟩ := Option.map_eq_some_iff.mp taken
      simp [(Prod.mk.inj same).2]
    · cases taken
  · cases taken

end Options

/-! ### Commands -/

/-- The commands without their operands. -/
inductive CommandName where
  | describe
  | select
  | constraint
  | personality
  | stackNote
  | fingerprint
  deriving DecidableEq, Repr

namespace CommandName

/-- All commands. -/
def all : List CommandName :=
  [describe, select, constraint, personality, stackNote, fingerprint]

/-- The word for a command. -/
def word : CommandName → String
  | describe => "describe"
  | select => "select"
  | constraint => "constraint"
  | personality => "personality"
  | stackNote => "stack-note"
  | fingerprint => "fingerprint"

/-- The command with a given word. -/
def ofWord? (text : String) : Option CommandName :=
  all.find? (·.word == text)

/-- The command with its operands, if their number is right. -/
def withOperands? (name : CommandName) (format : Option String) (operands : List String) :
    Option Command :=
  match name, operands with
  | describe, [triple] => some (.describe triple format)
  | select, [triple] => some (.select triple)
  | constraint, first :: others => some (.constraint (first :: others))
  | personality, [triple, symbol] => some (.personality triple symbol)
  | stackNote, [triple] => some (.stackNote triple)
  | fingerprint, [triple] => some (.fingerprint triple)
  | _, _ => none

/-- The operands and options after the word for a command. -/
def readOperands? (name : CommandName) (options : Options) :
    List String → Option (Options × List String)
  | [] => some (options, [])
  | argument :: rest =>
    match Argument.ofText argument with
    | .separator => some (options, rest)
    | .word text => (readOperands? name options rest).map fun (final, operands) =>
        (final, text :: operands)
    | .letters _ => none
    | .option key value =>
      match _taken : options.take? (name = .describe) key value rest with
      | some (next, left) => readOperands? name next left
      | none => none
termination_by arguments => arguments.length
decreasing_by
  · simp
  · have := Options.length_take? _taken
    simp only [List.length_cons]
    omega

end CommandName

/-! ### Whole command lines -/

namespace Request

/-- What the arguments after some options ask for. Of an option given on both sides of the command
the one after it counts. -/
def readAfter? (options : Options) : List String → Option Request
  | [] => none
  | argument :: rest =>
    match Argument.ofText argument with
    | .separator => none
    | .letters list => if list.head? = some 'V' then some .version else none
    | .word text => do
      let name ← CommandName.ofWord? text
      let (inner, operands) ← name.readOperands? {} rest
      return .run {
        dialect := inner.dialect <|> options.dialect
        settingsFile := inner.settingsFile <|> options.settingsFile
        command := ← name.withOperands? inner.format operands }
    | .option key value =>
      if key = "version" ∧ value.isNone then some .version
      else
        match _taken : options.take? false key value rest with
        | some (next, left) => readAfter? next left
        | none => none
termination_by arguments => arguments.length
decreasing_by
  have := Options.length_take? _taken
  simp only [List.length_cons]
  omega

/-- What a list of arguments asks for, if they follow the rules. -/
def read? (arguments : List String) : Option Request :=
  readAfter? {} arguments

end Request

end AsmTarget
