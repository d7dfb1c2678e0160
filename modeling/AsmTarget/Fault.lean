/-
**Reasons why an operation is refused.**

* `Extension`, `Mismatch`: what a refusal may be about;
* `Fault`: the reasons, some of which pass on the refusal of another part of the library;
* `Fault.message`: the wording of a refusal; `Fault.chain`: the wording followed by that of its
  causes.
-/

import AsmTarget.Emission.Context
import AsmTarget.Flavor

namespace AsmTarget

/-- The operations that only some flavors have. -/
inductive Extension where
  | personality
  | stackNote
  deriving DecidableEq, Repr

/-- What an operation is called in a refusal. -/
def Extension.name : Extension → String
  | personality => "personality expression"
  | stackNote => "non-executable stack section"

/-- Why a settings document that is well-formed does not describe settings. -/
inductive Mismatch where
  /-- A key that no settings have, at a place where only one is known. -/
  | unknownField (field known : String)
  /-- A name that no dialect has. -/
  | unknownVariant (word : String)
  /-- A value of a kind that does not belong at its place. -/
  | wrongKind
  deriving DecidableEq, Repr

/-- The wording of a mismatch. -/
def Mismatch.message : Mismatch → String
  | unknownField field known =>
    "unknown field \x60" ++ field ++ "\x60, expected \x60" ++ known ++ "\x60"
  | unknownVariant word =>
    "unknown variant \x60" ++ word ++ "\x60, expected \x60att\x60 or \x60intel\x60"
  | wrongKind => "a value of another kind was expected"

/-- Why an operation on descriptors or settings is refused. -/
inductive Fault where
  | invalidDialect (word : String)
  | unknownConstraint (name : String)
  | unsupported (extension : Extension) (flavor : Flavor)
  | unknownFormat (word : String)
  /-- A symbol was asked for outside of any operation on descriptors. -/
  | symbol (cause : ContextFault)
  /-- An operation on descriptors could not get what it needs from the context. -/
  | context (cause : ContextFault)
  /-- A settings document breaks the rules of its language. -/
  | malformedSettings
  | mismatchedSettings (cause : Mismatch)
  /-- A settings file is there and cannot be read as text. -/
  | unreadable (reason : String)
  | notFound (path : String)
  /-- A settings file, named by its path, could not be used. -/
  | notLoaded (path : String) (cause : Fault)
  deriving DecidableEq, Repr

namespace Fault

/-- What a refusal says about a malformed document. -/
def malformedText : String := "the document is not well-formed"

/-- The wording of a refusal, without its causes. -/
def message : Fault → String
  | invalidDialect word =>
    "invalid x86 assembly syntax '" ++ word ++ "' (expected one of: att, intel)"
  | unknownConstraint name => "malformed inline-asm operand: unknown constraint '" ++ name ++ "'"
  | unsupported extension flavor =>
    extension.name ++ " is not supported for " ++ flavor.name ++ " targets"
  | unknownFormat word => "unknown format: '" ++ word ++ "' (expected text, toml, or json)"
  | symbol cause => cause.message
  | context cause => "machine-code layer error: " ++ cause.message
  | malformedSettings => "TOML parse error: " ++ malformedText
  | mismatchedSettings cause => "TOML parse error: " ++ cause.message
  | unreadable reason => "I/O error: " ++ reason
  | notFound path => "configuration file not found: " ++ path
  | notLoaded path _ => "failed to load " ++ path

/-- The wording of a refusal and of the causes behind it, the nearest first. -/
def chain : Fault → List String
  | context cause => [message (context cause), cause.message]
  | malformedSettings => [message malformedSettings, malformedText]
  | mismatchedSettings cause => [message (mismatchedSettings cause), cause.message]
  | unreadable reason => [message (unreadable reason), reason]
  | notLoaded path cause => message (notLoaded path cause) :: cause.chain
  | other => [message other]

end Fault

/-! ### Results that are passed on -/

section Results

variable {Cause Fault Value Other : Type} {cause : Cause} {value : Value} {other : Other}

/-- A refusal that is passed on as the cause of another one stays a refusal. -/
theorem mapError_eq_ok_iff {change : Cause → Fault} {result : Except Cause Value} :
    result.mapError change = .ok value ↔ result = .ok value := by
  cases result with
  | error cause => exact ⟨nofun, nofun⟩
  | ok found =>
    constructor
    · rintro ⟨⟩
      rfl
    · rintro ⟨⟩
      rfl

/-- What is made of a result is there when the result is. -/
theorem map_eq_ok_iff {change : Value → Other} {result : Except Cause Value} :
    result.map change = .ok other ↔ ∃ value, result = .ok value ∧ change value = other := by
  cases result with
  | error cause => simp [Except.map]
  | ok found => simp [Except.map]

theorem map_eq_error_iff {change : Value → Other} {result : Except Cause Value} :
    result.map change = .error cause ↔ result = .error cause := by
  cases result with
  | error cause => simp [Except.map]
  | ok found => simp [Except.map]

end Results

end AsmTarget
