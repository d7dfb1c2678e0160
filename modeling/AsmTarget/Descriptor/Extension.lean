/-
**Operations that only one flavor has.**

* `Descriptor.personality`: the special reference to a personality routine, on 64-bit Darwin;
* `Descriptor.stackNote`: the section that says that the stack holds no code, on ELF;
* `Descriptor.hasPersonality`, `Descriptor.hasStackNote`: whether a target has them.
-/

import AsmTarget.Descriptor
import AsmTarget.PointerEncoding

namespace AsmTarget

namespace Descriptor

/-- The reference to a personality routine, where a flavor has a form of its own for it. On 64-bit
Darwin the unwinder counts from the end of the four bytes that hold the pointer. -/
def personalityForm? (flavor : Flavor) (symbol : Symbol) : Option Expr :=
  match flavor with
  | .darwin64 => some (.add (.reference symbol .gotPcRel) (.constant 4))
  | .darwin32 | .elf | .microsoft | .gnuCoff => none

/-- The section that says that the stack holds no code, where a flavor has one. -/
def stackNote? (flavor : Flavor) : Option Section :=
  match flavor with
  | .elf => some ⟨".note.GNU-stack", ⟨.progBits, .none, .metadata⟩⟩
  | .darwin32 | .darwin64 | .microsoft | .gnuCoff => none

/-- Whether there is a special reference to personality routines. -/
def hasPersonality (descriptor : Descriptor) : Bool :=
  descriptor.flavor == .darwin64

/-- Whether there is a section that says that the stack holds no code. -/
def hasStackNote (descriptor : Descriptor) : Bool :=
  (stackNote? descriptor.flavor).isSome

/-- The expression that refers to a personality routine, recorded in the context. The form fixes
the encoding, so the one asked for does not count. -/
def personality (descriptor : Descriptor) (symbol : Symbol) (_encoding : PointerEncoding)
    (context : Context) : Except Fault Expr × Context :=
  match personalityForm? descriptor.flavor symbol with
  | some expr => (.ok expr, context.record expr)
  | none => (.error (.unsupported .personality descriptor.flavor), context)

/-- The section that says that the stack holds no code, opened in the context. -/
def stackNote (descriptor : Descriptor) (context : Context) :
    Except Fault Section × Context :=
  match stackNote? descriptor.flavor with
  | some note =>
    let (result, after) := context.openSection note.name note.attributes
    (result.mapError .context, after)
  | none => (.error (.unsupported .stackNote descriptor.flavor), context)

end Descriptor

end AsmTarget
