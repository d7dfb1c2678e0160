/-
**Actions of an emission.**

An emission is a list of actions on one context, each of which is either done or refused.

* `Action`: what can be asked of a context; `Reply`: what a done action answers with;
* `Context.perform`: one action;
* `Context.performAll`: actions in turn, where a refused one does not keep the others from being
  done.
-/

import AsmTarget.Descriptor.Extension

namespace AsmTarget

/-- What can be asked of a context. -/
inductive Action where
  | internSymbol (name : String)
  | record (expr : Expr)
  | openSection (name : String) (attributes : SectionAttributes)
  | personality (descriptor : Descriptor) (symbol : Symbol) (encoding : PointerEncoding)
  | stackNote (descriptor : Descriptor)
  deriving DecidableEq, Repr

/-- What an action that was done answers with. -/
inductive Reply where
  | symbol (symbol : Symbol)
  | expr (expr : Expr)
  | opened (s : Section)
  deriving DecidableEq, Repr

/-- Why an action was refused: by the context itself, or by an operation on descriptors. -/
inductive Refusal where
  | byContext (cause : ContextFault)
  | byDescriptor (cause : Fault)
  deriving DecidableEq, Repr

namespace Context

/-- One action. -/
def perform (context : Context) : Action → Except Refusal Reply × Context
  | .internSymbol name =>
    let (result, after) := context.internSymbol name
    ((result.map .symbol).mapError .byContext, after)
  | .record expr => (.ok (.expr expr), context.record expr)
  | .openSection name attributes =>
    let (result, after) := context.openSection name attributes
    ((result.map .opened).mapError .byContext, after)
  | .personality descriptor symbol encoding =>
    let (result, after) := descriptor.personality symbol encoding context
    ((result.map .expr).mapError .byDescriptor, after)
  | .stackNote descriptor =>
    let (result, after) := descriptor.stackNote context
    ((result.map .opened).mapError .byDescriptor, after)

/-- Actions in turn, with what each of them came to. -/
def performAll (context : Context) : List Action → List (Except Refusal Reply) × Context
  | [] => ([], context)
  | action :: actions =>
    let (result, next) := context.perform action
    let (results, final) := next.performAll actions
    (result :: results, final)

end Context

end AsmTarget
