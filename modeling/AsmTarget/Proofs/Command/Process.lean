/-
**A command as it goes along.**

A process writes piece by piece, and a refusal ends it wherever it has got to; what is written by
then stays written. A command goes through its steps in this way, lines one at a time, and comes to
the outcome that it has as a whole.

* `Process`: what is written and how it goes on; `Process.outcome`: what it has come to at its end;
* `Command.process`, `Invocation.process`: the steps of a command, and the settings before them;
* `Invocation.outcome_process`: **the outcome of the steps is that of the request**.
-/

import AsmTarget.Command.Outcome

namespace AsmTarget

/-- A process that writes a text and ends with a value, or with a refusal on the way. -/
abbrev Process (Value : Type) := ExceptT Fault (StateM String) Value

namespace Process

variable {Value : Type}

/-- Goes on with the value of a result, or ends with its refusal. -/
def settle (result : Except Fault Value) : Process Value :=
  fun written => (result, written)

/-- Writes a text after what is written already. -/
def write (text : String) : Process Unit :=
  fun written => (.ok (), written ++ text)

/-- Writes a line. -/
def writeLine (line : String) : Process Unit :=
  write (Text.lines [line])

/-- What a process comes to that starts with nothing written. -/
def outcome (process : Process Unit) : Outcome :=
  match process "" with
  | (.ok (), written) => { code := 0, output := written, complaint := "" }
  | (.error fault, written) =>
    { code := 1, output := written, complaint := Outcome.complaintOf fault }

end Process

open Process

/-- The steps of a command under settings. What can be refused is settled before the first line is
written. -/
def Command.process (settings : Settings) : Command → Process Unit
  | .describe triple format => do write (← settle ((descriptor triple settings).render format))
  | .select triple => writeLine (selectLine (.parse triple))
  | .constraint names => do (← settle (names.mapM constraintLine)).forM writeLine
  | .personality triple symbol => do
    writeLine (← settle (personalityLine (descriptor triple settings) symbol))
  | .stackNote triple => do writeLine (← settle (stackNoteLine (descriptor triple settings)))
  | .fingerprint triple => writeLine (descriptor triple settings).fingerprint.text

/-- The steps of an invocation, which start with its settings. -/
def Invocation.process (invocation : Invocation) (surroundings : Surroundings) : Process Unit := do
  invocation.command.process (← settle (invocation.settings surroundings))

/-! ### Steps that are refused and steps that write -/

namespace Process

variable {Value : Type}

theorem write_settle (result : Except Fault Value) (text : Value → String) :
    (do write (text (← settle result))) =
      (do write (← settle (do return text (← result)))) := by
  cases result <;> rfl

theorem write_bind (first second : String) :
    (do write first; write second) = write (first ++ second) := by
  funext written
  show (Except.ok (), (written ++ first) ++ second) = (Except.ok (), written ++ (first ++ second))
  rw [String.append_assoc]

/-- Lines written one at a time are written as a text of lines. -/
theorem forM_writeLine (list : List String) : list.forM writeLine = write (Text.lines list) := by
  induction list with
  | nil =>
    funext written
    show (Except.ok (), written) = (Except.ok (), written ++ "")
    rw [String.append_empty]
  | cons line rest ih =>
    calc (do writeLine line; rest.forM writeLine)
        = (do write (Text.lines [line]); write (Text.lines rest)) := by rw [ih]; rfl
      _ = write (Text.lines [line] ++ Text.lines rest) := write_bind _ _
      _ = write (Text.lines (line :: rest)) := by
          simp only [Text.lines, ← String.ofList_append, List.flatMap_cons, List.flatMap_nil,
            List.append_nil]

/-- A text that is written once nothing can be refused any more comes to a result. -/
theorem outcome_settle_write (result : Except Fault String) :
    outcome (do write (← settle result)) = Outcome.ofResult result := by
  cases result with
  | ok text =>
    show Outcome.mk 0 ("" ++ text) "" = Outcome.mk 0 text ""
    rw [String.empty_append]
  | error fault => rfl

end Process

/-! ### Commands and invocations -/

theorem Command.process_eq (command : Command) (settings : Settings) :
    command.process settings = (do write (← settle (command.output settings))) := by
  cases command with
  | describe triple format => rfl
  | select triple => rfl
  | constraint names =>
    rw [process]
    simp only [forM_writeLine]
    exact write_settle (names.mapM constraintLine) Text.lines
  | personality triple symbol =>
    exact write_settle (personalityLine (descriptor triple settings) symbol) (Text.lines [·])
  | stackNote triple =>
    exact write_settle (stackNoteLine (descriptor triple settings)) (Text.lines [·])
  | fingerprint triple => rfl

/-- **The steps of an invocation come to the outcome of the request for it.** -/
theorem Invocation.outcome_process (invocation : Invocation) (surroundings : Surroundings) :
    (invocation.process surroundings).outcome =
      Outcome.ofRequest surroundings (some (.run invocation)) := by
  rw [Outcome.ofRequest, ← outcome_settle_write, result, process]
  simp only [Command.process_eq]
  cases invocation.settings surroundings <;> rfl

end AsmTarget
