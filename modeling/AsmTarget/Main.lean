/-
**The program.**

It reads the one settings file that its arguments lead to, and writes the outcome.
-/

import AsmTarget.Command.Outcome

namespace AsmTarget

/-- What is found at a path that starts in the current directory. -/
def entryAt (path : String) : IO Entry := do
  let place := System.mkFilePath [path]
  if ← place.isDir then return .directory
  else if ← place.pathExists then return .file (← IO.FS.readBinFile place)
  else return .absent

/-- The outcome of a command line in the current directory. -/
def outcome (request : Option Request) : IO Outcome := do
  match request with
  | some (.run invocation) =>
    let directory ← IO.currentDir
    let entry ← entryAt invocation.consulted
    return .ofRequest ⟨directory.toString, fun _ => entry⟩ request
  | _ => return .ofRequest ⟨"", fun _ => .absent⟩ request

end AsmTarget

open AsmTarget in
/-- Runs a command line and ends with the code of its outcome. -/
def main (arguments : List String) : IO UInt32 := do
  let outcome ← outcome (Request.read? arguments)
  (← IO.getStdout).putStr outcome.output
  (← IO.getStderr).putStr outcome.complaint
  return outcome.code.toUInt32
