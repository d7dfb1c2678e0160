/-
**Reading TOML documents.**

* `Reading.value`: a value, nested within a limit;
* `Reading.statements`: the statements of a document, line by line;
* `Toml.read?`: the table that a document describes.
-/

import AsmTarget.Toml.Quoted
import AsmTarget.Toml.Scalar

namespace AsmTarget.Toml

namespace Reading

open AsmTarget.Text

/-- Takes a comment up to the end of its line, if one comes next. -/
def comment : Reader Bool := do
  if ← Reader.accept '#' then
    let _ ← Reader.takeWhile Quoted.isPlain
    return true
  else return false

/-- Takes blanks, ends of lines and comments. -/
def gap : Reader Unit := do
  let _ ← Reader.repeated do
    let blanks ← Reader.takeWhile Quoted.isBlank
    let noted ← comment
    let ended ← Quoted.acceptNewLine
    return if blanks.isEmpty && !noted && !ended then none else some ()

/-! ### Values -/

/-- How deeply arrays and inline tables may be nested. -/
def nestingLimit : Nat := 79

/-- Takes a key, an equals sign and a value. -/
def pair (value : Reader Toml) : Reader (Path × Toml) := do
  let path ← Quoted.path
  Reader.expect '='
  Quoted.blanks
  return (path, ← value)

/-- Takes a value in which no other is nested. -/
def simple : Reader Toml := do
  match ← Reader.peek? with
  | some '\"' => return .string (← Quoted.reader '\"')
  | some '\'' => return .string (← Quoted.reader '\'')
  | _ => Scalar.reader

/-- Takes a value nested within a limit. -/
def value : Nat → Reader Toml
  | 0 => simple
  | limit + 1 => do
    match ← Reader.peek? with
    | some '[' =>
      Reader.expect '['
      return .array (← Reader.separated (value limit) gap ']' true)
    | some '{' =>
      Reader.expect '{'
      let pairs ← Reader.separated (pair (value limit)) Quoted.blanks '}' false
      (ofPairs? pairs).elim Reader.refuse pure
    | _ => simple

/-! ### Statements -/

/-- Takes what may stand between a statement and the end of its line, and the end itself. -/
def lineEnd : Reader Unit := do
  Quoted.blanks
  let _ ← comment
  match ← Reader.peek? with
  | none => return ()
  | some _ => if ← Quoted.acceptNewLine then return () else Reader.refuse

/-- Takes a header after its first bracket. -/
def header : Reader Statement := do
  if ← Reader.accept '[' then
    let path ← Quoted.path
    Reader.expect ']'
    Reader.expect ']'
    return .element path
  else
    let path ← Quoted.path
    Reader.expect ']'
    return .header path

/-- Takes a line and its statement, if it has one; nothing is taken at the end of the text. -/
def line : Reader (Option (Option Statement)) := do
  Quoted.blanks
  match ← Reader.peek? with
  | none => return none
  | some '#' | some '\n' | some '\r' =>
    lineEnd
    return some none
  | some '[' =>
    Reader.expect '['
    let statement ← header
    lineEnd
    return some (some statement)
  | some _ =>
    let (path, value) ← pair (value nestingLimit)
    lineEnd
    return some (some (.assignment path value))

/-- Takes all lines, after a mark of the byte order that may stand in front of them. -/
def statements : Reader (List Statement) := do
  let _ ← Reader.accept '\uFEFF'
  return (← Reader.repeated line).filterMap id

end Reading

/-- The table that a document describes, unless it breaks the rules of the language. -/
def read? (text : String) : Option Toml :=
  (Text.Reader.whole Reading.statements text.toList).bind ofStatements?

end AsmTarget.Toml
