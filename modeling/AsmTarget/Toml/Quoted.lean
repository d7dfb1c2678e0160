/-
**Strings and keys of TOML.**

* `Quoted.basic`, `Quoted.literal`: strings on one line, with and without escapes;
* `Quoted.longBasic`, `Quoted.longLiteral`: strings between triple quotes;
* `Quoted.reader`: any string; `Quoted.key`: a single key; `Quoted.path`: a dotted key.
-/

import AsmTarget.Text.Hexadecimal
import AsmTarget.Text.Reader
import AsmTarget.Toml.Table

namespace AsmTarget.Toml.Quoted

open AsmTarget.Text

/-- Whether a character may stand for itself: no control character but the tabulator. -/
def isPlain (c : Char) : Bool :=
  c == '\t' || (32 ≤ c.toNat && c.toNat != 127)

/-- The two blanks within a line. -/
def isBlank (c : Char) : Bool :=
  c == ' ' || c == '\t'

/-- Takes blanks within a line. -/
def blanks : Reader Unit := do
  let _ ← Reader.takeWhile isBlank

/-- Takes the end of a line, with or without a carriage return, if it comes next. -/
def acceptNewLine : Reader Bool
  | '\n' :: rest => some (true, rest)
  | '\r' :: '\n' :: rest => some (true, rest)
  | text => some (false, text)

/-- The character with a code, unless the code is that of no character. -/
def character? (code : Nat) : Option Char :=
  if code < 0xD800 ∨ (0xE000 ≤ code ∧ code < 0x110000) then some (Char.ofNat code) else none

/-- Takes a character given by a fixed count of hexadecimal digits. -/
def coded (count : Nat) : Reader Char := do
  let digits ← (List.range count).mapM fun _ => Reader.next
  ((Hexadecimal.value? digits).bind character?).elim Reader.refuse pure

/-- Takes what follows the backslash of an escape. -/
def escaped : Reader Char := do
  match ← Reader.next with
  | 'b' => return '\x08'
  | 't' => return '\t'
  | 'n' => return '\n'
  | 'f' => return '\x0c'
  | 'r' => return '\r'
  | '\"' => return '\"'
  | '\\' => return '\\'
  | 'u' => coded 4
  | 'U' => coded 8
  | _ => Reader.refuse

/-! ### Strings on one line -/

/-- Takes a character of a string with escapes, or the quote that ends it. -/
def basicPiece : Reader (Option Char) := do
  let c ← Reader.next
  if c = '\"' then return none
  else if c = '\\' then return some (← escaped)
  else if isPlain c then return some c
  else Reader.refuse

/-- Takes a string with escapes. -/
def basic : Reader String := do
  Reader.expect '\"'
  return String.ofList (← Reader.repeated basicPiece)

/-- Takes a string without escapes. -/
def literal : Reader String := do
  Reader.expect '\''
  let body ← Reader.takeWhile fun c => isPlain c && c != '\''
  Reader.expect '\''
  return String.ofList body

/-! ### Strings between triple quotes -/

/-- The quotes of one kind that come next; nothing is taken. -/
def quotesAhead (quote : Char) : Reader Nat :=
  fun text => some ((text.takeWhile (· == quote)).length, text)

/-- Takes the rest of an escape that joins lines: blanks, the end of the line, and all blanks and
ends of lines after it. -/
def joined : Reader Unit := do
  blanks
  if ← acceptNewLine then
    let _ ← Reader.repeated do
      let taken ← Reader.takeWhile isBlank
      let ended ← acceptNewLine
      return if taken.isEmpty && !ended then none else some ()
  else Reader.refuse

/-- Takes a piece of a string between triple quotes, and nothing in front of three quotes. -/
def longPiece (quote : Char) (escapes : Bool) : Reader (Option (List Char)) := do
  let quotes ← quotesAhead quote
  if 3 ≤ quotes then return none
  if ← acceptNewLine then return some ['\n']
  let c ← Reader.next
  if c = '\\' ∧ escapes then
    match ← Reader.peek? with
    | some ' ' | some '\t' | some '\n' | some '\r' =>
      joined
      return some []
    | _ => return some [← escaped]
  else if isPlain c then return some [c]
  else Reader.refuse

/-- Takes a string between triple quotes. An end of line right after the first quotes does not
count, and up to two quotes may stand right before the last ones. -/
def long (quote : Char) (escapes : Bool) : Reader String := do
  Reader.expect quote
  Reader.expect quote
  Reader.expect quote
  let _ ← acceptNewLine
  let pieces ← Reader.repeated (longPiece quote escapes)
  let quotes ← Reader.takeWhile (· == quote)
  if quotes.length ≤ 5 then return String.ofList (pieces.flatten ++ quotes.drop 3)
  else Reader.refuse

/-- Takes a string with escapes between triple quotes. -/
def longBasic : Reader String :=
  long '\"' true

/-- Takes a string without escapes between triple quotes. -/
def longLiteral : Reader String :=
  long '\'' false

/-- Takes any string, its kind told by its first quotes. -/
def reader (quote : Char) : Reader String := do
  let quotes ← quotesAhead quote
  if quote = '\"' then
    if 3 ≤ quotes then longBasic else basic
  else
    if 3 ≤ quotes then longLiteral else literal

/-! ### Keys -/

/-- The characters of a key without quotes. -/
def isKeyChar (c : Char) : Bool :=
  c.isAlphanum || c == '_' || c == '-'

/-- Takes a single key. -/
def key : Reader String := do
  match ← Reader.peek? with
  | some '\"' => basic
  | some '\'' => literal
  | _ => return String.ofList (← Reader.takeSome isKeyChar)

/-- How many parts a dotted key may have. -/
def pathLimit : Nat := 79

/-- Takes a dotted key with the blanks around its parts. -/
def path : Reader Path := do
  blanks
  let first ← key
  blanks
  let others ← Reader.repeated do
    if ← Reader.accept '.' then
      blanks
      let part ← key
      blanks
      return some part
    else return none
  let parts := first :: others
  if parts.length ≤ pathLimit then
    return { parents := parts.dropLast, key := parts.getLastD first }
  else Reader.refuse

end AsmTarget.Toml.Quoted
