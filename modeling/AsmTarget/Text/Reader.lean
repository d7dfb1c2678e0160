/-
**Readers of text.**

A reader takes characters from the front of a text and answers with a value, or refuses the text.

* `next`, `expect`, `spell`, `takeWhile`: readers of characters;
* `peek?`: what comes next, with nothing taken;
* `repeated`: a reader used until it has nothing more to add;
* `separated`: items with commas between them, up to a closing mark;
* `whole`: a reader that has to take the whole of a text.
-/

namespace AsmTarget.Text

/-- Takes a part of a text, or refuses it. -/
abbrev Reader (Value : Type) := StateT (List Char) Option Value

namespace Reader

variable {Value : Type}

/-- Refuses every text. -/
def refuse : Reader Value :=
  fun _ => none

/-- The next character, which is not taken. -/
def peek? : Reader (Option Char) :=
  fun text => some (text.head?, text)

/-- Takes the next character. -/
def next : Reader Char
  | [] => none
  | c :: rest => some (c, rest)

/-- Takes one given character. -/
def expect (mark : Char) : Reader Unit
  | [] => none
  | c :: rest => if c = mark then some ((), rest) else none

/-- Takes one given character when it comes next, and says whether it did. -/
def accept (mark : Char) : Reader Bool
  | [] => some (false, [])
  | c :: rest => if c = mark then some (true, rest) else some (false, c :: rest)

/-- Takes a given word. -/
def spell (word : String) : Reader Unit :=
  word.toList.forM expect

/-- Takes the characters that satisfy a test, up to the first one that does not. -/
def takeWhile (test : Char → Bool) : Reader (List Char) :=
  fun text => some (text.takeWhile test, text.dropWhile test)

/-- Takes characters that satisfy a test, at least one. -/
def takeSome (test : Char → Bool) : Reader (List Char) := do
  let taken ← takeWhile test
  if taken.isEmpty then refuse else return taken

/-- A reader used again and again until it has no more to add, a limited number of times. -/
def repeatedWithin (step : Reader (Option Value)) : Nat → Reader (List Value)
  | 0 => refuse
  | limit + 1 => do
    match ← step with
    | none => return []
    | some value => return value :: (← repeatedWithin step limit)

/-- A reader used again and again until it has no more to add. Every use but the last has to take
a character, so that the length of the text is limit enough. -/
def repeated (step : Reader (Option Value)) : Reader (List Value) :=
  fun text => repeatedWithin step (text.length + 1) text

/-- The items of a list after its opening mark, up to its closing mark. Gaps are allowed around
items; a comma after the last item is allowed when `trailing` says so. -/
def separated (item : Reader Value) (gap : Reader Unit) (close : Char) (trailing : Bool) :
    Reader (List Value) := do
  gap
  if ← accept close then return []
  let first ← item
  let others ← repeated do
    gap
    if ← accept close then return none
    expect ','
    gap
    if trailing then
      if ← accept close then return none
    return some (← item)
  return first :: others

/-- The value of a text that a reader takes as a whole. -/
def whole (reader : Reader Value) (text : List Char) : Option Value :=
  match reader text with
  | some (value, []) => some value
  | _ => none

end Reader

end AsmTarget.Text
