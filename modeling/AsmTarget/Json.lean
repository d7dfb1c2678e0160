/-
**JSON values and their text.**

* `Json`: a JSON value whose numbers are integers and whose members keep their order;
* `Json.escape`: how a character stands in a string;
* `Json.compact`: the text without any blank;
* `Json.pretty`: the text with one item a line and two blanks for each level.
-/

import AsmTarget.Text.Decimal
import AsmTarget.Text.Hexadecimal

namespace AsmTarget

/-- A JSON value. -/
inductive Json where
  | null
  | boolean (value : Bool)
  | integer (value : Int)
  | string (value : String)
  | array (items : List Json)
  | object (members : List (String × Json))
  deriving Repr, Inhabited

namespace Json

/-- A string, or `null` when there is none. -/
def ofString? : Option String → Json
  | some value => .string value
  | none => .null

/-! ### Strings -/

/-- How a character stands in a string: quotes, backslashes and the control characters below the
blank are escaped, everything else stands for itself. -/
def escape (c : Char) : List Char :=
  if c = '\"' then ['\\', '\"']
  else if c = '\\' then ['\\', '\\']
  else if c = '\x08' then ['\\', 'b']
  else if c = '\x0c' then ['\\', 'f']
  else if c = '\n' then ['\\', 'n']
  else if c = '\r' then ['\\', 'r']
  else if c = '\t' then ['\\', 't']
  else if c.toNat < 32 then
    ['\\', 'u', '0', '0', Text.Hexadecimal.digit (c.toNat / 16),
      Text.Hexadecimal.digit (c.toNat % 16)]
  else [c]

/-- A string in quotes. -/
def quoted (text : String) : List Char :=
  '\"' :: (text.toList.flatMap escape ++ ['\"'])

/-- The text of a boolean value. -/
def booleanText (value : Bool) : List Char :=
  (if value then "true" else "false").toList

/-! ### Text without blanks -/

mutual

/-- The characters of a value, without any blank. -/
def compactChars : Json → List Char
  | .null => "null".toList
  | .boolean value => booleanText value
  | .integer value => (Text.Decimal.integer value).toList
  | .string value => quoted value
  | .array items => '[' :: (compactItems items ++ [']'])
  | .object members => '{' :: (compactMembers members ++ ['}'])

/-- Items with commas between them. -/
def compactItems : List Json → List Char
  | [] => []
  | [item] => compactChars item
  | item :: items => compactChars item ++ ',' :: compactItems items

/-- Members with commas between them. -/
def compactMembers : List (String × Json) → List Char
  | [] => []
  | [(key, value)] => quoted key ++ ':' :: compactChars value
  | (key, value) :: members =>
    quoted key ++ ':' :: (compactChars value ++ ',' :: compactMembers members)

end

/-- The text of a value, without any blank. -/
def compact (value : Json) : String :=
  String.ofList value.compactChars

/-! ### Text on several lines -/

/-- A new line that starts with two blanks for each level. -/
def newLine (level : Nat) : List Char :=
  '\n' :: List.replicate (2 * level) ' '

mutual

/-- The characters of a value that stands at a level. -/
def prettyChars (level : Nat) : Json → List Char
  | .array (item :: items) =>
    '[' :: (prettyItems (level + 1) (item :: items) ++ newLine level ++ [']'])
  | .object (member :: members) =>
    '{' :: (prettyMembers (level + 1) (member :: members) ++ newLine level ++ ['}'])
  | .array [] => ['[', ']']
  | .object [] => ['{', '}']
  | .null => "null".toList
  | .boolean value => booleanText value
  | .integer value => (Text.Decimal.integer value).toList
  | .string value => quoted value

/-- Items, each on a line of its own. -/
def prettyItems (level : Nat) : List Json → List Char
  | [] => []
  | [item] => newLine level ++ prettyChars level item
  | item :: items => newLine level ++ prettyChars level item ++ ',' :: prettyItems level items

/-- Members, each on a line of its own. -/
def prettyMembers (level : Nat) : List (String × Json) → List Char
  | [] => []
  | [(key, value)] => newLine level ++ quoted key ++ ": ".toList ++ prettyChars level value
  | (key, value) :: members =>
    newLine level ++ quoted key ++ ": ".toList ++ prettyChars level value ++
      ',' :: prettyMembers level members

end

/-- The text of a value, with one item a line. -/
def pretty (value : Json) : String :=
  String.ofList (value.prettyChars 0)

end Json

end AsmTarget
