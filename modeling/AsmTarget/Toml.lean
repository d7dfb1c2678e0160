/-
**TOML values and lines.**

* `Toml`: a TOML value; floating-point numbers and dates stay as they are written;
* `Toml.basicString`: a string in quotes on one line;
* `Toml.line`: a key with its value.
-/

import AsmTarget.Text.Decimal
import AsmTarget.Text.Hexadecimal

namespace AsmTarget

/-- A TOML value. The entries of a table keep their order. -/
inductive Toml where
  | string (value : String)
  | integer (value : Int)
  | float (written : String)
  | boolean (value : Bool)
  | dateTime (written : String)
  | array (items : List Toml)
  | table (entries : List (String × Toml))
  deriving Repr

namespace Toml

/-- How a character stands in a string on one line. -/
def escape (c : Char) : List Char :=
  if c = '\"' then ['\\', '\"']
  else if c = '\\' then ['\\', '\\']
  else if c = '\x08' then ['\\', 'b']
  else if c = '\t' then ['\\', 't']
  else if c = '\n' then ['\\', 'n']
  else if c = '\x0c' then ['\\', 'f']
  else if c = '\r' then ['\\', 'r']
  else if c.toNat < 32 ∨ c.toNat = 127 then
    ['\\', 'u', '0', '0', Text.Hexadecimal.capital (c.toNat / 16),
      Text.Hexadecimal.capital (c.toNat % 16)]
  else [c]

/-- A string in quotes on one line. -/
def basicString (text : String) : String :=
  String.ofList ('\"' :: (text.toList.flatMap escape ++ ['\"']))

/-- The text of a boolean value. -/
def booleanText (value : Bool) : String :=
  if value then "true" else "false"

/-- A key with its value. -/
def line (key value : String) : String :=
  key ++ " = " ++ value

/-- A key with a string. -/
def stringLine (key value : String) : String :=
  line key (basicString value)

/-- A key with a string, when there is one. -/
def stringLine? (key : String) (value : Option String) : List String :=
  value.toList.map (stringLine key)

/-- A key with a natural number. -/
def naturalLine (key : String) (value : Nat) : String :=
  line key (Text.Decimal.natural value)

/-- A key with a boolean value. -/
def booleanLine (key : String) (value : Bool) : String :=
  line key (booleanText value)

/-- The line above the entries of a table. -/
def headerLine (key : String) : String :=
  "[" ++ key ++ "]"

end Toml

end AsmTarget
