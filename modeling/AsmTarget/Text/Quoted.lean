/-
**Text in quotes for a reader.**

* `escape`: how a character stands between the quotes;
* `quoted`: a text in quotes, in which no character is invisible.
-/

import AsmTarget.Text.Hexadecimal
import AsmTarget.Text.Hidden

namespace AsmTarget.Text

/-- How a character stands between quotes. One that cannot be seen is told by its code. -/
def escape (c : Char) : List Char :=
  if c = '\"' then ['\\', '\"']
  else if c = '\\' then ['\\', '\\']
  else if c = '\n' then ['\\', 'n']
  else if c = '\r' then ['\\', 'r']
  else if c = '\t' then ['\\', 't']
  else if c = '\x00' then ['\\', '0']
  else if isHidden c then
    ['\\', 'u', '{'] ++ Hexadecimal.digits c.toNat ++ ['}']
  else [c]

/-- A text in quotes. -/
def quoted (text : String) : String :=
  String.ofList ('\"' :: (text.toList.flatMap escape ++ ['\"']))

end AsmTarget.Text
