/-
**JSON documents as they are written.**

A draft is the tree of a JSON document in which strings and numbers stand as they were written.
What they mean is asked later, so that a reader can pass over a value it does not need.

* `Numeral.isFinite`: whether a number is small enough for double precision;
* `Draft.read`: the draft of a text that follows the grammar of JSON;
* `Draft.text?`, `Draft.natural?`: what a string or a number means, if it means something;
* `Draft.isSound`, `Draft.depth`: whether everything in a draft means something, and how deeply
  it is nested.
-/

import AsmTarget.Text.Decimal
import AsmTarget.Text.Hexadecimal
import AsmTarget.Text.Magnitude
import AsmTarget.Text.Reader

namespace AsmTarget.Json

open AsmTarget.Text

/-- A number as it is written: its sign, its digits before and after the point, and its exponent
with its own sign. -/
structure Numeral where
  negative : Bool
  whole : List Char
  fraction : Option (List Char)
  exponent : Option (Bool × List Char)
  deriving DecidableEq, Repr

/-! ### The size of numbers -/

namespace Numeral

/-- The number made of a leading part and of further digits, as many as leave it within 64 bits,
and how many those are. -/
def withDigits (leading : Nat) : List Char → Nat × Nat
  | [] => (leading, 0)
  | d :: ds =>
    let longer := Decimal.valueFrom leading [d]
    if longer < 2 ^ 64 then
      let (total, count) := withDigits longer ds
      (total, count + 1)
    else (leading, 0)

/-- The exponent of a number as it is written, zero if there is none. -/
def power (numeral : Numeral) : Int :=
  match numeral.exponent with
  | some (negative, digits) =>
    if negative then -(Decimal.value digits : Int) else Decimal.value digits
  | none => 0

/-- Whether a number is small enough for double precision. The digits that 64 bits have room for
count as one factor and the power of ten that they leave as another, each of them rounded. -/
def isFinite (numeral : Numeral) : Bool :=
  let (whole, taken) := withDigits 0 numeral.whole
  let (mantissa, places) := withDigits whole (numeral.fraction.getD [])
  !productExceedsDouble mantissa (numeral.whole.length - taken - places + numeral.power)

end Numeral

/-! ### Documents -/

/-- A document as it is written. The body of a string is what stands between its quotes. -/
inductive Draft where
  | null
  | boolean (value : Bool)
  | number (numeral : Numeral)
  | string (body : List Char)
  | array (items : List Draft)
  | object (members : List (List Char × Draft))
  deriving Repr

namespace Draft

/-! ### The grammar -/

/-- The four blank characters of JSON. -/
def isBlank (c : Char) : Bool :=
  c == ' ' || c == '\n' || c == '\t' || c == '\r'

/-- Takes blanks. -/
def blanks : Reader Unit := do
  let _ ← Reader.takeWhile isBlank

/-- Takes one piece of the body of a string, an escape or a plain character, and nothing at the
quote that ends it. -/
def piece : Reader (Option (List Char)) := do
  let c ← Reader.next
  if c = '\"' then return none
  else if c.toNat < 32 then Reader.refuse
  else if c = '\\' then
    let mark ← Reader.next
    if mark = 'u' then
      let a ← Reader.next
      let b ← Reader.next
      let c ← Reader.next
      let d ← Reader.next
      if (Hexadecimal.value? [a, b, c, d]).isSome then return some ['\\', 'u', a, b, c, d]
      else Reader.refuse
    else if mark ∈ ['\"', '\\', '/', 'b', 'f', 'n', 'r', 't'] then return some ['\\', mark]
    else Reader.refuse
  else return some [c]

/-- Takes the body of a string and the quote after it. -/
def stringBody : Reader (List Char) := do
  return (← Reader.repeated piece).flatten

/-- Takes digits of which the first is zero only when it is the last. -/
def wholePart : Reader (List Char) := do
  let digits ← Reader.takeSome Char.isDigit
  if digits.head? = some '0' ∧ digits.length ≠ 1 then Reader.refuse else return digits

/-- Takes the exponent of a number, if there is one. -/
def exponentPart : Reader (Option (Bool × List Char)) := do
  match ← Reader.peek? with
  | some 'e' | some 'E' =>
    let _ ← Reader.next
    let negative ← Reader.accept '-'
    if !negative then
      let _ ← Reader.accept '+'
    return some (negative, ← Reader.takeSome Char.isDigit)
  | _ => return none

/-- Takes a number. -/
def numeral : Reader Numeral := do
  let negative ← Reader.accept '-'
  let whole ← wholePart
  let fraction ←
    if ← Reader.accept '.' then some <$> Reader.takeSome Char.isDigit else pure none
  return { negative, whole, fraction, exponent := ← exponentPart }

/-- Takes a value nested within a limit. -/
def valueWithin : Nat → Reader Draft
  | 0 => Reader.refuse
  | limit + 1 => do
    match ← Reader.peek? with
    | some 'n' =>
      Reader.spell "null"
      return .null
    | some 't' =>
      Reader.spell "true"
      return .boolean true
    | some 'f' =>
      Reader.spell "false"
      return .boolean false
    | some '\"' =>
      Reader.expect '\"'
      return .string (← stringBody)
    | some '[' =>
      Reader.expect '['
      return .array (← Reader.separated (valueWithin limit) blanks ']' false)
    | some '{' =>
      Reader.expect '{'
      return .object (← Reader.separated (member (valueWithin limit)) blanks '}' false)
    | _ => return .number (← numeral)
where
  /-- Takes a key, a colon and a value. -/
  member (value : Reader Draft) : Reader (List Char × Draft) := do
    Reader.expect '\"'
    let key ← stringBody
    blanks
    Reader.expect ':'
    blanks
    return (key, ← value)

/-- The draft of a text, with blanks allowed around it. -/
def read (text : String) : Option Draft :=
  let characters := text.toList
  Reader.whole
    (do
      blanks
      let draft ← valueWithin (characters.length + 1)
      blanks
      return draft)
    characters

/-! ### What strings and numbers mean -/

/-- The character of a code unit outside the surrogates, or of a pair of surrogates. -/
def paired? (high low : Nat) : Option Char :=
  if 0xD800 ≤ high ∧ high < 0xDC00 ∧ 0xDC00 ≤ low ∧ low < 0xE000 then
    some (Char.ofNat (0x10000 + (high - 0xD800) * 0x400 + (low - 0xDC00)))
  else none

/-- The characters that the body of a string stands for; a surrogate that is not part of a pair
stands for nothing. -/
def unescaped : List Char → Option (List Char)
  | '\\' :: 'u' :: a :: b :: c :: d :: rest =>
    match Hexadecimal.value? [a, b, c, d] with
    | none => none
    | some unit =>
      if 0xD800 ≤ unit ∧ unit < 0xE000 then
        match rest with
        | '\\' :: 'u' :: a' :: b' :: c' :: d' :: rest' => do
          let low ← Hexadecimal.value? [a', b', c', d']
          let character ← paired? unit low
          return character :: (← unescaped rest')
        | _ => none
      else (unescaped rest).map (Char.ofNat unit :: ·)
  | '\\' :: mark :: rest =>
    let character := match mark with
      | 'b' => '\x08'
      | 'f' => '\x0c'
      | 'n' => '\n'
      | 'r' => '\r'
      | 't' => '\t'
      | other => other
    (unescaped rest).map (character :: ·)
  | c :: rest => (unescaped rest).map (c :: ·)
  | [] => some []

/-- The string that a body stands for. -/
def meaning? (body : List Char) : Option String :=
  (unescaped body).map String.ofList

/-- The string that a draft is. -/
def text? : Draft → Option String
  | string body => meaning? body
  | _ => none

/-- The natural number that a draft is, up to a largest one. A sign, a fraction or an exponent
makes a number something else. -/
def natural? (largest : Nat) : Draft → Option Nat
  | number ⟨false, whole, none, none⟩ =>
    let value := Decimal.value whole
    if value ≤ largest then some value else none
  | _ => none

mutual

/-- Whether every string and every number of a draft means something. -/
def isSound : Draft → Bool
  | null | boolean _ => true
  | number numeral => numeral.isFinite
  | string body => (unescaped body).isSome
  | array items => itemsSound items
  | object members => membersSound members

/-- Whether every item means something. -/
def itemsSound : List Draft → Bool
  | [] => true
  | item :: items => isSound item && itemsSound items

/-- Whether every key and every value of members means something. -/
def membersSound : List (List Char × Draft) → Bool
  | [] => true
  | (key, value) :: members =>
    (unescaped key).isSome && isSound value && membersSound members

end

mutual

/-- How many arrays and objects stand around the innermost value. -/
def depth : Draft → Nat
  | array items => itemsDepth items + 1
  | object members => membersDepth members + 1
  | _ => 0

/-- The depth of the deepest item. -/
def itemsDepth : List Draft → Nat
  | [] => 0
  | item :: items => max (depth item) (itemsDepth items)

/-- The depth of the deepest member. -/
def membersDepth : List (List Char × Draft) → Nat
  | [] => 0
  | (_, value) :: members => max (depth value) (membersDepth members)

end

end Draft

end AsmTarget.Json
