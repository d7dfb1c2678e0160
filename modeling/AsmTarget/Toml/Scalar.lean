/-
**Numbers, dates and words of TOML.**

A scalar without quotes is a run of letters, digits and a few marks. The run as a whole is a
number, a date, a time or one of a few words, or it is nothing.

* `Scalar.grouped?`: digits with single underscores between them;
* `Scalar.integer?`, `Scalar.isFloat`, `Scalar.isDateTime`: what a run may be;
* `Scalar.ofRun?`: the value of a run; `Scalar.reader`: the reader of a scalar.
-/

import AsmTarget.Text.Magnitude
import AsmTarget.Text.Reader
import AsmTarget.Toml

namespace AsmTarget.Toml.Scalar

open AsmTarget.Text

/-- The characters of a run. -/
def isRunChar (c : Char) : Bool :=
  c.isAlphanum || c == '+' || c == '-' || c == '_' || c == '.' || c == ':'

/-! ### Numbers -/

/-- The digits of a text in which single underscores may stand between digits. -/
def grouped? (isDigit : Char → Bool) : List Char → Option (List Char)
  | [] => none
  | [c] => if isDigit c then some [c] else none
  | c :: '_' :: rest => if isDigit c then (grouped? isDigit rest).map (c :: ·) else none
  | c :: rest => if isDigit c then (grouped? isDigit rest).map (c :: ·) else none

/-- A text without its sign, and whether the sign is negative. -/
def unsigned : List Char → Bool × List Char
  | '-' :: rest => (true, rest)
  | '+' :: rest => (false, rest)
  | text => (false, text)

/-- The digits of a decimal number, of which the first is zero only when it is the last. -/
def decimal? (text : List Char) : Option (List Char) :=
  if text.head? = some '0' ∧ text ≠ ['0'] then none else grouped? Char.isDigit text

/-- The value of digits in a base up to sixteen, the letters of either case. -/
def valueIn (base : Nat) (digits : List Char) : Nat :=
  digits.foldl (fun total d => total * base + (Hexadecimal.digitValue? d).getD 0) 0

/-- Whether a character is a digit in a base up to sixteen. -/
def isDigitIn (base : Nat) (c : Char) : Bool :=
  match Hexadecimal.digitValue? c with
  | some value => value < base
  | none => false

/-- The integer that a run is, when it has 64 bits. -/
def integer? (run : List Char) : Option Int := do
  let value : Int ← match run with
    | '0' :: 'x' :: rest => (grouped? (isDigitIn 16) rest).map fun ds => (valueIn 16 ds : Int)
    | '0' :: 'o' :: rest => (grouped? (isDigitIn 8) rest).map fun ds => (valueIn 8 ds : Int)
    | '0' :: 'b' :: rest => (grouped? (isDigitIn 2) rest).map fun ds => (valueIn 2 ds : Int)
    | _ =>
      let (negative, rest) := unsigned run
      (decimal? rest).map fun ds =>
        if negative then -(Decimal.value ds : Int) else Decimal.value ds
  if Int64.minValue.toInt ≤ value ∧ value ≤ Int64.maxValue.toInt then return value else none

/-- The exponent of a floating-point number, which is absent from an empty text. -/
def exponent? : List Char → Option Int
  | [] => some 0
  | mark :: rest =>
    if mark = 'e' ∨ mark = 'E' then
      let (negative, digits) := unsigned rest
      (grouped? Char.isDigit digits).map fun ds =>
        if negative then -(Decimal.value ds : Int) else Decimal.value ds
    else none

/-- Whether a character belongs to the digits before or after a point. -/
def isGroupChar (c : Char) : Bool :=
  c.isDigit || c == '_'

/-- Whether a run is a floating-point number. A number written with digits must not round to
positive infinity. -/
def isFloat (run : List Char) : Bool :=
  let (negative, text) := unsigned run
  if text = "inf".toList ∨ text = "nan".toList then true
  else
    match decimal? (text.takeWhile isGroupChar), text.dropWhile isGroupChar with
    | some whole, '.' :: rest =>
      match grouped? Char.isDigit (rest.takeWhile isGroupChar),
        exponent? (rest.dropWhile isGroupChar) with
      | some fraction, some exponent =>
        negative || !exceedsDouble (Decimal.value (whole ++ fraction)) (exponent - fraction.length)
      | _, _ => false
    | some whole, mark :: rest =>
      match exponent? (mark :: rest) with
      | some exponent => negative || !exceedsDouble (Decimal.value whole) exponent
      | none => false
    | _, _ => false

/-! ### Dates and times -/

/-- Takes a number with a fixed count of digits that lies between two bounds. -/
def number (count low high : Nat) : Reader Nat := do
  let digits ← (List.range count).mapM fun _ => Reader.next
  let value := Decimal.value digits
  if digits.all Char.isDigit && low ≤ value && value ≤ high then return value else Reader.refuse

/-- The number of days of a month in a year. -/
def daysIn (year month : Nat) : Nat :=
  if month = 2 then
    if year % 4 = 0 ∧ (year % 100 ≠ 0 ∨ year % 400 = 0) then 29 else 28
  else if month ∈ [4, 6, 9, 11] then 30
  else 31

/-- Takes a date. -/
def date : Reader Unit := do
  let year ← number 4 0 9999
  Reader.expect '-'
  let month ← number 2 1 12
  Reader.expect '-'
  let _ ← number 2 1 (daysIn year month)

/-- Takes a time with seconds, which may have a fraction. -/
def time : Reader Unit := do
  let _ ← number 2 0 23
  Reader.expect ':'
  let _ ← number 2 0 59
  Reader.expect ':'
  let _ ← number 2 0 60
  if ← Reader.accept '.' then
    let _ ← Reader.takeSome Char.isDigit

/-- Takes the distance from universal time, if there is one. -/
def offset : Reader Unit := do
  match ← Reader.peek? with
  | some 'Z' | some 'z' =>
    let _ ← Reader.next
  | some '+' | some '-' =>
    let _ ← Reader.next
    let _ ← number 2 0 23
    Reader.expect ':'
    let _ ← number 2 0 59
  | _ => return ()

/-- Takes a date and a time with a mark between them. -/
def dateAndTime : Reader Unit := do
  date
  let mark ← Reader.next
  if mark = 'T' ∨ mark = 't' ∨ mark = ' ' then
    time
    offset
  else Reader.refuse

/-- Whether a run is a date. -/
def isDate (run : List Char) : Bool :=
  (Reader.whole date run).isSome

/-- Whether a run is a date, a time, or both. -/
def isDateTime (run : List Char) : Bool :=
  isDate run || (Reader.whole time run).isSome || (Reader.whole dateAndTime run).isSome

/-! ### All scalars -/

/-- The value of a run. -/
def ofRun? (run : List Char) : Option Toml :=
  if run = "true".toList then some (.boolean true)
  else if run = "false".toList then some (.boolean false)
  else if isDateTime run then some (.dateTime (String.ofList run))
  else if isFloat run then some (.float (String.ofList run))
  else (integer? run).map .integer

/-- Takes a scalar without quotes. A date may be followed by a time after a single blank. -/
def reader : Reader Toml := do
  let run ← Reader.takeWhile isRunChar
  let text ← get
  let more := match text with
    | ' ' :: rest => rest.takeWhile isRunChar
    | _ => []
  if isDate run && !more.isEmpty then
    set (text.drop (more.length + 1))
    (ofRun? (run ++ ' ' :: more)).elim Reader.refuse pure
  else (ofRun? run).elim Reader.refuse pure

end AsmTarget.Toml.Scalar
