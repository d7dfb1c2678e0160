/-
**Decimal numbers too large for double precision.**

* `exceedsDouble`: whether a decimal number rounds to infinity among the 64-bit floating-point
  numbers, which it does from halfway between the largest of them and the next power of two on;
* `roundedToDouble`: the 64-bit floating-point number nearest to a natural number;
* `productExceedsDouble`: the same question as the first one for a number that is put together by a
  multiplication, of which both factors are rounded first.
-/

namespace AsmTarget.Text

/-- The least number that rounds to infinity. -/
def doubleBound : Nat := Nat.pow 2 1024 - Nat.pow 2 970

/-- Whether `mantissa · 10 ^ exponent` rounds to infinity. The number of digits settles all cases
but those near the bound, which has 309 digits. -/
def exceedsDouble (mantissa : Nat) (exponent : Int) : Bool :=
  if mantissa = 0 then false
  else
    let size : Int := (Nat.toDigits 10 mantissa).length + exponent
    if size > 309 then true
    else if size < 309 then false
    else if 0 ≤ exponent then decide (doubleBound ≤ mantissa * Nat.pow 10 exponent.toNat)
    else decide (doubleBound * Nat.pow 10 (-exponent).toNat ≤ mantissa)

/-! ### Rounded factors -/

/-- The quotient rounded to the nearest natural number, and to an even one when two are as near. -/
def roundedQuotient (dividend divisor : Nat) : Nat :=
  let quotient := dividend / divisor
  let twice := 2 * (dividend % divisor)
  if divisor < twice ∨ (twice = divisor ∧ quotient % 2 = 1) then quotient + 1 else quotient

/-- The nearest number with at most 53 binary digits before its trailing zeros. -/
def roundedToDouble (n : Nat) : Nat :=
  let unit := Nat.pow 2 (n.log2 - 52)
  roundedQuotient n unit * unit

/-- Whether the product of `mantissa` and `10 ^ exponent` rounds to infinity when both factors are
rounded before. A power of ten that is itself too large makes any product too large but that with
zero. -/
def productExceedsDouble (mantissa : Nat) (exponent : Int) : Bool :=
  if mantissa = 0 ∨ exponent ≤ 0 then false
  else if 308 < exponent then true
  else decide (doubleBound ≤ roundedToDouble mantissa * roundedToDouble (Nat.pow 10 exponent.toNat))

end AsmTarget.Text
