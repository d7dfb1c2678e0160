/-
**Decimal numbers.**

* `digits`: the digits of a natural number, most significant first, without leading zeros;
* `value`: the number that a list of digits stands for;
* `natural` and `integer`: the texts of numbers, a negative one with `-` in front;
* `digits_ne_nil`, `isDigit_of_mem_digits`: a number has digits and nothing else;
* `value_digits`: reading the digits of a number gives the number back.
-/

namespace AsmTarget.Text.Decimal

/-- The digit for a value below ten. -/
def digit (n : Nat) : Char :=
  Char.ofNat (48 + n)

/-- The digits of a number, most significant first. -/
def digits (n : Nat) : List Char :=
  if n < 10 then [digit n] else digits (n / 10) ++ [digit (n % 10)]
termination_by n
decreasing_by omega

/-- The number that digits stand for, added after a leading part. -/
def valueFrom (leading : Nat) (ds : List Char) : Nat :=
  ds.foldl (fun total d => total * 10 + (d.toNat - 48)) leading

/-- The number that digits stand for. -/
def value (ds : List Char) : Nat :=
  valueFrom 0 ds

/-- The text of a natural number. -/
def natural (n : Nat) : String :=
  String.ofList (digits n)

/-- The text of an integer, with a sign only when it is negative. -/
def integer (n : Int) : String :=
  if n < 0 then "-" ++ natural n.natAbs else natural n.natAbs

/-- The value of a digit is the number it was made for. -/
theorem digit_toNat (n : Nat) (small : n < 10) : (digit n).toNat - 48 = n := by
  revert n
  decide

/-- One more digit multiplies what stands before it by ten. -/
theorem value_append_digit (ds : List Char) (n : Nat) (small : n < 10) :
    value (ds ++ [digit n]) = value ds * 10 + n := by
  simp [value, valueFrom, List.foldl_append, digit_toNat n small]

theorem value_digits (n : Nat) : value (digits n) = n := by
  fun_induction digits n with
  | case1 n small => simpa [value, valueFrom] using value_append_digit [] n small
  | case2 n _ leading => rw [value_append_digit _ _ (Nat.mod_lt n (by omega)), leading]; omega

theorem digits_ne_nil (n : Nat) : digits n ≠ [] := by
  fun_induction digits n with
  | case1 => exact List.cons_ne_nil _ _
  | case2 => exact List.append_ne_nil_of_right_ne_nil _ (List.cons_ne_nil _ _)

theorem digit_isDigit (n : Nat) (small : n < 10) : (digit n).isDigit = true := by
  revert n
  decide

theorem isDigit_of_mem_digits {n : Nat} {d : Char} (member : d ∈ digits n) : d.isDigit = true := by
  fun_induction digits n with
  | case1 n small =>
    rw [List.mem_singleton.mp member]
    exact digit_isDigit n small
  | case2 n _ leading =>
    rcases List.mem_append.mp member with before | last
    · exact leading before
    · rw [List.mem_singleton.mp last]
      exact digit_isDigit _ (Nat.mod_lt n (by omega))

end AsmTarget.Text.Decimal
