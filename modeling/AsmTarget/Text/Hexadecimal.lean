/-
**Hexadecimal text.**

* `digit` and `capital`: the digits, with small and with capital letters;
* `number`: a natural number with as many small digits as it needs;
* `octet` and `octets`: bytes with two small digits each;
* `digitValue?` and `value?`: the value of a digit of either case, and of several;
* `value?_digits`: reading the digits of a number gives the number back.
-/

namespace AsmTarget.Text.Hexadecimal

/-- The digit for a value below sixteen, with small letters. -/
def digit (n : Nat) : Char :=
  if n < 10 then Char.ofNat (48 + n) else Char.ofNat (87 + n)

/-- The digit for a value below sixteen, with capital letters. -/
def capital (n : Nat) : Char :=
  if n < 10 then Char.ofNat (48 + n) else Char.ofNat (55 + n)

/-- The digits of a number, most significant first. -/
def digits (n : Nat) : List Char :=
  if n < 16 then [digit n] else digits (n / 16) ++ [digit (n % 16)]
termination_by n
decreasing_by omega

/-- The text of a number, without leading zeros. -/
def number (n : Nat) : String :=
  String.ofList (digits n)

/-- The two digits of a byte. -/
def octet (b : UInt8) : List Char :=
  [digit (b.toNat / 16), digit (b.toNat % 16)]

/-- The text of bytes, two digits for each. -/
def octets (bytes : List UInt8) : String :=
  String.ofList (bytes.flatMap octet)

/-- The value of a digit of either case. -/
def digitValue? (c : Char) : Option Nat :=
  if '0' ≤ c ∧ c ≤ '9' then some (c.toNat - 48)
  else if 'a' ≤ c ∧ c ≤ 'f' then some (c.toNat - 87)
  else if 'A' ≤ c ∧ c ≤ 'F' then some (c.toNat - 55)
  else none

/-- The number that digits stand for, unless one of them is no digit. -/
def value? (ds : List Char) : Option Nat :=
  ds.foldlM (fun total d => (digitValue? d).map (total * 16 + ·)) 0

/-- A digit reads back as the value it was made for. -/
theorem digitValue?_digit (n : Nat) (small : n < 16) : digitValue? (digit n) = some n := by
  revert n
  decide

theorem digitValue?_capital (n : Nat) (small : n < 16) : digitValue? (capital n) = some n := by
  revert n
  decide

/-- A byte reads back from its two digits, with two zeros in front. -/
theorem value?_octet {n : Nat} {high low : Char} (highValue : digitValue? high = some (n / 16))
    (lowValue : digitValue? low = some (n % 16)) : value? ['0', '0', high, low] = some n := by
  have zero : digitValue? '0' = some 0 := by decide
  simp only [value?, List.foldlM_cons, List.foldlM_nil, zero, highValue, lowValue, Option.map_some,
    Option.bind_eq_bind, Option.bind_some, Option.pure_def, Option.some.injEq]
  omega

/-- One more digit multiplies what stands before it by sixteen. -/
theorem value?_append_digit {ds : List Char} {leading n : Nat} (before : value? ds = some leading)
    (small : n < 16) : value? (ds ++ [digit n]) = some (leading * 16 + n) := by
  rw [value?] at before
  rw [value?, List.foldlM_append, before]
  simp [digitValue?_digit n small]

theorem value?_digits (n : Nat) : value? (digits n) = some n := by
  fun_induction digits n with
  | case1 n small => simpa using value?_append_digit (rfl : value? [] = some 0) small
  | case2 n _ leading =>
    rw [value?_append_digit leading (Nat.mod_lt n (by omega)), Option.some.injEq]
    omega

/-- The digits of a number are digits. -/
theorem exists_of_mem_digits {n : Nat} {c : Char} (member : c ∈ digits n) :
    ∃ value < 16, c = digit value := by
  fun_induction digits n with
  | case1 n small => exact ⟨n, small, List.mem_singleton.mp member⟩
  | case2 n _ leading =>
    rcases List.mem_append.mp member with before | last
    · exact leading before
    · exact ⟨n % 16, Nat.mod_lt n (by omega), List.mem_singleton.mp last⟩

end AsmTarget.Text.Hexadecimal
