/-
**The text of an expression says what the expression is.**

The text of an expression has one tree in the grammar, and the tree is the expression itself, but
for negative addends: an addend with a minus of its own is read as a number taken away. Nothing
else is lost, and the value is the same.

* `Expr.asRead`: the tree that a reader of the text finds;
* `Expr.exactValue`: the value of an expression without a range;
* `Expr.text_asRead`: an expression and the tree have the same text;
* `Expr.text_faithful`: **one tree for each text, one text for each tree, and the same value**.
-/

import AsmTarget.Proofs.Expr.Reading

namespace AsmTarget.Expr

open Formula (Written)

/-- The expression as a reader of its text finds it. A negative addend is a number taken away. -/
def asRead : Expr → Formula
  | .constant value => .number value.toInt
  | .reference symbol kind => .reference symbol kind
  | .binary .add left (.constant value) =>
    if value < 0 then .binary .subtract left.asRead (.number (-value.toInt))
    else .binary .add left.asRead (.number value.toInt)
  | .binary operator left right => .binary operator left.asRead right.asRead

/-- The value of an expression on integers without bounds, under values for its references. -/
def exactValue (assigned : Symbol → ReferenceKind → Int) : Expr → Int
  | .constant value => value.toInt
  | .reference symbol kind => assigned symbol kind
  | .binary operator left right =>
    operator.apply (left.exactValue assigned) (right.exactValue assigned)

/-! ### What stays the same -/

theorem symbols_asRead (e : Expr) : e.asRead.symbols = e.symbols := by
  fun_induction asRead e with
  | case1 value => rfl
  | case2 symbol kind => rfl
  | case3 left value negative same => rw [Formula.symbols, symbols, same]; rfl
  | case4 left value positive same => rw [Formula.symbols, symbols, same]; rfl
  | case5 operator left right other first second =>
    rw [Formula.symbols, symbols, first, second]

theorem value_asRead (assigned : Symbol → ReferenceKind → Int) (e : Expr) :
    e.asRead.value assigned = e.exactValue assigned := by
  fun_induction asRead e with
  | case1 value => rfl
  | case2 symbol kind => rfl
  | case3 left value negative same =>
    rw [Formula.value, exactValue, same]
    exact Int.sub_neg (left.exactValue assigned) value.toInt
  | case4 left value positive same => rw [Formula.value, exactValue, same]; rfl
  | case5 operator left right other first second =>
    rw [Formula.value, exactValue, first, second]

/-- The text of a negative number is a minus and the number without it. -/
theorem integer_of_neg {value : Int} (negative : value < 0) :
    Text.Decimal.integer value = "-" ++ Text.Decimal.integer (-value) := by
  rw [Text.Decimal.integer, if_pos negative, Text.Decimal.integer, if_neg (by omega),
    Int.natAbs_neg]

/-- An operation is read as an operation. -/
theorem asRead_binary (operator : Operator) (left right : Expr) :
    ∃ read first second, (binary operator left right).asRead = .binary read first second := by
  by_cases addend : ∃ value, operator = .add ∧ right = .constant value
  · obtain ⟨value, rfl, rfl⟩ := addend
    rw [asRead]
    split
    · exact ⟨_, _, _, rfl⟩
    · exact ⟨_, _, _, rfl⟩
  · rw [asRead]
    · exact ⟨_, _, _, rfl⟩
    · exact fun value plus constant => addend ⟨value, plus, constant⟩

/-- An operand that is no constant addend is written with its sign, and in parentheses when it is
read as a sum. -/
theorem operand_eq_enclosed {operator : Operator} {right : Expr}
    (other : ∀ value, operator = .add → right = .constant value → False) (written : String) :
    operand operator right written = operator.sign ++ right.asRead.enclosed written := by
  cases right with
  | constant value =>
    cases operator with
    | add => exact (other value rfl rfl).elim
    | subtract => rfl
  | reference symbol kind => cases operator <;> rfl
  | binary inner left right =>
    obtain ⟨read, first, second, sum⟩ := asRead_binary inner left right
    rw [sum, Formula.enclosed]
    cases operator <;> simp only [operand, String.append_assoc]

/-- **An expression and the tree that it is read as have the same text.** -/
theorem text_asRead (e : Expr) : e.asRead.text = e.text := by
  fun_induction asRead e with
  | case1 value => rfl
  | case2 symbol kind => rfl
  | case3 left value negative same =>
    have below : value.toInt < 0 := Int64.lt_iff_toInt_lt.mp negative
    calc (Formula.binary .subtract left.asRead (.number (-value.toInt))).text
        = left.asRead.text ++ ("-" ++ Text.Decimal.integer (-value.toInt)) :=
          String.append_assoc
      _ = left.text ++ Text.Decimal.integer value.toInt := by
          rw [same, integer_of_neg below]
      _ = (binary .add left (.constant value)).text := by
          rw [text, operand, if_pos negative, text]
  | case4 left value positive same =>
    calc (Formula.binary .add left.asRead (.number value.toInt)).text
        = left.asRead.text ++ ("+" ++ Text.Decimal.integer value.toInt) :=
          String.append_assoc
      _ = (binary .add left (.constant value)).text := by
          rw [same, text, operand, if_neg positive, text]
  | case5 operator left right other first second =>
    rw [Formula.text, text, operand_eq_enclosed other, first, second, String.append_assoc]

/-! ### What a reader finds -/

/-- The text of an expression with ordinary names is read as one tree and no other. -/
theorem written_iff {e : Expr} (ordinary : ∀ symbol ∈ e.symbols, symbol.IsOrdinary)
    (tree : Formula) : Written .sum e.text.toList tree ↔ tree = e.asRead := by
  have read : Written .sum e.text.toList e.asRead := by
    rw [← text_asRead]
    exact Formula.written_text (symbols_asRead e ▸ ordinary)
  constructor
  · intro written
    exact written.unique read
  · rintro rfl
    exact read

/-- **The text of an expression is faithful**: it is read as `asRead` and as nothing else, two
expressions share a text when they share the tree, and what is read has the value that the
expression has. -/
theorem text_faithful (e : Expr) (ordinary : ∀ symbol ∈ e.symbols, symbol.IsOrdinary) :
    (∀ tree, Written .sum e.text.toList tree ↔ tree = e.asRead) ∧
      (∀ other : Expr, (∀ symbol ∈ other.symbols, symbol.IsOrdinary) →
        (e.text = other.text ↔ e.asRead = other.asRead)) ∧
      ∀ assigned tree, Written .sum e.text.toList tree →
        tree.value assigned = e.exactValue assigned := by
  refine ⟨written_iff ordinary, ?_, ?_⟩
  · intro other otherOrdinary
    constructor
    · intro same
      have read := (written_iff ordinary e.asRead).mpr rfl
      rw [same] at read
      exact (written_iff otherOrdinary e.asRead).mp read
    · intro same
      rw [← text_asRead, ← text_asRead, same]
  · intro assigned tree written
    rw [(written_iff ordinary tree).mp written, value_asRead]

/-- The expression `x - (-3 + y@PLT) + -2⁶³`. -/
def nestedDifference : Expr :=
  .add
    (.subtract (.reference ⟨"x", by decide⟩ .plain)
      (.add (.constant (-3)) (.reference ⟨"y", by decide⟩ .plt)))
    (.constant Int64.minValue)

theorem text_faithful_nestedDifference :
    (∀ symbol ∈ nestedDifference.symbols, symbol.IsOrdinary) ∧
      nestedDifference.text = "x-(-3+y@PLT)-9223372036854775808" ∧
      nestedDifference.asRead = .binary .subtract
        (.binary .subtract (.reference ⟨"x", by decide⟩ .plain)
          (.binary .add (.number (-3)) (.reference ⟨"y", by decide⟩ .plt)))
        (.number 9223372036854775808) ∧
      ∀ tree, Written .sum nestedDifference.text.toList tree ↔ tree = nestedDifference.asRead := by
  have ordinary : ∀ symbol ∈ nestedDifference.symbols, symbol.IsOrdinary := by decide
  refine ⟨ordinary, ?_, ?_, (text_faithful nestedDifference ordinary).1⟩
  · have below : Int64.minValue < 0 := by decide
    simp [nestedDifference, add, subtract, text, operand, below, Operator.sign,
      ReferenceKind.suffix, Text.Decimal.integer, Text.Decimal.natural, Text.Decimal.digits,
      Text.Decimal.digit]
  · rfl

end AsmTarget.Expr
