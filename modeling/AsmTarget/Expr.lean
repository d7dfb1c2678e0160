/-
**Assembler expressions.**

An expression is a sum or a difference of 64-bit constants and references to symbols. The
assembler takes it apart by position, so expressions are compared as trees.

* `Expr.text`: the expression as assembly text;
* `Expr.symbols`: the symbols in it, from left to right;
* `Expr.fold`: its value, when it refers to no symbol and no step leaves the range.
-/

import AsmTarget.Text.Decimal
import AsmTarget.Symbol

namespace AsmTarget

/-- The two operators. -/
inductive Operator where
  | add
  | subtract
  deriving DecidableEq, Repr

namespace Operator

/-- The sign of an operator. -/
def sign : Operator → String
  | add => "+"
  | subtract => "-"

/-- The operator on integers without bounds. -/
def apply : Operator → Int → Int → Int
  | add, left, right => left + right
  | subtract, left, right => left - right

end Operator

/-- An assembler expression. -/
inductive Expr where
  | constant (value : Int64)
  | reference (symbol : Symbol) (kind : ReferenceKind)
  | binary (operator : Operator) (left right : Expr)
  deriving DecidableEq, Repr

namespace Expr

/-- The sum of two expressions. -/
def add (left right : Expr) : Expr :=
  .binary .add left right

/-- The difference of two expressions. -/
def subtract (left right : Expr) : Expr :=
  .binary .subtract left right

/-! ### Text -/

/-- An operator and its right operand, given as `written`. A negative addend brings its own sign,
and an operation on the right stands in parentheses. -/
def operand (operator : Operator) (right : Expr) (written : String) : String :=
  match operator, right with
  | .add, .constant value => if value < 0 then written else "+" ++ written
  | _, .binary .. => operator.sign ++ "(" ++ written ++ ")"
  | _, _ => operator.sign ++ written

/-- The expression as assembly text. -/
def text : Expr → String
  | .constant value => Text.Decimal.integer value.toInt
  | .reference symbol kind => symbol.name ++ kind.suffix
  | .binary operator left right => left.text ++ operand operator right right.text

/-! ### Symbols and values -/

/-- The symbols of an expression, from left to right, as often as they occur. -/
def symbols : Expr → List Symbol
  | .constant _ => []
  | .reference symbol _ => [symbol]
  | .binary _ left right => left.symbols ++ right.symbols

/-- A 64-bit constant for an integer within the range of constants. -/
def inRange? (value : Int) : Option Int64 :=
  if Int64.minValue.toInt ≤ value ∧ value ≤ Int64.maxValue.toInt then some (Int64.ofInt value)
  else none

/-- The value of an expression without symbols, as long as no step of the computation leaves the
range of constants. -/
def fold : Expr → Option Int64
  | .constant value => some value
  | .reference .. => none
  | .binary operator left right => do
    let first ← left.fold
    let second ← right.fold
    inRange? (operator.apply first.toInt second.toInt)

end Expr

end AsmTarget
