/-
**Folding is exact or does not happen.**

An expression is folded step by step, and every step is checked against the range of constants. So
a value that is found is the value on integers without bounds. Nothing is found where a part of the
expression leaves the range, also where the whole would come back into it, or where a symbol occurs.

* `Expr.PartOf`: an expression inside another one;
* `Expr.InRange`: the range of constants; `Expr.inRange?_eq_some_iff`: **one step**;
* `Expr.fold_eq_some_iff`: **all steps**, by induction on the expression;
* `Expr.fold_exact`: when an expression folds, and to which value.
-/

import AsmTarget.Proofs.Expr.Text
import Mathlib.Algebra.Group.Int.Defs

namespace AsmTarget.Expr

/-- The range of 64-bit constants. -/
def InRange (value : Int) : Prop :=
  -2 ^ 63 ≤ value ∧ value < 2 ^ 63

/-- The expressions that an expression is made of, itself among them. -/
inductive PartOf (part : Expr) : Expr → Prop where
  | whole : PartOf part part
  | left (operator : Operator) {left : Expr} (right : Expr) (inside : PartOf part left) :
    PartOf part (.binary operator left right)
  | right (operator : Operator) (left : Expr) {right : Expr} (inside : PartOf part right) :
    PartOf part (.binary operator left right)

/-! ### Parts -/

section Parts

variable {holds : Expr → Prop}

theorem forall_partOf_constant {value : Int64} :
    (∀ part, PartOf part (.constant value) → holds part) ↔ holds (.constant value) := by
  constructor
  · intro all
    exact all _ .whole
  · rintro whole part ⟨⟩
    exact whole

/-- What holds of all parts of an operation holds of itself and of all parts of its operands. -/
theorem forall_partOf_binary {operator : Operator} {left right : Expr} :
    (∀ part, PartOf part (.binary operator left right) → holds part) ↔
      holds (.binary operator left right) ∧ (∀ part, PartOf part left → holds part) ∧
        ∀ part, PartOf part right → holds part := by
  constructor
  · intro all
    exact ⟨all _ .whole, fun part inside => all part (.left operator right inside),
      fun part inside => all part (.right operator left inside)⟩
  · rintro ⟨whole, first, second⟩ part inside
    cases inside with
    | whole => exact whole
    | left _ _ inside => exact first part inside
    | right _ _ inside => exact second part inside

end Parts

/-! ### One step -/

theorem inRange_toInt (value : Int64) : InRange value.toInt :=
  ⟨value.le_toInt, value.toInt_lt⟩

/-- **One step**: a constant is found exactly when it stands for the integer. -/
theorem inRange?_eq_some_iff {exact : Int} {value : Int64} :
    inRange? exact = some value ↔ value.toInt = exact := by
  have lowest : Int64.minValue.toInt = -2 ^ 63 := rfl
  have highest : Int64.maxValue.toInt = 2 ^ 63 - 1 := rfl
  unfold inRange?
  rw [lowest, highest]
  constructor
  · intro found
    split at found
    · next within =>
      cases found
      exact Int64.toInt_ofInt_of_le within.1 (by omega)
    · cases found
  · rintro rfl
    obtain ⟨above, below⟩ := inRange_toInt value
    rw [if_pos ⟨above, by omega⟩, Int64.ofInt_toInt]

theorem exists_toInt_eq {exact : Int} (within : InRange exact) :
    ∃ value : Int64, value.toInt = exact :=
  ⟨Int64.ofInt exact, Int64.toInt_ofInt_of_le within.1 within.2⟩

/-! ### All steps -/

variable (assigned : Symbol → ReferenceKind → Int)

/-- No symbol occurs in the expression, and none of its parts is out of range. -/
def Foldable (e : Expr) : Prop :=
  e.symbols = [] ∧ ∀ part, PartOf part e → InRange (part.exactValue assigned)

theorem foldable_binary {operator : Operator} {left right : Expr} :
    (binary operator left right).Foldable assigned ↔
      left.Foldable assigned ∧ right.Foldable assigned ∧
        InRange ((binary operator left right).exactValue assigned) := by
  unfold Foldable
  rw [symbols, List.append_eq_nil_iff, forall_partOf_binary]
  constructor
  · rintro ⟨⟨noFirst, noSecond⟩, whole, first, second⟩
    exact ⟨⟨noFirst, first⟩, ⟨noSecond, second⟩, whole⟩
  · rintro ⟨⟨noFirst, first⟩, ⟨noSecond, second⟩, whole⟩
    exact ⟨⟨noFirst, noSecond⟩, whole, first, second⟩

/-- **All steps.** The induction follows the expression: an operation is folded when its operands
are, to their exact values, and the result is in range again. -/
theorem fold_eq_some_iff (e : Expr) (value : Int64) :
    e.fold = some value ↔ e.Foldable assigned ∧ value.toInt = e.exactValue assigned := by
  induction e generalizing value with
  | constant constant =>
    rw [fold, Foldable, forall_partOf_constant, exactValue, Option.some.injEq, ← Int64.toInt_inj]
    constructor
    · intro same
      exact ⟨⟨rfl, inRange_toInt constant⟩, same.symm⟩
    · rintro ⟨-, same⟩
      exact same.symm
  | reference symbol kind =>
    have notFound : (reference symbol kind).fold ≠ some value := (Option.some_ne_none value).symm
    have occurs : (reference symbol kind).symbols ≠ [] := List.cons_ne_nil symbol []
    exact iff_of_false notFound fun folds => occurs folds.1.1
  | binary operator left right first second =>
    have steps : (binary operator left right).fold = some value ↔
        ∃ one, left.fold = some one ∧ ∃ other, right.fold = some other ∧
          value.toInt = operator.apply one.toInt other.toInt := by
      simp only [fold, Option.bind_eq_bind, Option.bind_eq_some_iff, inRange?_eq_some_iff]
    simp only [steps, first, second, foldable_binary]
    constructor
    · rintro ⟨one, ⟨leftFolds, oneExact⟩, other, ⟨rightFolds, otherExact⟩, exact⟩
      have whole : value.toInt = (binary operator left right).exactValue assigned := by
        rw [exact, oneExact, otherExact, exactValue]
      exact ⟨⟨leftFolds, rightFolds, whole ▸ inRange_toInt value⟩, whole⟩
    · rintro ⟨⟨leftFolds, rightFolds, -⟩, exact⟩
      obtain ⟨one, oneExact⟩ := exists_toInt_eq (leftFolds.2 left .whole)
      obtain ⟨other, otherExact⟩ := exists_toInt_eq (rightFolds.2 right .whole)
      refine ⟨one, ⟨leftFolds, oneExact⟩, other, ⟨rightFolds, otherExact⟩, ?_⟩
      rw [exact, exactValue, oneExact, otherExact]

theorem isSome_fold_iff (e : Expr) : e.fold.isSome = true ↔ e.Foldable assigned := by
  rw [Option.isSome_iff_exists]
  constructor
  · rintro ⟨value, folds⟩
    exact ((e.fold_eq_some_iff assigned value).mp folds).1
  · intro foldable
    obtain ⟨value, exact⟩ := exists_toInt_eq (foldable.2 e .whole)
    exact ⟨value, (e.fold_eq_some_iff assigned value).mpr ⟨foldable, exact⟩⟩

/-- **Folding is exact.** An expression folds exactly when no symbol occurs in it and the exact
values of all its parts are in range, and it folds to its own exact value. In every other case
nothing is found. The values that are assumed for symbols do not matter. -/
theorem fold_exact (e : Expr) :
    (∀ value, e.fold = some value ↔ e.Foldable assigned ∧ value.toInt = e.exactValue assigned) ∧
      (e.fold = none ↔ ¬ e.Foldable assigned) := by
  refine ⟨e.fold_eq_some_iff assigned, ?_⟩
  rw [← e.isSome_fold_iff assigned, Option.not_isSome_iff_eq_none]

/-- The sum leaves the range, and the difference would come back into it. -/
example : (subtract (add (.constant Int64.maxValue) (.constant 1)) (.constant 1)).fold = none := by
  decide

end AsmTarget.Expr
