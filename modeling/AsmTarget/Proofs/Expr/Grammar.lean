/-
**The grammar of expressions in assembly text.**

An expression is a sum of operands, grouped from the left, where plus and minus bind alike. An
operand is a decimal number with or without a minus in front, a name with or without a suffix, or a
sum in parentheses. The grammar is a relation between texts and trees, so that a text could have no
tree or several.

* `Formula`: a tree as a reader of the text sees it, whose integers have no bounds;
* `Symbol.IsOrdinary`: the names that cannot be taken for anything else;
* `Formula.Written`: **the grammar**;
* `Formula.text`: a text of a tree, with parentheses around sums on the right alone;
* `Formula.written_text`: **a tree with ordinary names can be read from its text**.
-/

import AsmTarget.Expr

namespace AsmTarget

/-! ### Trees and the grammar -/

/-- An expression as a reader of assembly text sees it. -/
inductive Formula where
  | number (value : Int)
  | reference (symbol : Symbol) (kind : ReferenceKind)
  | binary (operator : Operator) (left right : Formula)
  deriving DecidableEq, Repr

/-- The characters that separate operands. -/
def Formula.isMark (c : Char) : Bool :=
  c == '+' || c == '-' || c == '(' || c == ')'

/-- The character of an operator. -/
def Operator.mark : Operator → Char
  | .add => '+'
  | .subtract => '-'

theorem Operator.sign_toList (operator : Operator) : operator.sign.toList = [operator.mark] := by
  cases operator <;> rfl

theorem Operator.isMark_mark (operator : Operator) : Formula.isMark operator.mark = true := by
  cases operator <;> rfl

/-- A name that holds no mark and no `@`, and does not begin like a number. -/
structure Symbol.IsOrdinary (symbol : Symbol) : Prop where
  plain : ∀ c ∈ symbol.name.toList, Formula.isMark c = false ∧ c ≠ '@'
  lead : ∀ c ∈ symbol.name.toList.head?, c.isDigit = false

instance (symbol : Symbol) : Decidable symbol.IsOrdinary :=
  decidable_of_iff
    (symbol.name.toList.all (fun c => !Formula.isMark c && c != '@') = true ∧
      symbol.name.toList.head?.all (fun c => !c.isDigit) = true)
    (by
      rw [List.all_eq_true, Option.all_eq_true]
      constructor
      · rintro ⟨plain, lead⟩
        exact ⟨by simpa using plain, by simpa using lead⟩
      · rintro ⟨plain, lead⟩
        exact ⟨by simpa using plain, by simpa using lead⟩)

namespace Formula

/-- The two kinds of phrases. -/
inductive Phrase where
  | operand
  | sum

/-- **The grammar**: the text of a phrase and the tree that it is read as. -/
inductive Written : Phrase → List Char → Formula → Prop where
  | decimal {digits : List Char} (nonempty : digits ≠ [])
    (all : ∀ d ∈ digits, d.isDigit = true) :
    Written .operand digits (.number (Text.Decimal.value digits))
  | negative {digits : List Char} (nonempty : digits ≠ [])
    (all : ∀ d ∈ digits, d.isDigit = true) :
    Written .operand ('-' :: digits) (.number (-Text.Decimal.value digits))
  | reference {symbol : Symbol} (ordinary : symbol.IsOrdinary) (kind : ReferenceKind) :
    Written .operand (symbol.name.toList ++ kind.suffix.toList) (.reference symbol kind)
  | parentheses {text : List Char} {tree : Formula} (inside : Written .sum text tree) :
    Written .operand ('(' :: (text ++ [')'])) tree
  | operand {text : List Char} {tree : Formula} (alone : Written .operand text tree) :
    Written .sum text tree
  | binary {before after : List Char} {left right : Formula} (operator : Operator)
    (first : Written .sum before left) (second : Written .operand after right) :
    Written .sum (before ++ operator.mark :: after) (.binary operator left right)

/-- The symbols of a tree, from left to right. -/
def symbols : Formula → List Symbol
  | .number _ => []
  | .reference symbol _ => [symbol]
  | .binary _ left right => left.symbols ++ right.symbols

/-- The value of a tree, under values for the references in it. -/
def value (assigned : Symbol → ReferenceKind → Int) : Formula → Int
  | .number value => value
  | .reference symbol kind => assigned symbol kind
  | .binary operator left right => operator.apply (left.value assigned) (right.value assigned)

/-! ### Texts of trees -/

/-- An operand, given as `written`, in a place where a sum needs parentheses. -/
def enclosed (tree : Formula) (written : String) : String :=
  match tree with
  | .binary .. => "(" ++ written ++ ")"
  | .number _ | .reference .. => written

/-- A text of a tree. -/
def text : Formula → String
  | .number value => Text.Decimal.integer value
  | .reference symbol kind => symbol.name ++ kind.suffix
  | .binary operator left right => left.text ++ operator.sign ++ right.enclosed right.text

theorem written_number (value : Int) :
    Written .operand (number value).text.toList (.number value) := by
  have nonempty := Text.Decimal.digits_ne_nil value.natAbs
  have all : ∀ d ∈ Text.Decimal.digits value.natAbs, d.isDigit = true :=
    fun _ member => Text.Decimal.isDigit_of_mem_digits member
  have size := Text.Decimal.value_digits value.natAbs
  by_cases below : value < 0
  · have signed : (number value).text.toList = '-' :: Text.Decimal.digits value.natAbs := by
      simp [text, Text.Decimal.integer, Text.Decimal.natural, below]
    have whole : -(Text.Decimal.value (Text.Decimal.digits value.natAbs) : Int) = value := by
      omega
    have read := Written.negative nonempty all
    rwa [whole, ← signed] at read
  · have plain : (number value).text.toList = Text.Decimal.digits value.natAbs := by
      simp [text, Text.Decimal.integer, Text.Decimal.natural, below]
    have whole : (Text.Decimal.value (Text.Decimal.digits value.natAbs) : Int) = value := by
      omega
    have read := Written.decimal nonempty all
    rwa [whole, ← plain] at read

theorem written_reference {symbol : Symbol} (ordinary : symbol.IsOrdinary) (kind : ReferenceKind) :
    Written .operand (reference symbol kind).text.toList (.reference symbol kind) := by
  rw [text, String.toList_append]
  exact .reference ordinary kind

/-- Where a sum needs parentheses, every tree that can be read from its text is an operand. -/
theorem written_enclosed {tree : Formula} (ordinary : ∀ symbol ∈ tree.symbols, symbol.IsOrdinary)
    (read : Written .sum tree.text.toList tree) :
    Written .operand (tree.enclosed tree.text).toList tree := by
  cases tree with
  | number value => exact written_number value
  | reference symbol kind =>
    exact written_reference (ordinary symbol (List.mem_singleton_self symbol)) kind
  | binary operator left right =>
    simp only [enclosed, String.toList_append]
    exact .parentheses read

/-- **A tree with ordinary names can be read from its text.** -/
theorem written_text {tree : Formula} (ordinary : ∀ symbol ∈ tree.symbols, symbol.IsOrdinary) :
    Written .sum tree.text.toList tree := by
  induction tree with
  | number value => exact .operand (written_number value)
  | reference symbol kind =>
    exact .operand (written_reference (ordinary symbol (List.mem_singleton_self symbol)) kind)
  | binary operator left right first second =>
    have inLeft := fun symbol member => ordinary symbol (List.mem_append_left _ member)
    have inRight := fun symbol member => ordinary symbol (List.mem_append_right _ member)
    have parts : (binary operator left right).text.toList =
        left.text.toList ++ operator.mark :: (right.enclosed right.text).toList := by
      simp [text, Operator.sign_toList]
    rw [parts]
    exact .binary operator (first inLeft) (written_enclosed inRight (second inRight))

end Formula

end AsmTarget
