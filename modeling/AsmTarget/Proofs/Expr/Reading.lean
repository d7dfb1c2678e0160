/-
**No text of an expression has two trees.**

A reader takes a text apart into marks and words, and reads those from the left. It holds the sums
that are not finished, and every token tells it what to do, so that it has one answer at most. It
finds every tree that the grammar gives to a text, and no text has two trees therefore.

* `tokens`: the marks of a text and the words between them;
* `ofWord?`: the number or the reference that a word stands for;
* `readOperand`, `readOperator`: the reader, where an operand is due and after one;
* `Written.isRead`: **the reader finds the tree that the grammar gives to a phrase**;
* `Written.unique`: **a text has at most one tree**.
-/

import AsmTarget.Proofs.Expr.Grammar

namespace AsmTarget

theorem ReferenceKind.isMark_of_mem_suffix (kind : ReferenceKind) :
    ∀ c ∈ kind.suffix.toList, Formula.isMark c = false := by
  have unmarked : kind.suffix.toList.all (!Formula.isMark ·) = true := by
    cases kind <;> rfl
  intro c member
  simpa using List.all_eq_true.mp unmarked c member

namespace Formula

/-! ### Marks and words -/

/-- A mark, or a word between marks. -/
inductive Token where
  | mark (c : Char)
  | word (letters : List Char)

/-- A character that is no mark in front of tokens. -/
def Token.lengthen (c : Char) : List Token → List Token
  | .word letters :: rest => .word (c :: letters) :: rest
  | rest => .word [c] :: rest

/-- The marks and the words of a text. -/
def tokens : List Char → List Token
  | [] => []
  | c :: rest => if isMark c then .mark c :: tokens rest else Token.lengthen c (tokens rest)

/-- Nothing, or a mark, is next. -/
def Stops (rest : List Char) : Prop :=
  ∀ c ∈ rest.head?, isMark c = true

theorem stops_nil : Stops [] := by
  simp [Stops]

theorem stops_mark {c : Char} (mark : isMark c = true) (rest : List Char) : Stops (c :: rest) := by
  simpa [Stops] using mark

theorem tokens_mark {c : Char} (mark : isMark c = true) (rest : List Char) :
    tokens (c :: rest) = .mark c :: tokens rest := by
  rw [tokens, if_pos mark]

theorem lengthen_of_stops {rest : List Char} (stops : Stops rest) (c : Char) :
    Token.lengthen c (tokens rest) = .word [c] :: tokens rest := by
  cases rest with
  | nil => rfl
  | cons next rest =>
    rw [tokens_mark (stops next rfl)]
    rfl

/-- A word ends at a mark or at the end of the text. -/
theorem tokens_word {letters rest : List Char} (nonempty : letters ≠ [])
    (plain : ∀ c ∈ letters, isMark c = false) (stops : Stops rest) :
    tokens (letters ++ rest) = .word letters :: tokens rest := by
  induction letters with
  | nil => exact absurd rfl nonempty
  | cons c letters ih =>
    have unmarked : isMark c = false := plain c List.mem_cons_self
    rw [List.cons_append, tokens, if_neg (by rw [unmarked]; exact Bool.false_ne_true)]
    by_cases last : letters = []
    · rw [last, List.nil_append, lengthen_of_stops stops]
    · rw [ih last fun d member => plain d (List.mem_cons_of_mem c member)]
      rfl

theorem isMark_of_isDigit {d : Char} (digit : d.isDigit = true) : isMark d = false := by
  have plus : d ≠ '+' := by rintro rfl; cases digit
  have minus : d ≠ '-' := by rintro rfl; cases digit
  have opening : d ≠ '(' := by rintro rfl; cases digit
  have closing : d ≠ ')' := by rintro rfl; cases digit
  simp [isMark, plus, minus, opening, closing]

/-! ### Words that stand for operands -/

/-- The number that digits stand for. -/
def ofDigits? (letters : List Char) : Option Nat :=
  if letters.all Char.isDigit then some (Text.Decimal.value letters) else none

/-- The reference that a name with or without a suffix stands for. -/
def ofReference? (letters : List Char) : Option Formula :=
  (Symbol.ofName? (String.ofList (letters.takeWhile (· != '@')))).bind fun symbol =>
    (ReferenceKind.all.find? fun kind =>
      kind.suffix.toList == letters.dropWhile (· != '@')).map (.reference symbol)

/-- The operand that a word stands for. -/
def ofWord? (letters : List Char) : Option Formula :=
  match ofDigits? letters with
  | some size => some (.number size)
  | none => ofReference? letters

theorem ofDigits?_eq {digits : List Char} (all : ∀ d ∈ digits, d.isDigit = true) :
    ofDigits? digits = some (Text.Decimal.value digits) :=
  if_pos (List.all_eq_true.mpr all)

end Formula

namespace Symbol.IsOrdinary

variable {symbol : Symbol}

theorem ofDigits?_eq_none (ordinary : symbol.IsOrdinary) (suffix : List Char) :
    Formula.ofDigits? (symbol.name.toList ++ suffix) = none := by
  obtain ⟨first, letters, spelled⟩ := List.exists_cons_of_ne_nil symbol.toList_ne_nil
  have letter : first.isDigit = false := ordinary.lead first (by rw [spelled]; rfl)
  rw [Formula.ofDigits?, spelled]
  simp [letter]

theorem takeWhile_eq (ordinary : symbol.IsOrdinary) (kind : ReferenceKind) :
    (symbol.name.toList ++ kind.suffix.toList).takeWhile (· != '@') = symbol.name.toList := by
  have name : ∀ c ∈ symbol.name.toList, (c != '@') = true :=
    fun c member => bne_iff_ne.mpr (ordinary.plain c member).2
  have suffix : kind.suffix.toList.takeWhile (· != '@') = [] := by
    cases kind <;> rfl
  rw [List.takeWhile_append_of_pos name, suffix, List.append_nil]

theorem dropWhile_eq (ordinary : symbol.IsOrdinary) (kind : ReferenceKind) :
    (symbol.name.toList ++ kind.suffix.toList).dropWhile (· != '@') = kind.suffix.toList := by
  have name : ∀ c ∈ symbol.name.toList, (c != '@') = true :=
    fun c member => bne_iff_ne.mpr (ordinary.plain c member).2
  have suffix : kind.suffix.toList.dropWhile (· != '@') = kind.suffix.toList := by
    cases kind <;> rfl
  rw [List.dropWhile_append_of_pos name, suffix]

/-- A reference is read from its word. -/
theorem ofWord?_eq (ordinary : symbol.IsOrdinary) (kind : ReferenceKind) :
    Formula.ofWord? (symbol.name.toList ++ kind.suffix.toList) = some (.reference symbol kind) := by
  have named : Symbol.ofName? (String.ofList symbol.name.toList) = some symbol :=
    Symbol.ofName?_eq_some.mpr String.ofList_toList.symm
  have found : (ReferenceKind.all.find? fun other =>
      other.suffix.toList == kind.suffix.toList) = some kind := by
    cases kind <;> rfl
  rw [Formula.ofWord?, ordinary.ofDigits?_eq_none, Formula.ofReference?, ordinary.takeWhile_eq,
    ordinary.dropWhile_eq, named, found]
  rfl

theorem isMark_of_mem (ordinary : symbol.IsOrdinary) (kind : ReferenceKind) :
    ∀ c ∈ symbol.name.toList ++ kind.suffix.toList, Formula.isMark c = false := by
  intro c member
  rcases List.mem_append.mp member with inName | inSuffix
  · exact (ordinary.plain c inName).1
  · exact kind.isMark_of_mem_suffix c inSuffix

end Symbol.IsOrdinary

namespace Formula

/-! ### The reader -/

/-- A sum where an operand is due: nothing before it, or an operator after what was read. -/
inductive Opening where
  | start
  | after (left : Formula) (operator : Operator)

/-- A sum with the operand that was due. -/
def Opening.close : Opening → Formula → Formula
  | .start, operand => operand
  | .after left operator, operand => .binary operator left operand

mutual

/-- Read on where an operand is due, within the openings of the parentheses around it. -/
def readOperand (here : Opening) (outer : List Opening) : List Token → Option Formula
  | .word letters :: rest =>
    (ofWord? letters).bind fun operand => readOperator (here.close operand) outer rest
  | .mark '-' :: .word letters :: rest =>
    (ofDigits? letters).bind fun size =>
      readOperator (here.close (.number (-size))) outer rest
  | .mark '(' :: rest => readOperand .start (here :: outer) rest
  | _ => none

/-- Read on after an operand. -/
def readOperator (sum : Formula) (outer : List Opening) : List Token → Option Formula
  | [] => if outer.isEmpty then some sum else none
  | .mark '+' :: rest => readOperand (.after sum .add) outer rest
  | .mark '-' :: rest => readOperand (.after sum .subtract) outer rest
  | .mark ')' :: rest =>
    match outer with
    | [] => none
    | here :: outer => readOperator (here.close sum) outer rest
  | _ => none

end

theorem readOperator_mark (operator : Operator) (sum : Formula) (outer : List Opening)
    (rest : List Token) :
    readOperator sum outer (.mark operator.mark :: rest) =
      readOperand (.after sum operator) outer rest := by
  cases operator <;> rw [Operator.mark, readOperator]

/-- The reader on the text of an operand, and on the text of a sum that begins. -/
def Phrase.IsRead (text : List Char) (tree : Formula) : Phrase → Prop
  | .operand => ∀ here outer rest, Stops rest →
    readOperand here outer (tokens (text ++ rest)) =
      readOperator (here.close tree) outer (tokens rest)
  | .sum => ∀ outer rest, Stops rest →
    readOperand .start outer (tokens (text ++ rest)) = readOperator tree outer (tokens rest)

/-- **The reader finds the tree that the grammar gives to a phrase.** -/
theorem Written.isRead {phrase : Phrase} {text : List Char} {tree : Formula}
    (written : Written phrase text tree) : phrase.IsRead text tree := by
  induction written with
  | @decimal digits nonempty all =>
    intro here outer rest stops
    rw [tokens_word nonempty (fun d member => isMark_of_isDigit (all d member)) stops,
      readOperand, ofWord?, ofDigits?_eq all]
    rfl
  | @negative digits nonempty all =>
    intro here outer rest stops
    rw [List.cons_append, tokens_mark rfl,
      tokens_word nonempty (fun d member => isMark_of_isDigit (all d member)) stops,
      readOperand, ofDigits?_eq all]
    rfl
  | @reference symbol ordinary kind =>
    intro here outer rest stops
    have nonempty := List.append_ne_nil_of_left_ne_nil symbol.toList_ne_nil kind.suffix.toList
    rw [tokens_word nonempty (ordinary.isMark_of_mem kind) stops, readOperand,
      ordinary.ofWord?_eq]
    rfl
  | @parentheses text tree inside ih =>
    -- The sum around the parentheses waits among the outer ones until they close.
    intro here outer rest stops
    have closing : Stops (')' :: rest) := stops_mark rfl rest
    calc readOperand here outer (tokens ('(' :: (text ++ [')']) ++ rest))
        = readOperand here outer (.mark '(' :: tokens (text ++ ')' :: rest)) := by
          rw [List.cons_append, tokens_mark rfl, List.append_assoc, List.singleton_append]
      _ = readOperand .start (here :: outer) (tokens (text ++ ')' :: rest)) := by
          rw [readOperand]
      _ = readOperator tree (here :: outer) (tokens (')' :: rest)) := ih _ _ closing
      _ = readOperator (here.close tree) outer (tokens rest) := by
          rw [tokens_mark rfl, readOperator]
  | operand alone ih =>
    intro outer rest stops
    exact ih .start outer rest stops
  | @binary before after left right operator first second firstRead secondRead =>
    -- What was read of a sum becomes the left side of the next operator: grouping from the left.
    intro outer rest stops
    have between : Stops (operator.mark :: (after ++ rest)) := stops_mark operator.isMark_mark _
    calc readOperand .start outer (tokens (before ++ operator.mark :: after ++ rest))
        = readOperand .start outer (tokens (before ++ operator.mark :: (after ++ rest))) := by
          rw [List.append_assoc, List.cons_append]
      _ = readOperator left outer (tokens (operator.mark :: (after ++ rest))) :=
          firstRead outer _ between
      _ = readOperand (.after left operator) outer (tokens (after ++ rest)) := by
          rw [tokens_mark operator.isMark_mark, readOperator_mark]
      _ = readOperator (.binary operator left right) outer (tokens rest) :=
          secondRead _ outer rest stops

/-- **A text has at most one tree.** -/
theorem Written.unique {text : List Char} {tree other : Formula} (first : Written .sum text tree)
    (second : Written .sum text other) : tree = other := by
  have answer : ∀ {found : Formula}, Written .sum text found →
      readOperand .start [] (tokens text) = some found := by
    intro found written
    have read := written.isRead [] [] stops_nil
    rwa [List.append_nil, tokens, readOperator] at read
  exact Option.some.inj ((answer first).symm.trans (answer second))

end Formula

end AsmTarget
