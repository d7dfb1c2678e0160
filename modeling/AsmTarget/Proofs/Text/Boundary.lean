/-
**Texts that tell where they end.**

Texts put one after the other can be told apart when each of them ends in front of something that it
does not contain: digits in front of something that is no digit, a line in front of its end, items
in front of a comma or a closing mark.

* `Stops`: a text does not go on with characters of a kind; `span_append_inj`: characters of the
  kind end there;
* `append_piece_inj`, `append_pair_inj`: **a piece or a pair at the end of a text** starts after the
  last of its marks;
* `Decimal.digits_append_inj`, `Decimal.integer_append_inj`, `Hexadecimal.number_injective`:
  numbers;
* `Single`: a text on one line; `lines_inj`: **lines**;
* `Legible`: the text of an item tells the item, and where it ends; `separated_append_inj`: **lists
  of such items**;
* `Reader.repeated_flatMap`: a reader that takes one piece after the other takes all of them.
-/

import AsmTarget.Text.Decimal
import AsmTarget.Text.Lines
import AsmTarget.Text.Quoted
import AsmTarget.Text.Reader
import Mathlib.Tactic.SplitIfs

namespace AsmTarget.Text

/-- Characters that pass a test do not come next. -/
def Stops (test : Char → Bool) (rest : List Char) : Prop :=
  ∀ c ∈ rest.head?, test c = false

theorem stops_nil (test : Char → Bool) : Stops test [] := by
  simp [Stops]

theorem stops_cons {test : Char → Bool} {c : Char} (fails : test c = false) (rest : List Char) :
    Stops test (c :: rest) := by
  simpa [Stops] using fails

theorem takeWhile_append_of_stops {test : Char → Bool} {text rest : List Char}
    (passes : ∀ c ∈ text, test c = true) (stops : Stops test rest) :
    (text ++ rest).takeWhile test = text := by
  have none : rest.takeWhile test = [] := by
    cases rest with
    | nil => rfl
    | cons c rest => exact List.takeWhile_cons_of_neg (by simp [stops c rfl])
  rw [List.takeWhile_append_of_pos passes, none, List.append_nil]

/-- Characters that pass a test end where one comes that does not. -/
theorem span_append_inj {test : Char → Bool} {text other rest rest' : List Char}
    (passes : ∀ c ∈ text, test c = true) (otherPasses : ∀ c ∈ other, test c = true)
    (stops : Stops test rest) (otherStops : Stops test rest')
    (same : text ++ rest = other ++ rest') : text = other ∧ rest = rest' := by
  have equal : text = other := by
    rw [← takeWhile_append_of_stops passes stops, same,
      takeWhile_append_of_stops otherPasses otherStops]
  subst equal
  exact ⟨rfl, List.append_cancel_left same⟩

/-- A text ends at the first of the marks that it does not contain. -/
theorem append_mark_inj {mark : Char} {text other rest rest' : List Char} (free : mark ∉ text)
    (otherFree : mark ∉ other) (same : text ++ mark :: rest = other ++ mark :: rest') :
    text = other ∧ rest = rest' := by
  have differs {text : List Char} (free : mark ∉ text) : ∀ c ∈ text, (c != mark) = true := by
    intro c member
    exact bne_iff_ne.mpr fun equal => free (equal ▸ member)
  have stops (rest : List Char) : Stops (· != mark) (mark :: rest) := stops_cons (by simp) rest
  obtain ⟨equal, after⟩ :=
    span_append_inj (differs free) (differs otherFree) (stops rest) (stops rest') same
  exact ⟨equal, (List.cons.inj after).2⟩

/-- A piece at the end of a text starts after the last of the marks that it does not contain, when
what stands before it ends with such a mark. -/
theorem append_piece_inj (mark : Char) {text other between piece otherPiece : String}
    (ends : between.toList.getLast? = some mark) (free : mark ∉ piece.toList)
    (otherFree : mark ∉ otherPiece.toList)
    (same : text ++ between ++ piece = other ++ between ++ otherPiece) :
    text = other ∧ piece = otherPiece := by
  obtain ⟨opening, split⟩ := List.getLast?_eq_some_iff.mp ends
  have turned (text piece : String) : (text ++ between ++ piece).toList.reverse =
      piece.toList.reverse ++ mark :: (opening.reverse ++ text.toList.reverse) := by
    simp [split]
  have backwards := congrArg (fun text => text.toList.reverse) same
  rw [turned, turned] at backwards
  obtain ⟨pieces, texts⟩ :=
    append_mark_inj (by simpa using free) (by simpa using otherFree) backwards
  exact ⟨String.toList_injective (List.reverse_inj.mp (List.append_cancel_left texts)),
    String.toList_injective (List.reverse_inj.mp pieces)⟩

/-- A pair at the end of a text is told from it, when what stands before either part ends with a
mark that no part contains. -/
theorem append_pair_inj {Part : Type} {write : Part → String} (injective : Function.Injective write)
    {opening middle : Char} (opens : ∀ part, opening ∉ (write part).toList)
    (divides : ∀ part, middle ∉ (write part).toList) {before between : String}
    (beforeEnds : before.toList.getLast? = some opening)
    (betweenEnds : between.toList.getLast? = some middle) {text other : String}
    {first second first' second' : Part}
    (same : text ++ before ++ write first ++ between ++ write second =
      other ++ before ++ write first' ++ between ++ write second') :
    text = other ∧ first = first' ∧ second = second' := by
  obtain ⟨same, seconds⟩ := append_piece_inj middle betweenEnds (divides _) (divides _) same
  obtain ⟨same, firsts⟩ := append_piece_inj opening beforeEnds (opens _) (opens _) same
  exact ⟨same, injective firsts, injective seconds⟩

/-! ### Numbers -/

theorem Hexadecimal.number_injective : Function.Injective number := by
  intro m n same
  have values := congrArg value? (String.ofList_injective same)
  rwa [value?_digits, value?_digits, Option.some.injEq] at values

/-- The mark in front of hexadecimal digits is not one of them. -/
theorem Hexadecimal.x_not_mem_number (n : Nat) : 'x' ∉ (number n).toList := by
  have differs : ∀ value < 16, 'x' ≠ digit value := by decide
  rw [number, String.toList_ofList]
  intro member
  obtain ⟨value, small, equal⟩ := exists_of_mem_digits member
  exact differs value small equal

namespace Decimal

variable {rest rest' : List Char}

theorem digits_append_inj {m n : Nat} (stops : Stops Char.isDigit rest)
    (otherStops : Stops Char.isDigit rest') (same : digits m ++ rest = digits n ++ rest') :
    m = n ∧ rest = rest' := by
  obtain ⟨equal, after⟩ := span_append_inj (fun _ => isDigit_of_mem_digits)
    (fun _ => isDigit_of_mem_digits) stops otherStops same
  refine ⟨?_, after⟩
  rw [← value_digits m, equal, value_digits]

theorem natural_injective : Function.Injective natural := by
  intro m n same
  rw [← value_digits m, String.ofList_injective same, value_digits]

theorem natural_toList (n : Nat) : (natural n).toList = digits n :=
  String.toList_ofList

theorem integer_toList (n : Int) :
    (integer n).toList = (if n < 0 then ['-'] else []) ++ digits n.natAbs := by
  unfold integer
  split
  · rw [String.toList_append, natural_toList]; rfl
  · rw [natural_toList]; rfl

theorem mem_integer {n : Int} {c : Char} (member : c ∈ (integer n).toList) :
    c = '-' ∨ c.isDigit = true := by
  rw [integer_toList] at member
  rcases List.mem_append.mp member with sign | digit
  · split at sign
    · exact .inl (List.mem_singleton.mp sign)
    · cases sign
  · exact .inr (isDigit_of_mem_digits digit)

theorem head?_digits_ne_minus (n : Nat) (rest : List Char) :
    (digits n ++ rest).head? ≠ some '-' := by
  obtain ⟨d, ds, split⟩ := List.exists_cons_of_ne_nil (digits_ne_nil n)
  have digit : d.isDigit = true := isDigit_of_mem_digits (split ▸ List.mem_cons_self)
  rw [split]
  rintro ⟨⟩
  cases digit

theorem integer_append_inj {m n : Int} (stops : Stops Char.isDigit rest)
    (otherStops : Stops Char.isDigit rest')
    (same : (integer m).toList ++ rest = (integer n).toList ++ rest') : m = n ∧ rest = rest' := by
  rw [integer_toList, integer_toList] at same
  -- A sign on one side only would be a digit on the other.
  by_cases negative : m < 0 <;> by_cases otherNegative : n < 0 <;>
    simp only [negative, otherNegative, if_true, if_false, List.nil_append,
      List.cons_append] at same
  · obtain ⟨equal, after⟩ := digits_append_inj stops otherStops (List.cons.inj same).2
    exact ⟨by omega, after⟩
  · exact absurd (congrArg List.head? same.symm) (head?_digits_ne_minus _ _)
  · exact absurd (congrArg List.head? same) (head?_digits_ne_minus _ _)
  · obtain ⟨equal, after⟩ := digits_append_inj stops otherStops same
    exact ⟨by omega, after⟩

end Decimal

/-! ### Lines -/

/-- A text on one line: the end of a line is not in it. -/
def Single (text : String) : Prop :=
  '\n' ∉ text.toList

instance (text : String) : Decidable (Single text) :=
  inferInstanceAs (Decidable ('\n' ∉ text.toList))

@[simp]
theorem single_append {text other : String} :
    Single (text ++ other) ↔ Single text ∧ Single other := by
  rw [Single, String.toList_append, List.mem_append, not_or, Single, Single]

@[simp]
theorem single_integer (n : Int) : Single (Decimal.integer n) := by
  intro member
  rcases Decimal.mem_integer member with sign | digit
  · cases sign
  · cases digit

@[simp]
theorem single_natural (n : Nat) : Single (Decimal.natural n) :=
  single_integer n

/-- A text in quotes is on one line when the end of a line is always escaped. -/
theorem single_quotes {mask : Char → List Char} (free : ∀ c, '\n' ∉ mask c) (text : String) :
    Single (String.ofList ('\"' :: (text.toList.flatMap mask ++ ['\"']))) := by
  simpa [Single] using fun c _ => free c

theorem newLine_not_mem_escape (c : Char) : '\n' ∉ escape c := by
  have digit : ∀ value < 16, '\n' ≠ Hexadecimal.digit value := by decide
  unfold escape
  split_ifs with quote backslash newLine carriage tabulator zero hidden
  · decide
  · decide
  · decide
  · decide
  · decide
  · decide
  · intro member
    simp only [List.mem_append, List.mem_cons, List.not_mem_nil, or_false] at member
    rcases member with (mark | code) | mark
    · exact absurd mark (by decide)
    · obtain ⟨value, small, equal⟩ := Hexadecimal.exists_of_mem_digits code
      exact digit value small equal
    · exact absurd mark (by decide)
  · exact fun member => newLine (List.mem_singleton.mp member).symm

@[simp]
theorem single_quoted (text : String) : Single (quoted text) :=
  single_quotes newLine_not_mem_escape text

/-- **Lines are told from their text**, as long as none of them contains the end of a line. -/
theorem lines_inj {list other : List String} (single : ∀ line ∈ list, Single line)
    (otherSingle : ∀ line ∈ other, Single line) (same : lines list = lines other) :
    list = other := by
  replace same := String.ofList_injective same
  induction list generalizing other with
  | nil =>
    cases other with
    | nil => rfl
    | cons line rest => simp at same
  | cons line rest ih =>
    cases other with
    | nil => simp at same
    | cons line' rest' =>
      simp only [List.flatMap_cons, List.append_assoc, List.singleton_append] at same
      obtain ⟨equal, after⟩ := append_mark_inj (single line List.mem_cons_self)
        (otherSingle line' List.mem_cons_self) same
      have others := ih (fun l member => single l (List.mem_cons_of_mem _ member))
        (fun l member => otherSingle l (List.mem_cons_of_mem _ member)) after
      rw [String.toList_injective equal, others]

/-- A text that ends with the end of a line is told by all before it. -/
theorem lines_singleton_injective : Function.Injective fun text => lines [text] := by
  intro text other same
  have characters := String.ofList_injective same
  simp only [List.flatMap_cons, List.flatMap_nil, List.append_nil] at characters
  exact String.toList_injective (List.append_cancel_right characters)

/-! ### Lists -/

section Lists

variable {Item : Type} {write : Item → List Char}

/-- The text of an item tells the item and where it ends, unless a digit follows. -/
def Legible (write : Item → List Char) (item : Item) : Prop :=
  ∀ ⦃other : Item⦄ ⦃rest rest' : List Char⦄, Stops Char.isDigit rest → Stops Char.isDigit rest' →
    write item ++ rest = write other ++ rest' → item = other ∧ rest = rest'

/-- Items with commas between them. -/
def separated (write : Item → List Char) : List Item → List Char
  | [] => []
  | [item] => write item
  | item :: items => write item ++ ',' :: separated write items

theorem separated_cons (item : Item) (items : List Item) :
    separated write (item :: items) =
      write item ++ if items = [] then [] else ',' :: separated write items := by
  cases items with
  | nil => rw [if_pos rfl, List.append_nil]; rfl
  | cons next items => rfl

/-- **Lists of legible items** end at a closing mark that no item starts with. -/
theorem separated_append_inj {close : Char} (closes : close.isDigit = false)
    (notComma : close ≠ ',')
    (starts : ∀ item rest, (write item ++ rest).head? ≠ some close) {items other : List Item}
    (legible : ∀ item ∈ items, Legible write item) {rest rest' : List Char}
    (same : separated write items ++ close :: rest = separated write other ++ close :: rest') :
    items = other ∧ rest = rest' := by
  induction items generalizing other with
  | nil =>
    cases other with
    | nil => exact ⟨rfl, (List.cons.inj same).2⟩
    | cons item' items' =>
      rw [separated_cons, List.append_assoc] at same
      exact absurd (congrArg List.head? same.symm) (starts _ _)
  | cons item items ih =>
    cases other with
    | nil =>
      rw [separated_cons, List.append_assoc] at same
      exact absurd (congrArg List.head? same) (starts _ _)
    | cons item' items' =>
      rw [separated_cons, separated_cons, List.append_assoc, List.append_assoc] at same
      have stops (list : List Item) (rest : List Char) : Stops Char.isDigit
          ((if list = [] then [] else ',' :: separated write list) ++ close :: rest) := by
        split
        · exact stops_cons closes _
        · exact stops_cons rfl _
      obtain ⟨rfl, after⟩ :=
        legible item List.mem_cons_self (stops items rest) (stops items' rest') same
      -- What follows the item is a comma on both sides, or the closing mark on both.
      by_cases last : items = [] <;> by_cases last' : items' = [] <;>
        simp only [last, last', if_true, if_false, List.nil_append, List.cons_append,
          List.cons.injEq] at after
      · exact ⟨by rw [last, last'], after.2⟩
      · exact absurd after.1 notComma
      · exact absurd after.1.symm notComma
      · obtain ⟨rfl, equal⟩ :=
          ih (fun each member => legible each (List.mem_cons_of_mem _ member)) after.2
        exact ⟨rfl, equal⟩

end Lists

/-! ### Readers that take pieces -/

namespace Reader

/-- What comes after a reader goes on with what the reader takes and leaves. -/
theorem bind_of_read {Value Other : Type} {reader : Reader Value} {next : Value → Reader Other}
    {text rest : List Char} {value : Value} (read : reader text = some (value, rest)) :
    (reader >>= next) text = next value rest := by
  show (reader text).bind _ = _
  rw [read]
  rfl

theorem repeatedWithin_cons {Value : Type} {step : Reader (Option Value)} {value : Value}
    {values : List Value} {text rest last : List Char} {limit : Nat}
    (first : step text = some (some value, rest))
    (others : repeatedWithin step limit rest = some (values, last)) :
    repeatedWithin step (limit + 1) text = some (value :: values, last) := by
  rw [repeatedWithin, bind_of_read first]
  exact bind_of_read others

theorem repeatedWithin_nil {Value : Type} {step : Reader (Option Value)} {text rest : List Char}
    {limit : Nat} (ends : step text = some (none, rest)) :
    repeatedWithin step (limit + 1) text = some ([], rest) := by
  rw [repeatedWithin, bind_of_read ends]
  rfl

variable {Source Value : Type} {step : Reader (Option Value)} {write : Source → List Char}
  {value : Source → Value} {close : Char}

theorem repeatedWithin_flatMap
    (takes : ∀ source rest, step (write source ++ rest) = some (some (value source), rest))
    (ends : ∀ rest, step (close :: rest) = some (none, rest)) (list : List Source)
    (rest : List Char) {limit : Nat} (enough : list.length < limit) :
    repeatedWithin step limit (list.flatMap write ++ close :: rest) =
      some (list.map value, rest) := by
  induction list generalizing limit with
  | nil =>
    obtain ⟨limit, rfl⟩ := Nat.exists_eq_add_of_lt enough
    exact repeatedWithin_nil (ends rest)
  | cons source list others =>
    obtain ⟨limit, rfl⟩ : ∃ fewer, limit = fewer + 1 := ⟨limit - 1, by omega⟩
    rw [List.flatMap_cons, List.append_assoc]
    exact repeatedWithin_cons (takes source _) (others (Nat.lt_of_succ_lt_succ enough))

/-- A reader that takes each piece, and the mark after the last one, takes a text made of pieces. -/
theorem repeated_flatMap
    (takes : ∀ source rest, step (write source ++ rest) = some (some (value source), rest))
    (ends : ∀ rest, step (close :: rest) = some (none, rest))
    (nonempty : ∀ source, write source ≠ []) (list : List Source) (rest : List Char) :
    repeated step (list.flatMap write ++ close :: rest) = some (list.map value, rest) := by
  have long : list.length ≤ (list.flatMap write).length := by
    induction list with
    | nil => exact Nat.le_refl 0
    | cons source list ih =>
      have first : 0 < (write source).length := List.length_pos_iff.mpr (nonempty source)
      rw [List.flatMap_cons, List.length_append, List.length_cons]
      omega
  refine repeatedWithin_flatMap takes ends list rest ?_
  rw [List.length_append]
  omega

end Reader

end AsmTarget.Text
