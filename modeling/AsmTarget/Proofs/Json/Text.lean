/-
**The text of a JSON value says what the value is.**

* `Json.escaping`: how a character is written; `Json.stringBody_body`, `Json.meaning?_body`: a
  string is read back from its text;
* `Json.legible`: the text without blanks tells the value and where it ends;
* `Json.squeeze_prettyChars`: the text on several lines is the text without blanks once the blanks
  outside strings are taken away;
* `Json.compact_injective`, `Json.pretty_injective`: **two values with one text are the same**.
-/

import AsmTarget.Json
import AsmTarget.Json.Draft
import AsmTarget.Proofs.Text.Boundary
import AsmTarget.Proofs.Text.Escape
import Mathlib.Tactic.SplitIfs

namespace AsmTarget.Json

open Text

/-- What holds of a value when it holds of the values in it holds of every value. -/
@[elab_as_elim]
theorem induction {holds : Json → Prop} (null : holds .null)
    (boolean : ∀ value, holds (.boolean value)) (integer : ∀ value, holds (.integer value))
    (string : ∀ value, holds (.string value))
    (array : ∀ items, (∀ item ∈ items, holds item) → holds (.array items))
    (object : ∀ members, (∀ member ∈ members, holds member.2) → holds (.object members)) :
    ∀ value, holds value
  | .null => null
  | .boolean value => boolean value
  | .integer value => integer value
  | .string value => string value
  | .array items => array items fun item _ =>
    induction null boolean integer string array object item
  | .object members => object members fun (_, value) inside =>
    have := List.sizeOf_lt_of_mem inside
    induction null boolean integer string array object value
decreasing_by
  · decreasing_tactic
  · simp only [Prod.mk.sizeOf_spec, Json.object.sizeOf_spec] at *
    omega

/-! ### Strings -/

/-- What stands between the quotes of a string. -/
def body (text : String) : List Char :=
  text.toList.flatMap escape

/-- How JSON writes characters. -/
def escaping : Escaping where
  marks := [('\"', '\"'), ('\\', '\\'), ('b', '\x08'), ('f', '\x0c'), ('n', '\n'), ('r', '\r'),
    ('t', '\t')]
  isCoded c := c.toNat < 32
  digit := Hexadecimal.digit

theorem written_escape (c : Char) : escaping.Written c (escape c) := by
  have same : escape c = escaping.write c := by
    simp only [Escaping.write, escaping, decide_eq_true_eq]
    rfl
  exact same ▸ escaping.written_write c

/-- A character that stands for itself is neither a quote nor a backslash, nor a control character. -/
theorem of_plain {c : Char} (unmarked : ∀ entry ∈ escaping.marks, c ≠ entry.2)
    (uncoded : escaping.isCoded c = false) : c ≠ '\"' ∧ c ≠ '\\' ∧ 32 ≤ c.toNat :=
  ⟨unmarked ('\"', '\"') (by decide), unmarked ('\\', '\\') (by decide),
    Nat.not_lt.mp (of_decide_eq_false uncoded)⟩

theorem value?_code {c : Char} (control : c.toNat < 32) :
    Hexadecimal.value? ['0', '0', Hexadecimal.digit (c.toNat / 16),
      Hexadecimal.digit (c.toNat % 16)] = some c.toNat :=
  Hexadecimal.value?_octet (Hexadecimal.digitValue?_digit (c.toNat / 16) (by omega))
    (Hexadecimal.digitValue?_digit (c.toNat % 16) (by omega))

theorem marked_read {mark c : Char} (entry : (mark, c) ∈ escaping.marks) (rest : List Char) :
    Draft.piece ('\\' :: mark :: rest) = some (some ['\\', mark], rest) ∧
      Draft.unescaped ('\\' :: mark :: rest) = (Draft.unescaped rest).map (c :: ·) := by
  simp only [escaping, List.mem_cons, Prod.mk.injEq, List.not_mem_nil, or_false] at entry
  rcases entry with ⟨rfl, rfl⟩ | ⟨rfl, rfl⟩ | ⟨rfl, rfl⟩ | ⟨rfl, rfl⟩ | ⟨rfl, rfl⟩ | ⟨rfl, rfl⟩ |
    ⟨rfl, rfl⟩ <;> exact ⟨rfl, rfl⟩

theorem piece_escape (c : Char) (rest : List Char) :
    Draft.piece (escape c ++ rest) = some (some (escape c), rest) := by
  cases written_escape c with
  | marked entry written =>
    rw [written]
    exact (marked_read entry rest).1
  | coded isCoded written =>
    have code := value?_code (of_decide_eq_true isCoded)
    rw [written]
    show (if (Hexadecimal.value? ['0', '0', Hexadecimal.digit (c.toNat / 16),
      Hexadecimal.digit (c.toNat % 16)]).isSome then _ else Reader.refuse :
        Reader (Option (List Char))) rest = _
    rw [code]
    rfl
  | plain unmarked uncoded written =>
    obtain ⟨notQuote, notBackslash, shown⟩ := of_plain unmarked uncoded
    have plain : ¬ c.toNat < 32 := by omega
    rw [written]
    show (if c = '\"' then _ else if c.toNat < 32 then _ else if c = '\\' then _ else _ :
      Reader (Option (List Char))) rest = _
    rw [if_neg notQuote, if_neg plain, if_neg notBackslash]
    rfl

theorem unescaped_escape (c : Char) (rest : List Char) :
    Draft.unescaped (escape c ++ rest) = (Draft.unescaped rest).map (c :: ·) := by
  cases written_escape c with
  | marked entry written =>
    rw [written]
    exact (marked_read entry rest).2
  | coded isCoded written =>
    have control : c.toNat < 32 := of_decide_eq_true isCoded
    have below : ¬ (0xD800 ≤ c.toNat ∧ c.toNat < 0xE000) := by omega
    rw [written]
    simp [Escaping.code, escaping, Draft.unescaped, value?_code control, below, Char.ofNat_toNat]
  | plain unmarked uncoded written =>
    obtain ⟨-, notBackslash, -⟩ := of_plain unmarked uncoded
    rw [written, List.singleton_append, Draft.unescaped]
    · exact fun _ _ _ _ _ same _ => notBackslash same
    · exact fun _ _ same _ => notBackslash same

/-- **A string is taken up to the quote that ends it.** -/
theorem stringBody_body (text : String) (rest : List Char) :
    Draft.stringBody (body text ++ '\"' :: rest) = some (body text, rest) := by
  have quote (rest : List Char) : Draft.piece ('\"' :: rest) = some (none, rest) := rfl
  have pieces := Reader.repeated_flatMap piece_escape quote
    (fun c => (written_escape c).ne_nil) text.toList rest
  show (Reader.repeated Draft.piece (body text ++ '\"' :: rest)).bind
    (fun (taken, rest) => some (taken.flatten, rest)) = _
  rw [body, pieces, Option.bind_some, List.flatMap_def]

/-- **A string is what its body means.** -/
theorem meaning?_body (text : String) : Draft.meaning? (body text) = some text := by
  have characters (list : List Char) : Draft.unescaped (list.flatMap escape) = some list := by
    induction list with
    | nil => rfl
    | cons c list ih => rw [List.flatMap_cons, unescaped_escape, ih, Option.map_some]
  rw [Draft.meaning?, body, characters, Option.map_some, String.ofList_toList]

theorem quoted_append (text : String) (rest : List Char) :
    quoted text ++ rest = '\"' :: (body text ++ '\"' :: rest) := by
  rw [quoted, List.cons_append, List.append_assoc, List.singleton_append, body]

theorem quoted_append_inj {text other : String} {rest rest' : List Char}
    (same : quoted text ++ rest = quoted other ++ rest') : text = other ∧ rest = rest' := by
  rw [quoted_append, quoted_append] at same
  have taken := stringBody_body text rest
  rw [(List.cons.inj same).2, stringBody_body, Option.some.injEq, Prod.mk.injEq] at taken
  obtain ⟨bodies, after⟩ := taken
  refine ⟨?_, after.symm⟩
  rw [← Option.some.injEq, ← meaning?_body, ← bodies, meaning?_body]

/-! ### Values without blanks -/

/-- The kinds of values. -/
inductive Kind where
  | null
  | boolean
  | integer
  | string
  | array
  | object

/-- The kind of a value. -/
def kind : Json → Kind
  | .null => .null
  | .boolean _ => .boolean
  | .integer _ => .integer
  | .string _ => .string
  | .array _ => .array
  | .object _ => .object

/-- The kind of the values whose texts start with a character. -/
def Kind.ofLead? (c : Char) : Option Kind :=
  if c.isDigit || c == '-' then some .integer
  else if c = 'n' then some .null
  else if c = 't' ∨ c = 'f' then some .boolean
  else if c = '\"' then some .string
  else if c = '[' then some .array
  else if c = '{' then some .object
  else none

theorem exists_lead (value : Json) :
    ∃ c text, value.compactChars = c :: text ∧ Kind.ofLead? c = some value.kind := by
  cases value with
  | null => exact ⟨_, _, rfl, rfl⟩
  | boolean value => cases value <;> exact ⟨_, _, rfl, rfl⟩
  | string value => exact ⟨_, _, rfl, rfl⟩
  | array items => exact ⟨_, _, rfl, rfl⟩
  | object members => exact ⟨_, _, rfl, rfl⟩
  | integer value =>
    rw [compactChars, Decimal.integer_toList]
    by_cases negative : value < 0
    · rw [if_pos negative]
      exact ⟨_, _, rfl, rfl⟩
    · obtain ⟨d, ds, split⟩ := List.exists_cons_of_ne_nil (Decimal.digits_ne_nil value.natAbs)
      have digit : d.isDigit = true := Decimal.isDigit_of_mem_digits (split ▸ List.mem_cons_self)
      refine ⟨d, ds, by rw [if_neg negative, split]; rfl, ?_⟩
      rw [Kind.ofLead?, digit]
      rfl

/-- Values whose texts start the same are of one kind. -/
theorem kind_eq {value other : Json} {rest rest' : List Char}
    (same : value.compactChars ++ rest = other.compactChars ++ rest') :
    value.kind = other.kind := by
  obtain ⟨c, text, written, lead⟩ := exists_lead value
  obtain ⟨c', text', written', lead'⟩ := exists_lead other
  rw [written, written'] at same
  rw [← Option.some.injEq, ← lead, ← lead', (List.cons.inj same).1]

/-- A member of an object without blanks. -/
def memberChars (member : String × Json) : List Char :=
  quoted member.1 ++ ':' :: member.2.compactChars

theorem head?_ne (value : Json) {mark : Char} (closes : Kind.ofLead? mark = none)
    (rest : List Char) : (value.compactChars ++ rest).head? ≠ some mark := by
  obtain ⟨c, text, written, lead⟩ := exists_lead value
  rw [written]
  rintro ⟨⟩
  cases closes.symm.trans lead

theorem compactItems_eq (items : List Json) :
    compactItems items = separated compactChars items := by
  fun_induction separated compactChars items with
  | case1 => rfl
  | case2 item => rfl
  | case3 item items others ih => rw [compactItems, ih]; exact others

theorem compactMembers_eq (members : List (String × Json)) :
    compactMembers members = separated memberChars members := by
  fun_induction separated memberChars members with
  | case1 => rfl
  | case2 member => rfl
  | case3 member members others ih =>
    rw [compactMembers, ih, memberChars, List.append_assoc, List.cons_append]
    exact others

theorem legible_member {member : String × Json} (value : Legible compactChars member.2) :
    Legible memberChars member := by
  intro other rest rest' stops stops' same
  simp only [memberChars, List.append_assoc, List.cons_append] at same
  obtain ⟨keys, after⟩ := quoted_append_inj same
  obtain ⟨values, remaining⟩ := value stops stops' (List.cons.inj after).2
  exact ⟨Prod.ext keys values, remaining⟩

/-- **The text of a value without blanks** tells the value and where it ends. -/
theorem legible (value : Json) : Legible compactChars value := by
  -- In each case the other value is of the same kind, as its text starts in the same way. A number
  -- is the only value that could go on with what follows it.
  induction value using Json.induction with
  | null =>
    intro other rest rest' _ _ same
    have kinds := kind_eq same
    cases other with
    | null => exact ⟨rfl, List.append_cancel_left same⟩
    | _ => cases kinds
  | boolean value =>
    intro other rest rest' _ _ same
    have kinds := kind_eq same
    cases other with
    | boolean other =>
      cases value <;> cases other
      · exact ⟨rfl, List.append_cancel_left same⟩
      · cases same
      · cases same
      · exact ⟨rfl, List.append_cancel_left same⟩
    | _ => cases kinds
  | integer value =>
    intro other rest rest' stops stops' same
    have kinds := kind_eq same
    cases other with
    | integer other =>
      obtain ⟨rfl, after⟩ := Decimal.integer_append_inj stops stops' same
      exact ⟨rfl, after⟩
    | _ => cases kinds
  | string value =>
    intro other rest rest' _ _ same
    have kinds := kind_eq same
    cases other with
    | string other =>
      obtain ⟨rfl, after⟩ := quoted_append_inj same
      exact ⟨rfl, after⟩
    | _ => cases kinds
  | array items ih =>
    intro other rest rest' _ _ same
    have kinds := kind_eq same
    cases other with
    | array items' =>
      have inner : separated compactChars items ++ ']' :: rest =
          separated compactChars items' ++ ']' :: rest' := by
        simpa [compactChars, compactItems_eq] using same
      obtain ⟨rfl, after⟩ :=
        separated_append_inj rfl (by decide) (fun item => head?_ne item rfl) ih inner
      exact ⟨rfl, after⟩
    | _ => cases kinds
  | object members ih =>
    intro other rest rest' _ _ same
    have kinds := kind_eq same
    cases other with
    | object members' =>
      have inner : separated memberChars members ++ '}' :: rest =
          separated memberChars members' ++ '}' :: rest' := by
        simpa [compactChars, compactMembers_eq] using same
      have starts (member : String × Json) (rest : List Char) :
          (memberChars member ++ rest).head? ≠ some '}' := by
        rw [memberChars, quoted]
        rintro ⟨⟩
      obtain ⟨rfl, after⟩ := separated_append_inj rfl (by decide) starts
        (fun member inside => legible_member (ih member inside)) inner
      exact ⟨rfl, after⟩
    | _ => cases kinds

theorem compact_injective : Function.Injective compact := by
  intro value other same
  have texts : value.compactChars ++ [] = other.compactChars ++ [] :=
    congrArg (· ++ []) (String.ofList_injective same)
  exact (legible value (stops_nil _) (stops_nil _) texts).1

/-! ### Values on several lines -/

/-- A text without the blanks and the ends of lines outside its strings. The first argument says
whether the text starts inside a string. -/
def squeeze : Bool → List Char → List Char
  | _, [] => []
  | true, '\\' :: c :: rest => '\\' :: c :: squeeze true rest
  | true, c :: rest => c :: squeeze (c != '\"') rest
  | false, c :: rest =>
    if c = ' ' ∨ c = '\n' then squeeze false rest else c :: squeeze (c == '\"') rest

theorem squeeze_inside {c : Char} (notBackslash : c ≠ '\\') (notQuote : c ≠ '\"')
    (rest : List Char) : squeeze true (c :: rest) = c :: squeeze true rest := by
  rw [squeeze, bne_iff_ne.mpr notQuote]
  exact fun _ _ backslash _ => notBackslash backslash

theorem squeeze_outside {c : Char} (notBlank : c ≠ ' ') (notEnd : c ≠ '\n') (notQuote : c ≠ '\"')
    (rest : List Char) : squeeze false (c :: rest) = c :: squeeze false rest := by
  rw [squeeze, if_neg (by simp [notBlank, notEnd]), beq_eq_false_iff_ne.mpr notQuote]

theorem squeeze_escape (c : Char) (rest : List Char) :
    squeeze true (escape c ++ rest) = escape c ++ squeeze true rest := by
  cases written_escape c with
  | marked _ written =>
    rw [written]
    rfl
  | coded isCoded written =>
    have digit : ∀ n < 16, Hexadecimal.digit n ≠ '\\' ∧ Hexadecimal.digit n ≠ '\"' := by decide
    have control : c.toNat < 32 := of_decide_eq_true isCoded
    have high := digit (c.toNat / 16) (by omega)
    have low := digit (c.toNat % 16) (by omega)
    have zero (rest : List Char) : squeeze true ('0' :: rest) = '0' :: squeeze true rest :=
      squeeze_inside (by decide) (by decide) rest
    rw [written]
    simp only [Escaping.code, escaping, List.cons_append, List.nil_append, squeeze, zero,
      squeeze_inside high.1 high.2, squeeze_inside low.1 low.2]
  | plain unmarked uncoded written =>
    obtain ⟨notQuote, notBackslash, -⟩ := of_plain unmarked uncoded
    rw [written]
    exact squeeze_inside notBackslash notQuote rest

theorem squeeze_quoted (text : String) (rest : List Char) :
    squeeze false (quoted text ++ rest) = quoted text ++ squeeze false rest := by
  have inside (list : List Char) :
      squeeze true (list.flatMap escape ++ '\"' :: rest) =
        list.flatMap escape ++ '\"' :: squeeze false rest := by
    induction list with
    | nil => rfl
    | cons c list ih =>
      rw [List.flatMap_cons, List.append_assoc, squeeze_escape, ih, List.append_assoc]
  rw [quoted_append, quoted_append]
  exact congrArg ('\"' :: ·) (inside text.toList)

theorem squeeze_append {text : List Char} (dense : ∀ c ∈ text, c ≠ ' ' ∧ c ≠ '\n' ∧ c ≠ '\"')
    (rest : List Char) : squeeze false (text ++ rest) = text ++ squeeze false rest := by
  induction text with
  | nil => rfl
  | cons c text ih =>
    obtain ⟨notBlank, notEnd, notQuote⟩ := dense c List.mem_cons_self
    rw [List.cons_append, squeeze_outside notBlank notEnd notQuote,
      ih fun d member => dense d (List.mem_cons_of_mem c member), List.cons_append]

theorem squeeze_newLine (level : Nat) (rest : List Char) :
    squeeze false (newLine level ++ rest) = squeeze false rest := by
  have blanks (count : Nat) : squeeze false (List.replicate count ' ' ++ rest) =
      squeeze false rest := by
    induction count with
    | zero => rfl
    | succ count ih => exact ih
  exact blanks (2 * level)

/-- Lists of items that are squeezed to other texts are squeezed to lists of these. -/
theorem squeeze_separated {Item : Type} {spaced dense : Item → List Char} {items : List Item}
    (inner : ∀ item ∈ items, ∀ rest,
      squeeze false (spaced item ++ rest) = dense item ++ squeeze false rest) (rest : List Char) :
    squeeze false (separated spaced items ++ rest) =
      separated dense items ++ squeeze false rest := by
  induction items with
  | nil => rfl
  | cons item items ih =>
    rw [separated_cons, separated_cons, List.append_assoc, inner item List.mem_cons_self,
      List.append_assoc]
    congr 1
    split
    · rfl
    · rw [List.cons_append, squeeze_outside (by decide) (by decide) (by decide),
        ih fun each member => inner each (List.mem_cons_of_mem item member), List.cons_append]

/-- An item on a line of its own. -/
def prettyItem (level : Nat) (item : Json) : List Char :=
  newLine level ++ item.prettyChars level

/-- A member on a line of its own. -/
def prettyMember (level : Nat) (member : String × Json) : List Char :=
  newLine level ++ quoted member.1 ++ ": ".toList ++ member.2.prettyChars level

theorem prettyItems_eq (level : Nat) (items : List Json) :
    prettyItems level items = separated (prettyItem level) items := by
  fun_induction separated (prettyItem level) items with
  | case1 => rfl
  | case2 item => rfl
  | case3 item items others ih =>
    rw [prettyItems, ih, prettyItem]
    exact others

theorem prettyMembers_eq (level : Nat) (members : List (String × Json)) :
    prettyMembers level members = separated (prettyMember level) members := by
  fun_induction separated (prettyMember level) members with
  | case1 => rfl
  | case2 member => rfl
  | case3 member members others ih =>
    rw [prettyMembers, ih, prettyMember]
    exact others

/-- **The text on several lines** without its blanks is the text without blanks. -/
theorem squeeze_prettyChars (value : Json) (level : Nat) (rest : List Char) :
    squeeze false (value.prettyChars level ++ rest) = value.compactChars ++ squeeze false rest := by
  -- Items stand one level deeper than their list, and something follows each of them, so the
  -- induction is over every level and every rest.
  induction value using Json.induction generalizing level rest with
  | null =>
    rw [prettyChars]
    exact squeeze_append (by simp) rest
  | boolean value =>
    rw [prettyChars]
    cases value <;> exact squeeze_append (by simp [booleanText]) rest
  | integer value =>
    rw [prettyChars]
    refine squeeze_append (fun c member => ?_) rest
    rcases Decimal.mem_integer member with rfl | digit
    · decide
    · refine ⟨?_, ?_, ?_⟩ <;> (rintro rfl; cases digit)
  | string value =>
    rw [prettyChars]
    exact squeeze_quoted value rest
  | array items ih =>
    cases items with
    | nil =>
      rw [prettyChars]
      exact squeeze_append (by simp) rest
    | cons item items =>
      have inner : ∀ each ∈ item :: items, ∀ rest,
          squeeze false (prettyItem (level + 1) each ++ rest) =
            each.compactChars ++ squeeze false rest := by
        intro each member rest
        rw [prettyItem, List.append_assoc, squeeze_newLine, ih each member]
      rw [prettyChars, compactChars, prettyItems_eq, compactItems_eq]
      simp only [List.cons_append, List.append_assoc, List.nil_append]
      rw [squeeze_outside (by decide) (by decide) (by decide), squeeze_separated inner,
        squeeze_newLine, squeeze_outside (by decide) (by decide) (by decide)]
  | object members ih =>
    cases members with
    | nil =>
      rw [prettyChars]
      exact squeeze_append (by simp) rest
    | cons member members =>
      have inner : ∀ each ∈ member :: members, ∀ rest,
          squeeze false (prettyMember (level + 1) each ++ rest) =
            memberChars each ++ squeeze false rest := by
        intro each inside rest
        have colon (rest : List Char) : squeeze false (": ".toList ++ rest) =
            ':' :: squeeze false rest := rfl
        simp only [prettyMember, memberChars, List.append_assoc, List.cons_append]
        rw [squeeze_newLine, squeeze_quoted, colon, ih each inside]
      rw [prettyChars, compactChars, prettyMembers_eq, compactMembers_eq]
      simp only [List.cons_append, List.append_assoc, List.nil_append]
      rw [squeeze_outside (by decide) (by decide) (by decide), squeeze_separated inner,
        squeeze_newLine, squeeze_outside (by decide) (by decide) (by decide)]

theorem pretty_injective : Function.Injective pretty := by
  intro value other same
  have texts := congrArg (squeeze false)
    (congrArg (· ++ []) (String.ofList_injective same))
  simp only [squeeze_prettyChars] at texts
  exact (legible value (stops_nil _) (stops_nil _) texts).1

end AsmTarget.Json
