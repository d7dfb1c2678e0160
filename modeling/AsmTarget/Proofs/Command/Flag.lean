/-
**The option for the dialect.**

The option has a word as its value, after an equals sign or as the next argument, and makes sense of
the word only when it names a dialect. It means the same before the command and after it.

* `Argument.ofText_dialect`: the argument that is the option with its value;
* `Options.take?_dialect`, `Options.take?_dialect_next`: the option on either side of the command,
  in either spelling;
* `Request.read?_dialect`: **a command line that starts with the option**.
-/

import AsmTarget.Command.Line

namespace AsmTarget

/-- The name of the option, without its dashes. -/
def dialectOption : String := "x86-asm-syntax"

namespace Argument

theorem eq_of_ofText {text word : String} (plain : ofText text = .word word) : word = text := by
  unfold ofText at plain
  split at plain
  · cases plain
  · split at plain <;> cases plain
  · cases plain
  · exact (Argument.word.inj plain).symm

theorem ofText_name (dialect : Dialect) : ofText dialect.name = .word dialect.name := by
  cases dialect <;> rfl

theorem ofText_dialect (word : String) :
    ofText ("--" ++ dialectOption ++ "=" ++ word) = .option dialectOption (some word) := by
  have letters : ("--" ++ dialectOption ++ "=" ++ word).toList =
      '-' :: '-' :: ("x86-asm-syntax".toList ++ '=' :: word.toList) := by
    simp [dialectOption]
  rw [ofText, letters]
  show option (String.ofList "x86-asm-syntax".toList) (some (String.ofList word.toList)) = _
  rw [String.ofList_toList, String.ofList_toList]
  rfl

end Argument

namespace Options

variable {options : Options}

theorem add?_dialect (left : options.dialect = none) (hasFormat : Bool) (word : String) :
    options.add? hasFormat dialectOption word =
      (Dialect.ofName? word).map fun dialect => { options with dialect := some dialect } := by
  rw [add?, left, if_pos ⟨rfl, rfl⟩]

theorem take?_dialect (left : options.dialect = none) (hasFormat : Bool) (word : String)
    (rest : List String) :
    options.take? hasFormat dialectOption (some word) rest =
      (Dialect.ofName? word).map fun dialect =>
        ({ options with dialect := some dialect }, rest) := by
  rw [take?, add?_dialect left, Option.map_map]
  rfl

/-- The value may as well be the next argument: what does not look like a word names no dialect. -/
theorem take?_dialect_next (left : options.dialect = none) (hasFormat : Bool) (word : String)
    (rest : List String) :
    options.take? hasFormat dialectOption none (word :: rest) =
      options.take? hasFormat dialectOption (some word) rest := by
  rw [take?_dialect left]
  cases found : Dialect.ofName? word with
  | some dialect =>
    obtain rfl : word = dialect.name := Dialect.ofName?_eq_some_iff.mp found
    rw [take?, Argument.ofText_name]
    show (options.add? hasFormat dialectOption dialect.name).map _ = _
    rw [add?_dialect left, found]
    rfl
  | none =>
    rw [take?]
    split
    · next value plain =>
      rw [Argument.eq_of_ofText plain, add?_dialect left, found]
      rfl
    · rfl

end Options

namespace Request

theorem readAfter?_option {options : Options} {argument key : String} {value : Option String}
    {rest : List String} (named : Argument.ofText argument = .option key value)
    (notVersion : key ≠ "version") :
    readAfter? options (argument :: rest) =
      (options.take? false key value rest).bind fun (next, left) => readAfter? next left := by
  rw [readAfter?]
  split
  · next other => cases named.symm.trans other
  · next other => cases named.symm.trans other
  · next other => cases named.symm.trans other
  · next same =>
    cases named.symm.trans same
    rw [if_neg fun both => notVersion both.1]
    split <;> next taken => rw [taken]; rfl

theorem read?_dialect (word : String) (arguments : List String) :
    read? (("--" ++ dialectOption ++ "=" ++ word) :: arguments) =
      (Dialect.ofName? word).bind fun dialect =>
        readAfter? { dialect := some dialect } arguments := by
  rw [read?, readAfter?_option (Argument.ofText_dialect word) (by decide),
    Options.take?_dialect rfl]
  cases Dialect.ofName? word <;> rfl

end Request

end AsmTarget
