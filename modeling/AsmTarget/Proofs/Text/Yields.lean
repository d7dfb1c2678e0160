/-
**What the values of a reader have in common.**

A property of whatever a reader answers with, whatever the text is, follows the way the reader is
put together.

* `Reader.Yields`: every value that a reader answers with has a property;
* `Reader.Yields.bind`, `Reader.yields_then`: one reader after another;
* `Reader.Yields.repeated`, `Reader.Yields.separated`: **lists**, from their items;
* `Reader.Yields.whole`: the value of a whole text.
-/

import AsmTarget.Text.Reader

namespace AsmTarget.Text.Reader

variable {Value Other : Type} {property : Value → Prop} {other : Other → Prop}

/-- Every value that a reader answers with has a property. -/
def Yields (reader : Reader Value) (property : Value → Prop) : Prop :=
  ∀ ⦃text : List Char⦄ ⦃value : Value⦄ ⦃rest : List Char⦄,
    reader text = some (value, rest) → property value

theorem yields_pure {value : Value} (holds : property value) : Yields (pure value) property := by
  rintro text _ rest ⟨⟩
  exact holds

theorem yields_refuse : Yields refuse property :=
  nofun

theorem yields_elim {value? : Option Value} (holds : ∀ value ∈ value?, property value) :
    Yields (value?.elim refuse pure) property := by
  cases value? with
  | none => exact yields_refuse
  | some value => exact yields_pure (holds value rfl)

theorem Yields.bind {first : Reader Other} {next : Other → Reader Value}
    (before : first.Yields other) (after : ∀ value, other value → (next value).Yields property) :
    (first >>= next).Yields property := by
  intro text value rest read
  obtain ⟨⟨taken, middle⟩, readFirst, readNext⟩ := Option.bind_eq_some_iff.mp read
  exact after taken (before readFirst) readNext

/-- A property that does not depend on what the first of two readers takes. -/
theorem yields_then {first : Reader Other} {next : Other → Reader Value}
    (after : ∀ value, (next value).Yields property) : (first >>= next).Yields property := by
  have taken : first.Yields fun _ => True := fun _ _ _ _ => trivial
  exact taken.bind fun value _ => after value

/-! ### Lists -/

theorem Yields.repeatedWithin {step : Reader (Option Value)}
    (each : step.Yields fun value? => ∀ value ∈ value?, property value) (limit : Nat) :
    (repeatedWithin step limit).Yields fun values => ∀ value ∈ values, property value := by
  induction limit with
  | zero => exact yields_refuse
  | succ limit others =>
    refine each.bind fun value? holds => ?_
    cases value? with
    | none => exact yields_pure nofun
    | some value =>
      refine others.bind fun values hold => yields_pure ?_
      exact List.forall_mem_cons.mpr ⟨holds value rfl, hold⟩

theorem Yields.repeated {step : Reader (Option Value)}
    (each : step.Yields fun value? => ∀ value ∈ value?, property value) :
    (repeated step).Yields fun values => ∀ value ∈ values, property value := by
  intro text values rest read
  exact each.repeatedWithin (text.length + 1) read

theorem Yields.separated {item : Reader Value} (each : item.Yields property) (gap : Reader Unit)
    (close : Char) (trailing : Bool) :
    (separated item gap close trailing).Yields fun values => ∀ value ∈ values, property value := by
  have more : Yields (some <$> item) fun value? => ∀ value ∈ value?, property value := by
    refine each.bind fun value holds => yields_pure ?_
    rintro _ ⟨⟩
    exact holds
  refine yields_then fun _ => yields_then fun closed => ?_
  split
  · exact yields_pure nofun
  · refine each.bind fun first holds => Yields.bind (Yields.repeated ?_) fun others hold =>
      yields_pure (List.forall_mem_cons.mpr ⟨holds, hold⟩)
    refine yields_then fun _ => yields_then fun closed => ?_
    split
    · exact yields_pure nofun
    · refine yields_then fun _ => yields_then fun _ => ?_
      split
      · refine yields_then fun closed => ?_
        split
        · exact yields_pure nofun
        · exact more
      · exact more

theorem Yields.whole {reader : Reader Value} (each : reader.Yields property) {text : List Char}
    {value : Value} (read : whole reader text = some value) : property value := by
  unfold Reader.whole at read
  split at read
  · next answer =>
    cases read
    exact each answer
  · cases read

end AsmTarget.Text.Reader
