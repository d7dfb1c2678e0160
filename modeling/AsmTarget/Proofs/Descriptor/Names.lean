/-
**Names tell what they name.**

Each closed set of cases has names, in triples, for readers or in structured data. A case is found
again by its name in the list of all cases, so no two cases share one.

* `injective_of_find?`: names under which each case is found;
* `Flavor.tag_injective` and those after it: the names in structured data;
* `Flavor.name_injective` and those after it: the names for readers and in triples;
* `Triple.text_injective`: **triples in their normal form**.
-/

import AsmTarget.Descriptor
import AsmTarget.Proofs.Text.Boundary
import Mathlib.Logic.Function.Basic

namespace AsmTarget

/-- Names are different when each case is the first one found under its own. -/
theorem injective_of_find? {Case : Type} {name : Case → String} (all : List Case)
    (found : ∀ one, all.find? (name · == name one) = some one) : Function.Injective name := by
  intro one other same
  have first := found one
  rw [same, found other, Option.some.injEq] at first
  exact first.symm

/-! ### Names in structured data -/

theorem Flavor.tag_injective : Function.Injective Flavor.tag :=
  injective_of_find? all (by rintro ⟨⟩ <;> rfl)

theorem ExceptionModel.tag_injective : Function.Injective ExceptionModel.tag :=
  injective_of_find? [none, dwarfCfi] (by rintro ⟨⟩ <;> rfl)

theorem Dialect.tag_injective : Function.Injective Dialect.tag :=
  injective_of_find? all (by rintro ⟨⟩ <;> rfl)

theorem Architecture.tag_injective : Function.Injective Architecture.tag :=
  injective_of_find? all (by rintro ⟨⟩ <;> rfl)

theorem Vendor.name_injective : Function.Injective Vendor.name :=
  injective_of_find? all (by rintro ⟨⟩ <;> rfl)

theorem Vendor.tag_injective : Function.Injective Vendor.tag :=
  Vendor.name_injective

theorem OperatingSystem.tag_injective : Function.Injective OperatingSystem.tag :=
  injective_of_find? all (by rintro ⟨⟩ <;> rfl)

theorem Environment.tag_injective : Function.Injective Environment.tag :=
  injective_of_find? all (by rintro ⟨⟩ <;> rfl)

theorem Triple.eq_iff_tags {triple other : Triple} :
    triple = other ↔ triple.architecture.tag = other.architecture.tag ∧
      triple.vendor.tag = other.vendor.tag ∧ triple.system.tag = other.system.tag ∧
      triple.environment.tag = other.environment.tag := by
  rw [Architecture.tag_injective.eq_iff, Vendor.tag_injective.eq_iff,
    OperatingSystem.tag_injective.eq_iff, Environment.tag_injective.eq_iff]
  cases triple
  cases other
  rw [mk.injEq]

/-! ### Names for readers and in triples -/

theorem Flavor.name_injective : Function.Injective Flavor.name :=
  injective_of_find? all (by rintro ⟨⟩ <;> rfl)

theorem Dialect.name_injective : Function.Injective Dialect.name :=
  injective_of_find? all Dialect.ofName?_name

theorem Architecture.name_injective : Function.Injective Architecture.name :=
  injective_of_find? all (by rintro ⟨⟩ <;> rfl)

theorem OperatingSystem.name_injective : Function.Injective OperatingSystem.name :=
  injective_of_find? all (by rintro ⟨⟩ <;> rfl)

theorem Environment.name_injective : Function.Injective Environment.name :=
  injective_of_find? all (by rintro ⟨⟩ <;> rfl)

/-! ### Triples in their normal form -/

open Text

/-- What an environment adds to the normal form of a triple. -/
def Environment.ending (environment : Environment) : String :=
  if environment = .unknown then "" else "-" ++ environment.name

theorem Environment.ending_injective : Function.Injective ending :=
  injective_of_find? all (by rintro ⟨⟩ <;> rfl)

theorem Environment.stops_ending (environment : Environment) :
    Stops (· != '-') environment.ending.toList := by
  by_cases unknown : environment = .unknown
  · rw [ending, if_pos unknown]
    exact stops_nil _
  · have mark : Stops (· != '-') ('-' :: environment.name.toList) := stops_cons (by decide) _
    rw [ending, if_neg unknown, String.toList_append]
    exact mark

/-- **The normal form tells the triple**: no name has a mark in it, so the marks between the names
are found again, and an environment is left out only when it is unknown. -/
theorem Triple.text_injective : Function.Injective text := by
  intro triple other same
  have written (triple : Triple) : triple.text.toList =
      triple.architecture.name.toList ++ '-' :: (triple.vendor.name.toList ++ '-' ::
        (triple.system.name.toList ++ triple.environment.ending.toList)) := by
    simp [text, Environment.ending]
  have architectures (one : Architecture) : '-' ∉ one.name.toList := by cases one <;> decide
  have vendors (one : Vendor) : '-' ∉ one.name.toList := by cases one <;> decide
  have systems (one : OperatingSystem) : ∀ c ∈ one.name.toList, (c != '-') = true :=
    List.all_eq_true.mp (by cases one <;> decide)
  replace same := congrArg String.toList same
  rw [written, written] at same
  obtain ⟨first, same⟩ := append_mark_inj (architectures _) (architectures _) same
  obtain ⟨second, same⟩ := append_mark_inj (vendors _) (vendors _) same
  obtain ⟨third, fourth⟩ := span_append_inj (systems _) (systems _)
    triple.environment.stops_ending other.environment.stops_ending same
  cases triple
  cases other
  rw [mk.injEq]
  exact ⟨Architecture.name_injective (String.toList_injective first),
    Vendor.name_injective (String.toList_injective second),
    OperatingSystem.name_injective (String.toList_injective third),
    Environment.ending_injective (String.toList_injective fourth)⟩

end AsmTarget
