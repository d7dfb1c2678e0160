/-
**What a path leads to, whatever else is in the directory.**

A path that starts in a directory can leave it by those of its entries only that a part of the path
names. Below such an entry and outside of the directory two walks see the same, and so the entries
that no part names do not matter.

* `FileTree.child?`: the entry of a name;
* `FileTree.Beside`: two places that one path leads to, from two directories;
* `FileTree.look_congr`: **two directories** that agree on the entries named by the parts of a path;
* `FileTree.child?_insertAt`: what a new entry leaves as it was.
-/

import AsmTarget.FileTree
import Mathlib.Tactic.SplitIfs

namespace AsmTarget.FileTree

/-- The entry of a name, which only a directory has. -/
def child? : FileTree → String → Option FileTree
  | .directory entries, name => (entries.find? (·.1 == name)).map (·.2)
  | .file _, _ => none

/-- One part of a path, from a directory. -/
theorem step_directory (entries : List (String × FileTree)) (around : List FileTree)
    (part : String) : Place.step (.inside (directory entries) around) part =
      if stays part then some (.inside (directory entries) around)
      else if part = ".." then
        match around with
        | [] => some (.outside 0)
        | nearest :: others => some (.inside nearest others)
      else ((directory entries).child? part).map (.inside · (directory entries :: around)) := by
  unfold Place.step child?
  rw [Option.map_map]
  rfl

/-! ### Two walks along one path -/

/-- Two places that one path has led to, from two directories: the directories themselves, the same
node below them, or the same place outside. -/
inductive Beside (first second : List (String × FileTree)) : Place → Place → Prop where
  | start : Beside first second (.inside (.directory first) []) (.inside (.directory second) [])
  | below (node : FileTree) (around : List FileTree) :
    Beside first second (.inside node (around ++ [.directory first]))
      (.inside node (around ++ [.directory second]))
  | outside (steps : Nat) : Beside first second (.outside steps) (.outside steps)

/-- What two optional places have in common: both are there and beside each other, or neither is
there. -/
inductive BothBeside (first second : List (String × FileTree)) :
    Option Place → Option Place → Prop where
  | nowhere : BothBeside first second none none
  | places {one other : Place} (beside : Beside first second one other) :
    BothBeside first second (some one) (some other)

variable {first second : List (String × FileTree)}

theorem Beside.entry_eq {one other : Place} (beside : Beside first second one other) :
    one.entry = other.entry := by
  cases beside with
  | start => rfl
  | below node around => cases node <;> rfl
  | outside steps => rfl

/-- **One part of the path.** Only from the directories themselves does it matter what they hold. -/
theorem Beside.step {one other : Place} (beside : Beside first second one other) {part : String}
    (agree : (directory first).child? part = (directory second).child? part) :
    BothBeside first second (one.step part) (other.step part) := by
  cases beside with
  | start =>
    rw [step_directory, step_directory, agree]
    split_ifs
    · exact .places .start
    · exact .places (.outside 0)
    · cases (directory second).child? part with
      | none => exact .nowhere
      | some node => exact .places (.below node [])
  | below node around =>
    cases node with
    | file contents => exact .nowhere
    | directory entries =>
      rw [step_directory, step_directory]
      split_ifs
      · exact .places (.below _ around)
      · cases around with
        | nil => exact .places .start
        | cons nearest others => exact .places (.below nearest others)
      · cases (directory entries).child? part with
        | none => exact .nowhere
        | some inner => exact .places (.below inner (directory entries :: around))
  | outside steps =>
    unfold Place.step
    split_ifs
    · exact .places (.outside steps)
    · exact .places (.outside (steps + 1))
    · exact .nowhere

/-- **All parts of the path.** -/
theorem Beside.walk {path : List String} {one other : Place}
    (beside : Beside first second one other)
    (agree : ∀ part ∈ path, (directory first).child? part = (directory second).child? part) :
    BothBeside first second (path.foldlM Place.step one) (path.foldlM Place.step other) := by
  induction path generalizing one other with
  | nil => exact .places beside
  | cons part path walk =>
    rw [List.foldlM_cons, List.foldlM_cons]
    have stepped := beside.step (agree part List.mem_cons_self)
    cases here : one.step part <;> cases there : other.step part <;> rw [here, there] at stepped <;>
      cases stepped
    · exact .nowhere
    · next beside => exact walk beside fun part member => agree part (List.mem_cons_of_mem _ member)

/-- **Two directories** in which a path leads to the same. -/
theorem look_congr {path : String}
    (agree : ∀ part ∈ parts path, (directory first).child? part = (directory second).child? part) :
    (directory first).look path = (directory second).look path := by
  have walked := Beside.walk .start agree
  unfold look
  split_ifs with short absolute
  · rfl
  · dsimp only
    generalize (parts path).foldlM Place.step (.inside (directory first) []) = one at walked ⊢
    generalize (parts path).foldlM Place.step (.inside (directory second) []) = other at walked ⊢
    cases walked with
    | nowhere => rfl
    | places beside => exact beside.entry_eq
  · rfl

/-! ### A new entry -/

/-- A directory with a node at a name is a directory in which all other names have what they had. -/
theorem child?_insertAt (entries : List (String × FileTree)) (name : String) (node : FileTree) :
    ∃ changed, insertAt node [name] (directory entries) = directory changed ∧
      ∀ other, other ≠ name →
        (directory changed).child? other = (directory entries).child? other := by
  rw [insertAt]
  cases entries.find? (·.1 == name) with
  | none =>
    refine ⟨_, rfl, fun other apart => ?_⟩
    have new : (name == other) = false := beq_false_of_ne apart.symm
    simp [child?, List.find?_append, new]
  | some known =>
    let changed (entry : String × FileTree) : String × FileTree :=
      if entry.1 == name then (name, insertAt node [] known.2) else entry
    have sameName (entry : String × FileTree) : (changed entry).1 = entry.1 := by
      by_cases here : entry.1 = name <;> simp [changed, here]
    refine ⟨entries.map changed, rfl, fun other apart => ?_⟩
    rw [child?, child?, List.find?_map]
    simp only [Function.comp_def, sameName]
    cases found : entries.find? (·.1 == other) with
    | none => rfl
    | some entry =>
      have named : entry.1 = other := by simpa using List.find?_some found
      have kept : entry.1 ≠ name := named ▸ apart
      simp [changed, kept]

end AsmTarget.FileTree
