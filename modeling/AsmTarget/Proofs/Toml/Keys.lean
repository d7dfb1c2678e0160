/-
**No table of a document has a key twice.**

Statements build a document step by step, and every step that would give a table a second entry for
a key is refused. So whatever a step changes, and however deep, the tables keep their keys apart.

* `Toml.Distinct`, `Toml.Node.Distinct`: no table within a value, or within a part of a document
  under construction, has a key twice;
* `Toml.Node.Keeps`: a change of a table that keeps keys apart;
* `Toml.Node.keeps_change`: **one change**, wherever it takes place;
* `Toml.distinct_ofStatements?`, `Toml.distinct_ofPairs?`: **all statements** of a document, and all
  pairs of an inline table;
* `Toml.distinct_read?`: **the document in a text**.
-/

import AsmTarget.Proofs.Text.Yields
import AsmTarget.Toml.Reading
import Mathlib.Data.List.Nodup

namespace AsmTarget.Toml

/-- No table within the value has a key twice. -/
inductive Distinct : Toml → Prop where
  | string (value : String) : Distinct (.string value)
  | integer (value : Int) : Distinct (.integer value)
  | float (written : String) : Distinct (.float written)
  | boolean (value : Bool) : Distinct (.boolean value)
  | dateTime (written : String) : Distinct (.dateTime written)
  | array {items : List Toml} (inside : ∀ item ∈ items, Distinct item) : Distinct (.array items)
  | table {entries : List (String × Toml)} (apart : (entries.map (·.1)).Nodup)
    (inside : ∀ entry ∈ entries, Distinct entry.2) : Distinct (.table entries)

namespace Node

/-- No table within the part of a document has a key twice. -/
inductive Distinct : Node → Prop where
  | leaf {value : Toml} (inside : value.Distinct) : Distinct (.leaf value)
  | table {origin : Origin} {entries : List (String × Node)} (apart : (entries.map (·.1)).Nodup)
    (inside : ∀ entry ∈ entries, Distinct entry.2) : Distinct (.table origin entries)
  | series {elements : List Node} (inside : ∀ element ∈ elements, Distinct element) :
    Distinct (.series elements)

theorem finishedEntries_eq (entries : List (String × Node)) :
    finishedEntries entries = entries.map fun entry => (entry.1, entry.2.finished) := by
  induction entries with
  | nil => rfl
  | cons entry entries same => rw [finishedEntries, same, List.map_cons]

theorem finishedAll_eq (nodes : List Node) : finishedAll nodes = nodes.map finished := by
  induction nodes with
  | nil => rfl
  | cons node nodes same => rw [finishedAll, same, List.map_cons]

/-- The value of a part has its tables. -/
theorem Distinct.finished {node : Node} (distinct : node.Distinct) : node.finished.Distinct := by
  induction distinct with
  | leaf inside => exact inside
  | table apart _ finished =>
    rw [Node.finished, finishedEntries_eq]
    refine .table (by simpa [List.map_map, Function.comp_def] using apart) fun entry member => ?_
    obtain ⟨part, held, rfl⟩ := List.mem_map.mp member
    exact finished part held
  | series _ finished =>
    rw [Node.finished, finishedAll_eq]
    refine .array fun item member => ?_
    obtain ⟨part, held, rfl⟩ := List.mem_map.mp member
    exact finished part held

theorem Distinct.empty (origin : Origin) : Distinct (.table origin []) :=
  .table List.nodup_nil nofun

theorem Distinct.series_append {elements : List Node} {last : Node}
    (inside : ∀ element ∈ elements, element.Distinct) (distinct : last.Distinct) :
    Distinct (.series (elements ++ [last])) := by
  refine .series fun element member => ?_
  rcases List.mem_append.mp member with held | here
  · exact inside element held
  · exact List.mem_singleton.mp here ▸ distinct

/-! ### Entries of a table -/

variable {origin : Origin} {entries : List (String × Node)} {key : String} {node : Node}

theorem mem_of_child? (found : child? entries key = some node) : (key, node) ∈ entries := by
  obtain ⟨entry, first, rfl⟩ := Option.map_eq_some_iff.mp found
  have named : entry.1 = key := by simpa using List.find?_some first
  rw [← named]
  exact List.mem_of_find?_eq_some first

theorem not_mem_of_child?_eq_none (new : child? entries key = none) :
    key ∉ entries.map (·.1) := by
  rw [child?, Option.map_eq_none_iff, List.find?_eq_none] at new
  intro member
  obtain ⟨entry, held, rfl⟩ := List.mem_map.mp member
  exact new entry held (beq_self_eq_true _)

theorem Distinct.child (distinct : Distinct (.table origin entries))
    (found : child? entries key = some node) : node.Distinct := by
  cases distinct with
  | table _ inside => exact inside _ (mem_of_child? found)

/-- A table with an entry for a key that it does not have. -/
theorem Distinct.add (distinct : Distinct (.table origin entries)) (new : key ∉ entries.map (·.1))
    (added : node.Distinct) : Distinct (.table origin (entries ++ [(key, node)])) := by
  cases distinct with
  | table apart inside =>
    refine .table ?_ fun entry member => ?_
    · rw [List.map_append, List.map_singleton]
      exact List.nodup_append_comm.mp (List.nodup_cons.mpr ⟨new, apart⟩)
    · rcases List.mem_append.mp member with held | last
      · exact inside entry held
      · rw [List.mem_singleton.mp last]
        exact added

/-- A table with another entry at the place of a key. -/
theorem Distinct.replace (distinct : Distinct (.table origin entries)) (changed : node.Distinct) :
    Distinct (.table origin (replaced entries key node)) := by
  cases distinct with
  | table apart inside =>
    have keys : (replaced entries key node).map (·.1) = entries.map (·.1) := by
      rw [replaced, List.map_map]
      refine List.map_congr_left fun entry _ => ?_
      by_cases here : entry.1 = key <;> simp [here]
    refine .table (keys ▸ apart) fun entry member => ?_
    obtain ⟨before, held, rfl⟩ := List.mem_map.mp member
    split_ifs
    · exact changed
    · exact inside before held

/-- A table without some of its entries. -/
theorem Distinct.filter (distinct : Distinct (.table origin entries))
    {keep : String × Node → Bool} : Distinct (.table origin (entries.filter keep)) := by
  cases distinct with
  | table apart inside =>
    refine .table (apart.sublist (List.filter_sublist.map _)) fun entry member => ?_
    exact inside entry (List.mem_of_mem_filter member)

/-! ### Changes that keep keys apart -/

/-- A part of a document that is a table. -/
def IsTable (node : Node) : Prop :=
  ∃ origin entries, node = .table origin entries

/-- A change that makes a table of what it does not refuse, and keeps keys apart. -/
def Keeps (after : Node → Option Node) : Prop :=
  ∀ {node next : Node}, node.Distinct → after node = some next → next.Distinct ∧ next.IsTable

theorem keeps_assigned (key : String) {value : Toml} (inside : value.Distinct) (byDots : Bool) :
    Keeps (assigned key value byDots) := by
  intro node next distinct done
  cases node with
  | leaf | series => cases done
  | table origin entries =>
    rw [assigned] at done
    split_ifs at done with refused
    cases done
    simp only [Bool.or_eq_true, not_or, Bool.not_eq_true, Option.isSome_eq_false_iff,
      Option.isNone_iff_eq_none] at refused
    exact ⟨distinct.add (not_mem_of_child?_eq_none refused.1) (.leaf inside), _, _, rfl⟩

theorem keeps_opened (key : String) : Keeps (opened key) := by
  intro node next distinct done
  cases node with
  | leaf | series => cases done
  | table origin entries =>
    rw [opened] at done
    split at done
    · next new =>
      cases done
      exact ⟨distinct.add (not_mem_of_child?_eq_none new) (.empty _), _, _, rfl⟩
    · next contents found =>
      -- The table moves to the end, so its key is new to the others.
      cases done
      have moved : key ∉ (entries.filter (·.1 != key)).map (·.1) := by
        intro member
        obtain ⟨entry, kept, same⟩ := List.mem_map.mp member
        simp [List.mem_filter, same] at kept
      cases distinct.child found with
      | table apart inside => exact ⟨distinct.filter.add moved (.table apart inside), _, _, rfl⟩
    · cases done

theorem keeps_extended (key : String) : Keeps (extended key) := by
  intro node next distinct done
  cases node with
  | leaf | series => cases done
  | table origin entries =>
    rw [extended] at done
    split at done
    · next new =>
      cases done
      refine ⟨distinct.add (not_mem_of_child?_eq_none new) (.series ?_), _, _, rfl⟩
      exact List.forall_mem_singleton.mpr (.empty _)
    · next elements found =>
      cases done
      cases distinct.child found with
      | series inside => exact ⟨distinct.replace (.series_append inside (.empty _)), _, _, rfl⟩
    · cases done

/-- **A change at the end of a path** keeps keys apart on the whole way there. -/
theorem keeps_change {after : Node → Option Node} (keeps : Keeps after) (byDots : Bool)
    (path : List String) : Keeps (change byDots after path) := by
  induction path with
  | nil => exact keeps
  | cons key path inner =>
    intro node next distinct done
    cases node with
    | leaf | series => cases done
    | table origin entries =>
      -- What is below the key is changed by the rest of the path: a table made for it, the one
      -- that is there, or the last element of an array of tables.
      rw [change] at done
      split at done
      · next new =>
        obtain ⟨made, below, result⟩ := Option.bind_eq_some_iff.mp done
        cases result
        have distinctMade := (inner (.empty _) below).1
        exact ⟨distinct.add (not_mem_of_child?_eq_none new) distinctMade, _, _, rfl⟩
      · next origin contents found =>
        split_ifs at done
        · cases done
        · obtain ⟨changed, below, result⟩ := Option.bind_eq_some_iff.mp done
          cases result
          exact ⟨distinct.replace (inner (distinct.child found) below).1, _, _, rfl⟩
      · next elements found =>
        obtain ⟨last, isLast, done⟩ := Option.bind_eq_some_iff.mp done
        obtain ⟨changed, below, result⟩ := Option.bind_eq_some_iff.mp done
        cases result
        cases distinct.child found with
        | series inside =>
          have distinctChanged := (inner (inside last (List.mem_of_getLast? isLast)) below).1
          refine ⟨distinct.replace (.series_append (fun element member => ?_) distinctChanged),
            _, _, rfl⟩
          exact inside element (List.dropLast_subset elements member)
      · cases done

theorem keeps_put (path : Path) {value : Toml} (inside : value.Distinct) :
    Keeps (put path value) :=
  keeps_change (keeps_assigned path.key inside _) true path.parents

/-- **All pairs** of an inline table. -/
theorem puts_keep {pairs : List (Path × Toml)} {node last : Node} (distinct : node.Distinct)
    (inside : ∀ pair ∈ pairs, pair.2.Distinct)
    (done : pairs.foldlM (fun (node : Node) (path, value) => node.put path value) node =
      some last) : last.Distinct := by
  induction pairs generalizing node with
  | nil =>
    cases done
    exact distinct
  | cons pair pairs others =>
    obtain ⟨next, first, rest⟩ := Option.bind_eq_some_iff.mp done
    have distinctNext := (keeps_put pair.1 (inside _ List.mem_cons_self) distinct first).1
    exact others distinctNext (fun other member => inside other (List.mem_cons_of_mem _ member))
      rest

/-! ### Whole documents -/

/-- The value that a statement assigns, if it assigns one, keeps keys apart. -/
def AssignsDistinct : Statement → Prop
  | .assignment _ value => value.Distinct
  | .header _ | .element _ => True

/-- **One statement.** -/
theorem step_keeps {node next : Node} {current after : List String} {statement : Statement}
    (distinct : node.Distinct) (assigns : AssignsDistinct statement)
    (done : step (node, current) statement = some (next, after)) :
    next.Distinct ∧ next.IsTable := by
  cases statement with
  | assignment path value =>
    obtain ⟨changed, below, result⟩ := Option.bind_eq_some_iff.mp done
    cases result
    exact keeps_change (keeps_put path assigns) false current distinct below
  | header path =>
    obtain ⟨changed, below, result⟩ := Option.bind_eq_some_iff.mp done
    cases result
    exact keeps_change (keeps_opened path.key) false path.parents distinct below
  | element path =>
    obtain ⟨changed, below, result⟩ := Option.bind_eq_some_iff.mp done
    cases result
    exact keeps_change (keeps_extended path.key) false path.parents distinct below

/-- **All statements.** -/
theorem steps_keep {statements : List Statement} {node last : Node} {current after : List String}
    (distinct : node.Distinct) (isTable : node.IsTable)
    (assign : ∀ statement ∈ statements, AssignsDistinct statement)
    (done : statements.foldlM step (node, current) = some (last, after)) :
    last.Distinct ∧ last.IsTable := by
  induction statements generalizing node current with
  | nil =>
    cases done
    exact ⟨distinct, isTable⟩
  | cons statement statements steps =>
    obtain ⟨⟨next, place⟩, first, others⟩ := Option.bind_eq_some_iff.mp done
    obtain ⟨distinctNext, nextIsTable⟩ := step_keeps distinct (assign _ List.mem_cons_self) first
    exact steps distinctNext nextIsTable
      (fun other member => assign other (List.mem_cons_of_mem _ member)) others

end Node

theorem distinct_ofStatements? {statements : List Statement} {document : Toml}
    (assign : ∀ statement ∈ statements, Node.AssignsDistinct statement)
    (built : ofStatements? statements = some document) :
    document.Distinct ∧ ∃ entries, document = .table entries := by
  obtain ⟨⟨node, place⟩, done, rfl⟩ := Option.map_eq_some_iff.mp built
  obtain ⟨distinct, origin, entries, rfl⟩ :=
    Node.steps_keep (.empty _) ⟨_, _, rfl⟩ assign done
  exact ⟨distinct.finished, _, rfl⟩

theorem distinct_ofPairs? {pairs : List (Path × Toml)} {value : Toml}
    (inside : ∀ pair ∈ pairs, pair.2.Distinct) (built : ofPairs? pairs = some value) :
    value.Distinct := by
  obtain ⟨node, done, rfl⟩ := Option.map_eq_some_iff.mp built
  exact (Node.puts_keep (.empty _) inside done).finished

/-! ### Documents as they are read -/

theorem distinct_scalar {run : List Char} {value : Toml}
    (found : Scalar.ofRun? run = some value) : value.Distinct := by
  unfold Scalar.ofRun? at found
  split_ifs at found
  · cases found; exact .boolean true
  · cases found; exact .boolean false
  · cases found; exact .dateTime _
  · cases found; exact .float _
  · obtain ⟨number, -, rfl⟩ := Option.map_eq_some_iff.mp found
    exact .integer number

namespace Reading

open Text.Reader

theorem scalar_yields : Scalar.reader.Yields Distinct := by
  refine yields_then fun run => yields_then fun text => ?_
  dsimp only
  split_ifs
  · exact yields_then fun _ => yields_elim fun _ => distinct_scalar
  · exact yields_elim fun _ => distinct_scalar

theorem simple_yields : simple.Yields Distinct := by
  refine yields_then fun ahead => ?_
  split
  · exact yields_then fun text => yields_pure (.string text)
  · exact yields_then fun text => yields_pure (.string text)
  · exact scalar_yields

theorem pair_yields {value : Text.Reader Toml} (distinct : value.Yields Distinct) :
    (pair value).Yields fun found => found.2.Distinct := by
  refine yields_then fun path => yields_then fun _ => yields_then fun _ => ?_
  exact distinct.bind fun _ inside => yields_pure inside

/-- **Values**, by the limit on their nesting. -/
theorem value_yields (limit : Nat) : (value limit).Yields Distinct := by
  induction limit with
  | zero => exact simple_yields
  | succ limit nested =>
    refine yields_then fun ahead => ?_
    split
    · refine yields_then fun _ => ?_
      exact (nested.separated _ _ _).bind fun _ inside => yields_pure (.array inside)
    · refine yields_then fun _ => ((pair_yields nested).separated _ _ _).bind fun _ inside => ?_
      exact yields_elim fun _ => distinct_ofPairs? inside
    · exact simple_yields

theorem header_yields : header.Yields Node.AssignsDistinct := by
  refine yields_then fun isElement => ?_
  split
  · exact yields_then fun _ => yields_then fun _ => yields_then fun _ => yields_pure trivial
  · exact yields_then fun _ => yields_then fun _ => yields_pure trivial

theorem line_yields : line.Yields fun found =>
    ∀ statement? ∈ found, ∀ statement ∈ statement?, Node.AssignsDistinct statement := by
  have empty : Yields (lineEnd >>= fun _ => pure (some none)) fun found =>
      ∀ statement? ∈ found, ∀ statement ∈ statement?, Node.AssignsDistinct statement :=
    yields_then fun _ => yields_pure (by rintro _ ⟨⟩ _ ⟨⟩)
  have given {statement : Statement} (assigns : Node.AssignsDistinct statement) :
      ∀ statement? ∈ some (some statement), ∀ statement ∈ statement?,
        Node.AssignsDistinct statement := by
    rintro _ ⟨⟩ _ ⟨⟩
    exact assigns
  refine yields_then fun _ => yields_then fun ahead => ?_
  split
  · exact yields_pure nofun
  · exact empty
  · exact empty
  · exact empty
  · refine yields_then fun _ => header_yields.bind fun statement assigns => ?_
    exact yields_then fun _ => yields_pure (given assigns)
  · refine (pair_yields (value_yields _)).bind fun found inside => ?_
    exact yields_then fun _ => yields_pure (given inside)

theorem statements_yields :
    statements.Yields fun found => ∀ statement ∈ found, Node.AssignsDistinct statement := by
  refine yields_then fun _ => line_yields.repeated.bind fun lines each => yields_pure ?_
  intro statement member
  obtain ⟨statement?, held, same⟩ := List.mem_filterMap.mp member
  exact each statement? held statement same

end Reading

/-- **The document in a text** is a table, and no table in it has a key twice. -/
theorem distinct_read? {text : String} {document : Toml} (found : read? text = some document) :
    document.Distinct ∧ ∃ entries, document = .table entries := by
  obtain ⟨statements, whole, built⟩ := Option.bind_eq_some_iff.mp found
  exact distinct_ofStatements? (Reading.statements_yields.whole whole) built

end AsmTarget.Toml
