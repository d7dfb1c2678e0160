/-
**TOML tables as statements build them.**

A document is a list of statements: assignments, headers of tables, and headers of elements of an
array of tables. Each of them changes a tree of tables, or contradicts what was said before. What a
later statement may still change depends on how a table came to be.

* `Node.change`: a change of the table at the end of a path;
* `Node.assigned`, `Node.opened`, `Node.extended`: what the three kinds of statements do;
* `Toml.ofStatements?`: the table that a document describes;
* `Toml.ofPairs?`: the table between the braces of an inline table.
-/

import AsmTarget.Toml

namespace AsmTarget.Toml

/-- A dotted key: the tables it passes through, and the key in the last of them. -/
structure Path where
  parents : List String
  key : String
  deriving DecidableEq, Repr

/-- A statement of a document. -/
inductive Statement where
  | assignment (path : Path) (value : Toml)
  | header (path : Path)
  | element (path : Path)
  deriving Repr

/-- How a table came to be. -/
inductive Origin where
  /-- As a table on the path of a header. -/
  | implied
  /-- As a table on the path of a dotted key. -/
  | dotted
  /-- By a header of its own; the document itself and inline tables also count as such. -/
  | header
  deriving DecidableEq, Repr

/-- A part of a document under construction. -/
inductive Node where
  /-- A value, which nothing changes any more. -/
  | leaf (value : Toml)
  | table (origin : Origin) (entries : List (String × Node))
  /-- An array of tables, which headers of elements make longer. -/
  | series (elements : List Node)
  deriving Repr

namespace Node

/-- The document before its first statement. -/
def empty : Node :=
  .table .header []

/-- The entry of a key. -/
def child? (entries : List (String × Node)) (key : String) : Option Node :=
  (entries.find? (·.1 == key)).map (·.2)

/-- The entries with another one for a known key, at the same place. -/
def replaced (entries : List (String × Node)) (key : String) (node : Node) :
    List (String × Node) :=
  entries.map fun entry => if entry.1 == key then (key, node) else entry

/-! ### Changes -/

/-- A change of the table at the end of a path. Tables that are missing on the way are made. An
array of tables leads on to its last element. A dotted key must not pass through a table that has
a header. -/
def change (byDots : Bool) (after : Node → Option Node) : List String → Node → Option Node
  | [], node => after node
  | key :: path, .table origin entries =>
    match child? entries key with
    | none => do
      let made ← change byDots after path (.table (if byDots then .dotted else .implied) [])
      return .table origin (entries ++ [(key, made)])
    | some (.table inner contents) => do
      if byDots && inner = .header then none
      let changed ← change byDots after path (.table inner contents)
      return .table origin (replaced entries key changed)
    | some (.series elements) => do
      let changed ← change byDots after path (← elements.getLast?)
      return .table origin (replaced entries key (.series (elements.dropLast ++ [changed])))
    | some (.leaf _) => none
  | _ :: _, _ => none

/-- A table with a new key. A dotted key may add to tables only that dotted keys have made. -/
def assigned (key : String) (value : Toml) (byDots : Bool) : Node → Option Node
  | .table origin entries =>
    if (child? entries key).isSome || (byDots && origin ≠ .dotted) then none
    else some (.table origin (entries ++ [(key, .leaf value)]))
  | _ => none

/-- A table in which a header opens another one. A table that was only implied so far takes its
place at the end. -/
def opened (key : String) : Node → Option Node
  | .table origin entries =>
    match child? entries key with
    | none => some (.table origin (entries ++ [(key, .table .header [])]))
    | some (.table .implied contents) =>
      some (.table origin (entries.filter (·.1 != key) ++ [(key, .table .header contents)]))
    | some _ => none
  | _ => none

/-- A table in which an array of tables has a further element. -/
def extended (key : String) : Node → Option Node
  | .table origin entries =>
    match child? entries key with
    | none => some (.table origin (entries ++ [(key, .series [empty])]))
    | some (.series elements) =>
      some (.table origin (replaced entries key (.series (elements ++ [empty]))))
    | some _ => none
  | _ => none

/-- A table with the value of a dotted key. -/
def put (path : Path) (value : Toml) : Node → Option Node :=
  change true (assigned path.key value (!path.parents.isEmpty)) path.parents

/-! ### Documents -/

/-- The document after a statement, with the path of the table that assignments go to. -/
def step (state : Node × List String) (statement : Statement) : Option (Node × List String) :=
  let (node, current) := state
  match statement with
  | .assignment path value => return (← node.change false (put path value) current, current)
  | .header path =>
    return (← node.change false (opened path.key) path.parents, path.parents ++ [path.key])
  | .element path =>
    return (← node.change false (extended path.key) path.parents, path.parents ++ [path.key])

mutual

/-- The value that a part of a document has in the end. -/
def finished : Node → Toml
  | .leaf value => value
  | .table _ entries => .table (finishedEntries entries)
  | .series elements => .array (finishedAll elements)

/-- The entries of a table in the end. -/
def finishedEntries : List (String × Node) → List (String × Toml)
  | [] => []
  | (key, node) :: entries => (key, finished node) :: finishedEntries entries

/-- The elements of an array of tables in the end. -/
def finishedAll : List Node → List Toml
  | [] => []
  | node :: nodes => finished node :: finishedAll nodes

end

end Node

/-- The table that statements describe, unless one contradicts those before it. -/
def ofStatements? (statements : List Statement) : Option Toml :=
  (statements.foldlM Node.step (Node.empty, [])).map (·.1.finished)

/-- The inline table that pairs describe, unless one contradicts those before it. -/
def ofPairs? (pairs : List (Path × Toml)) : Option Toml :=
  (pairs.foldlM (fun (node : Node) (path, value) => node.put path value) Node.empty).map
    Node.finished

end AsmTarget.Toml
