/-
**Trees of files.**

A tree of files is a directory with everything below it. A path leads from the directory to an
entry, one part after the other; what lies outside of the tree is known to consist of directories
as far as one goes up, and of nothing else.

* `FileTree.insert`: a tree with one more entry, and the directories that lead to it;
* `FileTree.look`: what is found at a path, if the path can be followed.
-/

import AsmTarget.Settings.Resolution
import AsmTarget.Text.Words

namespace AsmTarget

/-- A file, or a directory with its entries. -/
inductive FileTree where
  | file (contents : ByteArray)
  | directory (entries : List (String × FileTree))

namespace FileTree

/-- The parts of a path. -/
def parts (path : String) : List String :=
  let (first, others) := Text.split '/' path.toList
  (first :: others).map String.ofList

/-- Whether a part of a path stays where it is. -/
def stays (part : String) : Bool :=
  part == "" || part == "."

/-- The tree that consists of a node below the directories of a path. -/
def nested (node : FileTree) (path : List String) : FileTree :=
  path.foldr (fun part tree => .directory [(part, tree)]) node

/-- A tree with a node at a path. A directory that is already there stays as it is. -/
def insertAt (node : FileTree) : List String → FileTree → FileTree
  | [], .directory entries =>
    match node with
    | .directory [] => .directory entries
    | _ => node
  | [], .file _ => node
  | part :: path, .directory entries =>
    match entries.find? (·.1 == part) with
    | some (_, inner) =>
      let changed := insertAt node path inner
      .directory (entries.map fun entry => if entry.1 == part then (part, changed) else entry)
    | none => .directory (entries ++ [(part, nested node path)])
  | part :: path, .file _ => nested node (part :: path)

/-- A tree with a node at the end of a path that starts at a directory of the tree, told by the
names on the way to it, the last one first. The directories that the path passes through are made,
and a step up leads to the one around. What lies outside of the tree is not changed. -/
def insertFrom (node : FileTree) (place : List String) : List String → FileTree → FileTree
  | [], tree => insertAt node place.reverse tree
  | part :: path, tree =>
    let made := insertAt (.directory []) place.reverse tree
    if part = ".." then
      match place with
      | [] => made
      | _ :: around => insertFrom node around path made
    else insertFrom node (part :: place) path made

/-- A tree with a node at a path. -/
def insert (tree : FileTree) (path : String) (node : FileTree) : FileTree :=
  insertFrom node [] ((parts path).filter fun part => !stays part) tree

/-! ### Paths -/

/-- A place that a path has led to. -/
inductive Place where
  /-- A node of the tree, with the directories around it, the nearest first. -/
  | inside (node : FileTree) (around : List FileTree)
  /-- A directory above the tree, a number of steps up. -/
  | outside (steps : Nat)

/-- One part of a path, from a place. -/
def Place.step (place : Place) (part : String) : Option Place :=
  match place with
  | .inside (.file _) _ => none
  | .inside (.directory entries) around =>
    if stays part then some place
    else if part = ".." then
      match around with
      | [] => some (.outside 0)
      | nearest :: others => some (.inside nearest others)
    else
      (entries.find? (·.1 == part)).map fun (_, node) =>
        .inside node (.directory entries :: around)
  | .outside steps =>
    if stays part then some place
    else if part = ".." then some (.outside (steps + 1))
    else none

/-- What is at a place. -/
def Place.entry : Place → Entry
  | .inside (.file contents) _ => .file contents
  | .inside (.directory _) _ => .directory
  | .outside _ => .directory

/-- What is found at a path, which starts in the tree unless it starts with a slash. Nothing is
found at a path that is too long to be followed, wherever it leads. -/
def look (tree : FileTree) (path : String) : Entry :=
  if isFollowed path then
    let start : Place := if Text.startsWith path "/" then .outside 0 else .inside tree []
    match (parts path).foldlM Place.step start with
    | some place => place.entry
    | none => .absent
  else .absent

end FileTree

end AsmTarget
