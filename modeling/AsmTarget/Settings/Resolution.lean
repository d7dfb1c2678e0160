/-
**Where settings come from.**

Settings come from a file that is named, or else from the one with the conventional name, if there
is one in the directory, or else they are the default. A dialect that is asked for directly takes
the place of the one in the file; a file that cannot be used is refused all the same.

* `Entry`: what is found at a path; `isFollowed`: which paths are too long to lead anywhere;
* `joinedPath`: a path below a directory;
* `Settings.load`, `Settings.loadFrom`: the settings in what was found at a path;
* `Settings.resolve`: the settings for a choice of file and dialect in a directory.
-/

import AsmTarget.Settings.Toml
import AsmTarget.Text.Words

namespace AsmTarget

/-- What is found at a path. -/
inductive Entry where
  | absent
  | directory
  | file (contents : ByteArray)

/-- A path with the name of a directory in front, unless it starts with a slash itself. A slash
comes between the two where the name of the directory ends with something else. -/
def joinedPath (directory path : String) : String :=
  if Text.startsWith path "/" then path
  else if directory.toList.getLast?.all (· == '/') then directory ++ path
  else directory ++ "/" ++ path

/-- A directory with a name, and what is found at the paths that start there. -/
structure Surroundings where
  directory : String
  look : String → Entry

/-- The whole of a path that starts in the directory. -/
def Surroundings.fullPath (surroundings : Surroundings) (path : String) : String :=
  joinedPath surroundings.directory path

/-- How many bytes of UTF-8 a path may have. -/
def longestPath : Nat := 4095

/-- Whether a path is short enough to be followed. -/
def isFollowed (path : String) : Bool :=
  decide (path.utf8ByteSize ≤ longestPath)

/-- What is found at a path when it is followed with the name of the directory in front, which
counts towards its length. -/
def Surroundings.lookBelow (surroundings : Surroundings) (path : String) : Entry :=
  if isFollowed (surroundings.fullPath path) then surroundings.look path else .absent

namespace Settings

/-- The settings in what was found at a path. -/
def load (path : String) : Entry → Except Fault Settings
  | .absent => .error (.notFound path)
  | .directory => .error (.unreadable "Is a directory (os error 21)")
  | .file contents =>
    match String.fromUTF8? contents with
    | none => .error (.unreadable "stream did not contain valid UTF-8")
    | some text => parse text

/-- The settings at a path that is expected to have some. -/
def required (path : String) (entry : Entry) : Except Fault Settings :=
  (load path entry).mapError (.notLoaded path)

/-- The settings at a path where only a file counts. -/
def optional (path : String) : Entry → Except Fault Settings
  | .file contents => required path (.file contents)
  | .absent | .directory => .ok default

/-- The settings at a path in a directory, where a refusal tells the whole path. -/
def loadFrom (surroundings : Surroundings) (path : String) : Except Fault Settings :=
  load (surroundings.fullPath path) (surroundings.lookBelow path)

/-- The settings for an optional choice of a file and an optional choice of a dialect. -/
def resolve (surroundings : Surroundings) (file : Option String) (dialect : Option Dialect) :
    Except Fault Settings := do
  let settings ← match file with
    | some path => required path (surroundings.look path)
    | none => optional (surroundings.fullPath fileName) (surroundings.lookBelow fileName)
  return { settings with dialect := dialect.getD settings.dialect }

end Settings

end AsmTarget
