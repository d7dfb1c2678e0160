/-
**Settings.**

Settings are chosen once, before any descriptor is built. There is one: the dialect.

* `Settings.fileName`: the name under which settings are looked for in a directory.
-/

import AsmTarget.Dialect

namespace AsmTarget

/-- What the user of the library chooses for all targets. -/
structure Settings where
  dialect : Dialect := default
  deriving DecidableEq, Repr, Inhabited

/-- The conventional name of a settings file. -/
def Settings.fileName : String := "asminfo.toml"

end AsmTarget
