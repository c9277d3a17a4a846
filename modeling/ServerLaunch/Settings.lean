import ServerLaunch.Config

/-!
# Settings

The two sections together, as they are loaded and registered.

## Main definitions

* `Settings`: Both sections.
-/

namespace ServerLaunch

/-- The settings of the launcher. -/
structure Settings where
  server : ServerConfig := {}
  logging : LoggingConfig := {}
deriving DecidableEq, Repr, Inhabited

end ServerLaunch
