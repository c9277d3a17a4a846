import ServerLaunch.Settings.Load

/-!
# Bootstrap

Making the launcher ready.

It puts the settings into the container, and a recipe for a logger configured from
them. This happens once; until the next reset, a second bootstrap changes nothing. A
bootstrap whose settings cannot be loaded registers nothing.

A command starts from a context: settings loaded for a directory, and the logger of the
container. Where the launcher was ready before, that logger is an earlier one.

## Main definitions

* `bootstrap`: Makes the launcher ready.
* `LaunchContext`, `LaunchContext.create`: What a command starts from.
-/

namespace ServerLaunch

/-- Registers the settings, and a recipe for their logger. -/
def registerCore (settings : Settings) : WorldAct Unit := do
  registerProvider .settings (.ready (.settings (← newSerial) settings))
  registerProvider .logger (.pending (.launcherLog settings.logging))
  modify fun w => { w with isInitialized := true }

/-- Makes the launcher ready, with settings that the given action loads. -/
def bootstrap (load : WorldAct Settings) : WorldAct Container := do
  let container ← currentContainer
  if (← get).isInitialized then return container
  else
    registerCore (← load)
    return container

/-- What a command starts from. -/
structure LaunchContext where
  settings : Settings
  logger : Provided
  cwd : Path
deriving Inhabited, Repr

/-- Settings that log everything to the console. -/
def Settings.verbose (s : Settings) : Settings :=
  { s with logging := { s.logging with level := .debug, console := true } }

/-- The context of a command that is run in a directory. -/
def LaunchContext.create (path : Option Path) (isVerbose : Bool) (cwd : Option Path) :
    WorldAct LaunchContext := do
  let directory := cwd.getD (← get).host.cwd
  let loaded ← loadSettings path (some directory.toText)
  let settings := if isVerbose then loaded.verbose else loaded
  let _ ← bootstrap (return settings)
  match ← resolve .logger with
  | some logger => return ⟨settings, logger, directory⟩
  | none => return ⟨settings, .value .null, directory⟩

end ServerLaunch
