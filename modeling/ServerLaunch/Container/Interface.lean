/-!
# Interfaces

What a container of services is asked for.

A service is registered under the interface it serves. Besides the two interfaces
that starting the program registers, a container takes any type that a user has, for
instance texts and numbers. All that matters of a type is which one it is, and what
messages call it.

## Main definitions

* `Interface`: The interfaces.
* `Interface.typeName`: How a message names an interface.
-/

namespace ServerLaunch

/-- What a service is registered under. -/
inductive Interface where
  | logger
  | settings
  | text
  | number
  | other (key : Nat) (shown : String)
deriving DecidableEq, Repr, Inhabited

/-- The interface as messages name it. -/
def Interface.typeName : Interface → String
  | .logger => "<class 'appium_launcher.core.interfaces.logger.ILogger'>"
  | .settings => "<class 'appium_launcher.core.settings.LauncherSettings'>"
  | .text => "<class 'str'>"
  | .number => "<class 'int'>"
  | .other _ shown => shown

end ServerLaunch
