import ServerLaunch.Container.Interface
import ServerLaunch.Failure
import ServerLaunch.Logging.Logger
import ServerLaunch.Settings
import ServerLaunch.Value

/-!
# The Container

Services by the interface that they serve.

Under an interface there is either a finished object or a recipe. A recipe is
followed when the interface is first asked for, and what it makes is kept. A recipe
that makes nothing, or fails, is followed again.

Following a recipe may come to something else each time, so a recipe has a method for
the first time, one for the second, and so on. In a method the container may be asked for
other services, or for the very one that is being made; what is done next may depend
on the answer, also if that is a failure. Registrations come one after another, and none in the
middle of asking for a service: recipes register nothing.

The latest registration of an interface replaces all earlier ones, and registrations
of different interfaces have nothing to do with each other.

## Main definitions

* `Provided`: What a container holds.
* `Method`: What is done when a recipe is followed.
* `Recipe`: How a service is made.
* `Provider`: A registration.
* `Container`: The registrations.
-/

namespace ServerLaunch

/-- What a container holds. Objects that are made, and not only there, have a serial
    number: so two equal lists can be told apart. -/
inductive Provided where
  | value (v : Value)
  | object (serial : Nat) (v : Value)
  | logger (l : Logger)
  | settings (serial : Nat) (s : Settings)
deriving Inhabited, Repr

/-- Values that are the same object wherever they come up. Besides the simple ones these are
    the empty tuple and octets of which there is one at most. -/
def Value.isShared : Value → Bool
  | .null | .bool _ | .number (.int _) | .text _ | .tuple [] => true
  | .octets bs => bs.length ≤ 1
  | _ => false

/-- What a recipe may fail with by itself. -/
inductive Trouble where
  | noKey (name : String)
  | usedUp
  | other (text : String)
deriving DecidableEq, Inhabited, Repr

/-- The trouble as a failure. -/
def Trouble.failure : Trouble → Failure
  | .noKey name => .noVariable name
  | .usedUp => .usedUp
  | .other text => .bodyFailed text

/-- What is done when a recipe is followed: at last something is given, or nothing, or there is
    trouble. Until then services are asked for, with or without insisting on them. A failure to
    get one is a failure of the method, unless it is caught. -/
inductive Method where
  | gives (result : Option Provided)
  | fails (trouble : Trouble)
  | asks (interface : Interface) (insists : Bool) (catches : Failure → Bool)
      (next : Except Failure (Option Provided) → Method)
deriving Inhabited

/-- How something is made: a logger from its section of the settings, or by a method of its own
    each time, of which some are already done. -/
inductive Recipe where
  | launcherLog (config : LoggingConfig)
  | methods (method : Nat → Method) (times : Nat)
deriving Inhabited

/-- A recipe that gives the members of a list in turn, as long as there are any. -/
def Recipe.members (results : List (Option Provided)) : Recipe :=
  .methods (fun times => (results[times]?.map Method.gives).getD (.fails .usedUp)) 0

/-- What is registered under an interface. -/
inductive Provider where
  | ready (object : Provided)
  | pending (recipe : Recipe)
  | made (recipe : Recipe) (object : Provided)
deriving Inhabited

/-- The recipe of a registration, if it has one. -/
def Provider.recipe? : Provider → Option Recipe
  | .ready _ => none
  | .pending recipe | .made recipe _ => some recipe

/-- What is registered under each interface. A container has a serial number. -/
structure Container where
  serial : Nat
  providers : List (Interface × Provider)
deriving Inhabited

namespace Container

/-- What is registered under an interface. -/
def find? (c : Container) (interface : Interface) : Option Provider :=
  c.providers.lookup interface

/-- The container with a registration, which replaces an earlier one. -/
def register (c : Container) (interface : Interface) (provider : Provider) : Container :=
  { c with
    providers := (interface, provider) :: c.providers.filter fun e => e.1 != interface }

end Container

end ServerLaunch
