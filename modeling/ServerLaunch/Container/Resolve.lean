import ServerLaunch.Logging

/-!
# Resolving Services

The container of the program, and what it gives.

There is one container at a time. It comes into being when it is first asked for, and
a reset drops it.

Since recipes may ask for services as well, following one can make others be followed, and
even the same one again before it is done. Then it is what was made last that is kept. How
deep this can go is up to the host; beyond that the asking fails.

Whoever needs a logger but was given none takes the one that is
registered, or else one that discards everything, and keeps what it took: a logger
that is registered later does not replace it.

## Main definitions

* `currentContainer`, `resetContainer`: The container of the program.
* `register`, `provideValue`: A registration, and what is registered.
* `Method.follow`, `followRecipe`: Something is made.
* `serve`, `asking`: A service that is asked for, also from within a recipe.
* `tryResolve`, `resolve`, `resolveOr`: What is registered under an interface.
* `LogSource`: How an object comes to its logger.
-/

namespace ServerLaunch

/-- The container of the program. -/
def currentContainer : WorldAct Container :=
  modifyGet fun w =>
    match w.container with
    | some c => (c, w)
    | none =>
      let c : Container := ⟨w.serials, []⟩
      (c, { w with container := some c, serials := w.serials + 1 })

/-- Drops the container and all that is in it. -/
def resetContainer : WorldAct Unit :=
  modify fun w => { w with container := none, isInitialized := false }

/-- A value as something to register: an object of its own, unless it is shared. -/
def provideValue (v : Value) : WorldAct Provided := do
  if v.isShared then return .value v else return .object (← newSerial) v

/-- Puts a registration into the container. -/
def registerProvider (interface : Interface) (provider : Provider) : WorldAct Unit := do
  let c ← currentContainer
  modify fun w => { w with container := some (c.register interface provider) }

/-- Registers an object or a recipe; an object counts before a recipe, and one of the
    two there has to be. -/
def register (interface : Interface) (object : Option Provided) (recipe : Option Recipe) :
    WorldAct Unit :=
  match object, recipe with
  | some object, _ => registerProvider interface (.ready object)
  | none, some recipe => registerProvider interface (.pending recipe)
  | none, none => throw .noImplementation

section Asking

-- How a method gets a service under an interface, and whether it insists on it.
variable (ask : Interface → Bool → WorldAct (Option Provided))

/-- Follows a method to its end. -/
def Method.follow : Method → WorldAct (Option Provided)
  | .gives result => return result
  | .fails trouble => throw trouble.failure
  | .asks interface insists catches next => do
    match ← (ask interface insists).attempt with
    | .ok found => (next (.ok found)).follow
    | .error e => if catches e then (next (.error e)).follow else throw e

/-- Follows a recipe. That it is followed once more is known from the start. -/
def followRecipe (interface : Interface) : Recipe → WorldAct (Option Provided)
  | .launcherLog config => do
    return some (.logger (← openLogger config launcherName))
  | .methods method times => do
    record (.followedRecipe interface)
    registerProvider interface (.pending (.methods method (times + 1)))
    (method times).follow ask

/-- Keeps what a recipe has made, if anything, in place of all that it made before. -/
def keepResult (interface : Interface) (result : Option Provided) : WorldAct Unit := do
  match ((← currentContainer).find? interface).bind Provider.recipe?, result with
  | some recipe, some object =>
    record (.finishedRecipe interface)
    registerProvider interface (.made recipe object)
  | some recipe, none => registerProvider interface (.pending recipe)
  | none, _ => return

/-- What is registered under an interface. It may be that a recipe makes nothing, but
    whoever insists wants something to be registered. -/
def serve (interface : Interface) (insists : Bool) : WorldAct (Option Provided) := do
  match (← currentContainer).find? interface with
  | none => if insists then throw (.unregistered interface) else return none
  | some (.ready object) => return some object
  | some (.made _ object) => return some object
  | some (.pending recipe) =>
    let result ← followRecipe ask interface recipe
    keepResult interface result
    return result

end Asking

/-- Asking for a service from within recipes, to a depth at most. -/
def asking : Nat → Interface → Bool → WorldAct (Option Provided)
  | 0, _, _ => throw .nesting
  | depth + 1, interface, insists => serve (asking depth) interface insists

/-- What is registered under an interface, if anything. -/
def tryResolve (interface : Interface) : WorldAct (Option Provided) := do
  serve (asking (← get).host.askLimit) interface false

/-- What is registered under an interface, where something has to be. -/
def resolve (interface : Interface) : WorldAct (Option Provided) := do
  serve (asking (← get).host.askLimit) interface true

/-- What is registered under an interface, or else what is made instead. -/
def resolveOr (interface : Interface) (instead : WorldAct Provided) : WorldAct Provided := do
  match ← tryResolve interface with
  | some object => return object
  | none => instead

/-- A new logger that discards everything. -/
def newSilentLogger : WorldAct Provided := do
  return .logger (.silent (← newSerial))

/-- The logger that is registered, or else one that discards everything. -/
def registeredLogger : WorldAct Provided :=
  resolveOr .logger newSilentLogger

/-- A service as a logger; any other cannot be written to. -/
def asLogger : Provided → WorldAct Logger
  | .logger l => return l
  | _ => throw .noSuchPart

/-- How an object comes to its logger: it was given one, or it takes the registered
    one when it first has something to write. The number tells objects apart. -/
inductive LogSource where
  | given (object : Provided)
  | onDemand (key : Nat)
deriving Inhabited, Repr

namespace LogSource

/-- A source that was given a logger. -/
def ofLogger (l : Logger) : LogSource :=
  .given (.logger l)

/-- A new source that was given none. -/
def new : WorldAct LogSource := do
  return .onDemand (← newSerial)

/-- The logger of an object, kept from its first use on. -/
def object : LogSource → WorldAct Provided
  | .given object => return object
  | .onDemand key => do
    match (← get).chosenLoggers.lookup key with
    | some object => return object
    | none =>
      let object ← registeredLogger
      modify fun w => { w with chosenLoggers := (key, object) :: w.chosenLoggers }
      return object

/-- The logger of an object, if it is one. -/
def logger (source : LogSource) : WorldAct Logger := do
  asLogger (← source.object)

/-- Writes one message. -/
def log (source : LogSource) (level : LogLevel) (message : String) : WorldAct Unit := do
  (← source.logger).log .launcher level message

end LogSource

end ServerLaunch
