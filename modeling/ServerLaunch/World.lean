import ServerLaunch.Action
import ServerLaunch.Container
import ServerLaunch.Logging.Rollover
import ServerLaunch.World.Event

/-!
# The World

The state in which the launcher works.

It is the host, the children, the clock, and what the launcher itself keeps between its actions:
what is open for the names of loggers, the log files that are written to, path overrides set in the
process, and the container. The history says what has happened, latest first; it only ever grows.

How the clock shows a number of seconds is a parameter of the world, for a clock of floating
point numbers rounds every sum, and ends; a world whose clock is exact has
`Instant.seconds` there.

The actions on children are the only ones that take answers from the script, each
exactly one.

## Main definitions

* `World`: The state.
* `World.record`: One more event.
* `lookAt`: A look at a path.
* `launchChild`, `pollChild`, `pingServer`, `waitForChild`, `terminateChild`,
  `killChild`, `sleep`: Dealing with children.
-/

namespace ServerLaunch

/-- The state in which the launcher works. -/
structure World where
  host : Host
  script : ChildScript
  polls : Nat
  waits : Nat
  pings : Nat
  shown : Rat → Instant
  clock : Instant
  children : Nat
  pipes : Nat
  serials : Nat
  past : List Event
  channels : Channels
  logs : LogFiles
  overrides : Table String
  container : Option Container
  isInitialized : Bool
  chosenLoggers : List (Nat × Provided)

namespace World

/-- The world at the start of the program. -/
def start (host : Host) (script : ChildScript) (shown : Rat → Instant) : World :=
  { host, script, polls := 0, waits := 0, pings := 0, shown, clock := .seconds 0,
    children := 0,
    pipes := 0, serials := 0, past := [], channels := [], logs := {}, overrides := [],
    container := none, isInitialized := false, chosenLoggers := [] }

/-- The world with one more event. -/
def record (w : World) (e : Event) : World :=
  { w with past := e :: w.past }

/-- The world after some time. -/
def wait (w : World) (time : Instant) : World :=
  { w with clock := w.clock.plus w.shown time }

/-- The world with a new script, of which no answer is taken yet. -/
def withScript (w : World) (script : ChildScript) : World :=
  { w with script, polls := 0, waits := 0, pings := 0 }

/-- The events, earliest first. -/
def events (w : World) : List Event :=
  w.past.reverse

end World

/-- An action on the world alone. -/
abbrev WorldAct := Act World

/-- Adds an event to the history. -/
def record (e : Event) : WorldAct Unit :=
  modify fun w => w.record e

/-- A number that no other object has. -/
def newSerial : WorldAct Nat :=
  modifyGet fun w => (w.serials, { w with serials := w.serials + 1 })

/-- A look that is refused, as a failure. -/
def LookFault.failure (fault : LookFault) : Failure :=
  .denied fault.text

/-- Whether a path leads to something. A look that is refused is a failure. -/
def lookAt (p : Path) : WorldAct Bool := do
  match (← get).host.look p with
  | .ok found => return found
  | .error fault => throw fault.failure

/-- Launches a child; nothing if that fails. -/
def launchChild (command : List String) (outlet : Outlet) (environment : Table Value) :
    WorldAct (Option Nat) :=
  modifyGet fun w =>
    match w.script.spawnError with
    | some _ => (none, w.record (.launched command outlet environment none))
    | none =>
      (some w.children,
        { w with children := w.children + 1 }.record
          (.launched command outlet environment (some w.children)))

/-- Asks whether a child still runs; if not, with what code it ended. -/
def pollChild (child : Nat) : WorldAct (Option Int) :=
  modifyGet fun w =>
    let exit := w.script.poll w.polls
    (exit, { w with polls := w.polls + 1 }.record (.polled child exit))

/-- Asks a server to answer, which takes some time. -/
def askServer (url : String) : WorldAct PingAnswer :=
  modifyGet fun w =>
    let answer := w.script.ping w.pings
    (answer,
      ({ w with pings := w.pings + 1 }.record (.pinged url answer)).wait w.script.pingCost)

/-- The answer of a server that is ready. -/
def readyStatus : Int := 200

/-- Whether a server answers that it is ready. A connection that is refused is a
    server that is not ready yet; other troubles are failures. -/
def pingServer (url : String) : WorldAct Bool := do
  match ← askServer url with
  | .status code => return code == readyStatus
  | .refused => return false
  | .malformed line => throw (.malformedAnswer line)
  | .interrupted => throw .interrupted

/-- The exit code of a child that was ended by force. -/
def killedCode : Int := -9

/-- An answer as a wait with or without a limit has it. Without one there is no
    running out of time: a child that does not end by itself was ended by force. -/
def WaitAnswer.within (limit : Option Number) (answer : WaitAnswer) : WaitAnswer :=
  match limit, answer with
  | none, .timedOut => .exited killedCode
  | _, answer => answer

/-- Waits for a child, with or without a limit. -/
def waitForChild (child : Nat) (limit : Option Number) : WorldAct WaitAnswer :=
  modifyGet fun w =>
    let answer := (w.script.wait w.waits).within limit
    (answer, { w with waits := w.waits + 1 }.record (.waited child limit answer))

/-- Waits for a child without a limit. -/
def waitForExit (child : Nat) : WorldAct Int := do
  match ← waitForChild child none with
  | .exited code => return code
  | .timedOut => return killedCode
  | .interrupted => throw .interrupted

/-- Asks a child to end. -/
def terminateChild (child : Nat) : WorldAct Unit :=
  record (.terminated child)

/-- Ends a child by force. -/
def killChild (child : Nat) : WorldAct Unit :=
  record (.killed child)

/-- Seconds between two questions whether a server is ready. -/
def pollInterval : Rat := 1 / 2

/-- Lets the interval pass. -/
def sleep : WorldAct Unit :=
  modify fun w => (w.record .slept).wait (.seconds pollInterval)

end ServerLaunch
