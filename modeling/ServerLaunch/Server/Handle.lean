import ServerLaunch.Container.Resolve
import ServerLaunch.Logging.OutputReader
import ServerLaunch.Server.Url

/-!
# Server Handles

A server that is launched, or can be launched, as a child process.

A handle holds at most one child. Starting launches one, unless the child at hand still
runs, and waits until the server answers; a child that ends before, or a server that
does not answer in time, makes the start fail. Stopping asks the child to end, and ends
it by force if it does not within a grace period.

Unless the output of the server goes to a stream of the caller, it goes through a pipe.
The launcher closes its own end as soon as the child has the other, so that the reader
comes to the end when the child is gone.

While waiting, the child is asked whether it runs before the server is asked whether
it is ready, once each in every round, and rounds are half a second apart. The wait is
bounded by a deadline on the clock. The number of rounds that the recursion allows is
computed from the time until then, and from the place in the script of the child from
which on all answers are the same.

A handle takes any value for its timeout. One that is no number makes a start fail, but
only when the deadline is due, and the child that has been launched by then is kept.

## Main definitions

* `Handle`: A handle.
* `Handle.start`, `Handle.stop`, `Handle.wait`, `Handle.isRunning`, `Handle.withRunning`.
* `deadlineAfter`, `roundsWithin`, `roundsUntil`: When a start gives up.
* `Handle.awaitReady`: The wait for the server.
-/

namespace ServerLaunch

/-- A pipe for the output of a server, as the launcher has it: its number, whether the
    launcher's end is open, and who gets the lines. -/
structure OutputPipe where
  number : Nat
  isOpen : Bool
  logger : Logger
deriving DecidableEq, Repr, Inhabited

/-- A server that is launched or can be launched. -/
structure Handle where
  address : String
  executable : Path
  port : Int
  timeout : Value
  arguments : List String
  environment : Table Value
  hasStream : Bool
  basePath : Option String
  child : Option Nat
  pipe : Option OutputPipe
  log : LogSource
deriving Inhabited, Repr

/-- The deadline after a timeout, as a clock shows it. Only a number can be a timeout, and
    one too large for the clock is a failure. -/
def deadlineAfter (shown : Rat → Instant) (now : Instant) (timeout : Value) :
    Except Failure Instant :=
  match timeout.number? with
  | none => .error .wrongKind
  | some n =>
    match Instant.ofNumber? shown n with
    | none => .error .tooLarge
    | some time => .ok (now.plus shown time)

/-- More rounds than fit between two numbers of seconds: twice as many, for a clock that
    rounds may lose some of the time. -/
def roundsWithin (start finish cost : Rat) : Nat :=
  let round := cost + pollInterval
  if 0 < round then 2 * ((finish - start) / round).ceil.toNat else 0

/-- Where a clock of floating point numbers ends. -/
def clockEnd : Rat := Nat.pow 2 1024

/-- The most rounds that count for nothing but the end of the clock. -/
def patience : Nat := 10000

/-- More rounds than fit before the deadline, and so many more that the answers of a child
    come to where they stay the same. Without a deadline the end of the clock takes its
    place, if it is not too far away. -/
def roundsUntil (now deadline cost : Instant) (settled : Nat) : Nat :=
  settled + 1 +
    match now, deadline, cost with
    | .seconds start, .seconds finish, .seconds answer => roundsWithin start finish answer
    | .seconds start, .beyond false, .seconds answer =>
      min patience (roundsWithin start clockEnd answer)
    | _, _, _ => 0

/-- Seconds a child has to end after it is asked to. -/
def gracePeriod : Number :=
  .float (Binary64.ofInt 5)

/-- An action on a handle in the world. -/
abbrev HandleAct := Act (Handle × World)

namespace Handle

/-- Does something to the world while the handle stays as it is. -/
def inWorld {α : Type} (a : WorldAct α) : HandleAct α :=
  a.onSecond

/-- The handle itself. -/
def self : HandleAct Handle := do
  return (← get).1

/-- Changes the handle. -/
def change (f : Handle → Handle) : HandleAct Unit :=
  modify fun (h, w) => (f h, w)

/-- Writes one message to the log of the handle. -/
def note (level : LogLevel) (message : String) : HandleAct Unit := do
  inWorld ((← self).log.log level message)

/-- The command that launches the server. -/
def command (h : Handle) : List String :=
  h.executable.toText :: h.arguments

/-- The URL under which the server answers. -/
def url (h : Handle) : String :=
  serverUrl h.address h.port h.basePath

/-- A command as messages show it. -/
def commandText (h : Handle) : String :=
  String.ofList (Value.list (h.command.map Value.text)).literal

/-- The process number of the child, if there is one. -/
def pid (h : Handle) (w : World) : Option Nat :=
  h.child.map fun _ => w.script.pid

/-- The process number of a child, for messages. -/
def pidText : HandleAct String := do
  return toString (← get).2.script.pid

/-- An error of a start. -/
def startupError (h : Handle) (message : String) (exitCode : Option Int) (cause : Option Cause) :
    Failure :=
  .launch (LaunchError.of .startup message { url := some h.url, exitCode } cause)

/-- The message about a child that cannot be launched. -/
def cannotLaunch (h : Handle) : String :=
  "Cannot launch the Appium server with '" ++ h.executable.toText ++ "'"

/-- The message about a child that ended too early. -/
def exitedEarly : String :=
  "The Appium server process exited before it became ready"

/-- The message about a server that did not answer in time. -/
def notReady (h : Handle) : String :=
  "The Appium server did not become ready within " ++ h.timeout.displayText ++ " seconds"

/-- The warning about a server that did not answer in time. -/
def notReadyWarning (h : Handle) : String :=
  let timeout := h.timeout.number?.bind Number.toBinary64?
  "Appium server did not answer within " ++ (timeout.map (Binary64.fixedPlaces 1)).getD "" ++
    "s, stopping it"

/-- The message about a handle without a child. -/
def notStarted : String :=
  "The Appium server has not been started"

/-- Whether the server answers that it is ready. -/
def ping : HandleAct Bool := do
  inWorld (pingServer (statusUrl (← self).url))

/-- Whether there is a child that runs. -/
def hasLiveChild : HandleAct Bool := do
  match (← self).child with
  | none => return false
  | some child => return (← inWorld (pollChild child)).isNone

/-- Whether there is a child that runs, and its server answers. -/
def isRunning : HandleAct Bool := do
  if ← hasLiveChild then ping else return false

/-- Makes a pipe for the output of the child. -/
def openPipe : HandleAct Unit := do
  let logger ← inWorld (← self).log.logger
  let number := (← get).2.pipes
  modify fun (h, w) =>
    ({ h with pipe := some ⟨number, true, logger⟩ },
      { w with pipes := w.pipes + 1 }.record (.openedPipe number))

/-- Closes the launcher's end of a pipe, unless it is closed. -/
def closePipe (pipe : OutputPipe) : HandleAct Unit := do
  if pipe.isOpen then
    change fun h => { h with pipe := some { pipe with isOpen := false } }
    inWorld (record (.closedPipe pipe.number))

/-- Lets go of the pipe: closes it and waits for its reader. -/
def releaseOutput : HandleAct Unit := do
  match (← self).pipe with
  | none => return
  | some pipe =>
    closePipe pipe
    change fun h => { h with pipe := none }
    inWorld (record (.joinedPipe pipe.number))

/-- What the reader of a pipe logs: the lines that the child writes. -/
def logOutput (logger : Logger) : List String → WorldAct Unit
  | [] => return
  | line :: lines => do
    logger.log .reader .debug (OutputReader.labelled OutputReader.defaultLabel line)
    logOutput logger lines

/-- Closes the launcher's end of the pipe, which the child has now, and has the output
    read. -/
def handOverPipe : HandleAct Unit := do
  match (← self).pipe with
  | none => return
  | some pipe =>
    closePipe pipe
    inWorld (logOutput pipe.logger (OutputReader.lines [(← get).2.script.output]))

/-- Asks the child to end, and ends it by force if it does not within the grace
    period. -/
def endChild (child : Nat) : HandleAct Unit := do
  note .debug ("Stopping Appium server: pid=" ++ (← pidText))
  inWorld (terminateChild child)
  match ← inWorld (waitForChild child (some gracePeriod)) with
  | .exited _ => return
  | .interrupted => throw .interrupted
  | .timedOut =>
    note .warning ("Appium server ignored terminate, killing pid=" ++ (← pidText))
    inWorld (killChild child)
    let _ ← inWorld (waitForExit child)

/-- Stops the server, if there is a child. -/
def stop : HandleAct Unit := do
  match (← self).child with
  | none => return
  | some child =>
    change fun h => { h with child := none }
    if (← inWorld (pollChild child)).isNone then endChild child
    releaseOutput

/-- Gives up waiting for the server. -/
def giveUp : HandleAct Unit := do
  note .warning (← self).notReadyWarning
  stop
  let h ← self
  throw (h.startupError h.notReady none none)

/-- Waits until the server answers, the child ends, or the deadline has passed, for so
    many rounds at most. -/
def awaitReady (child : Nat) (deadline : Instant) : (rounds : Nat) → HandleAct Unit
  | 0 => do
    if (← get).2.clock.isBefore deadline then throw .endless else giveUp
  | rounds + 1 => do
    if (← get).2.clock.isBefore deadline then
      match ← inWorld (pollChild child) with
      | some code =>
        change fun h => { h with child := none }
        releaseOutput
        throw ((← self).startupError exitedEarly (some code) none)
      | none =>
        if ← ping then
          note .info ("Appium server is ready at " ++ (← self).url)
        else
          inWorld sleep
          awaitReady child deadline rounds
    else giveUp

/-- Launches a child and waits for its server. -/
def launch : HandleAct Unit := do
  note .info ("Starting Appium server: " ++ (← self).commandText)
  unless (← self).hasStream do openPipe
  let h ← self
  let outlet := if h.hasStream then Outlet.stream else .pipe
  match ← inWorld (launchChild h.command outlet h.environment) with
  | none =>
    releaseOutput
    throw (h.startupError h.cannotLaunch none (some .operatingSystem))
  | some child =>
    change fun h => { h with child := some child }
    handOverPipe
    note .debug ("Process started: pid=" ++ (← pidText))
    let w := (← get).2
    let deadline ← Act.ofExcept (deadlineAfter w.shown w.clock h.timeout)
    awaitReady child deadline (roundsUntil w.clock deadline w.script.pingCost w.script.settled)

/-- Starts the server, unless its child runs already. -/
def start : HandleAct Unit := do
  if ← hasLiveChild then
    note .debug ("Server already started: pid=" ++ (← pidText))
  else launch

/-- Waits until the child ends; it gives the exit code. -/
def wait : HandleAct Int := do
  match (← self).child with
  | none => throw (.launch (LaunchError.of .notRunning notStarted {}))
  | some child => inWorld (waitForExit child)

/-- Starts the server, does something, and stops the server in any case. -/
def withRunning {α : Type} (body : HandleAct α) : HandleAct α := do
  start
  body.always stop

end Handle

end ServerLaunch
