import ServerLaunch.Capabilities.Token
import ServerLaunch.Discovery
import ServerLaunch.Server.Handle

/-!
# Server Builders

Collecting the settings of a server, and turning them into a command line.

A builder starts from the configured defaults. Flags of the server are kept in a table,
each with its last value at its first place; but a port, an address or a log file given
as a flag with a value goes into the field that the builder has for it. A flag without
a value is a switch, whatever flag it is.

Building finds the files that a launch needs and writes the command line. What it finds
it keeps: the free port that was picked, the program, the script, and the address.

Settings that may be refused come in two forms: as a function to another builder, and as an
action that changes the builder step by step, the way it is called on one that is shared.

## Main definitions

* `Builder`: The settings of a server to be.
* `Builder.ofConfig`: A builder with the configured defaults.
* `Builder.setPort`, `Builder.setTimeout`, `Builder.setTimeoutValue`,
  `Builder.addArgument`, `Builder.addCapabilities`, `Builder.takeCapabilities`: Settings
  that are checked or combined.
* `Builder.usePort`, `Builder.useTimeout`, `Builder.useArgument`: The same as actions.
* `Builder.buildArguments`, `Builder.build`: The command line, and the handle.
-/

namespace ServerLaunch

/-- The settings of a server to be. -/
structure Builder where
  executable : Option Path
  port : Int
  timeout : Value
  environment : Table Value
  logFile : Option Path
  arguments : Table String
  mainScript : Option Path
  address : Option String
  capabilities : Option Capabilities
  quoteOnWindows : Bool
  locator : Locator
  hasStream : Bool
  log : LogSource
deriving Inhabited, Repr

/-- An action on a builder in the world. -/
abbrev BuilderAct := Act (Builder × World)

namespace Builder

/-- The message about a port below zero. -/
def negativePort : String := "Port number must be non-negative"

/-- The message about a port that is no number. -/
def noPortNumber : String := "Port number must be an integer"

/-- The message about a timeout that is not above zero. -/
def noTimeout : String := "Startup timeout must be positive"

/-- An argument that is refused. -/
def refused (message argument value : String) (cause : Option Cause) : LaunchError :=
  LaunchError.of .invalidArgument message { argument := some argument, value := some value } cause

/-- The builder with a port; zero means any free port. -/
def setPort (b : Builder) (port : Int) : Except LaunchError Builder :=
  if port < 0 then .error (refused negativePort "port" (Numeral.intText port) none)
  else .ok { b with port }

/-- The builder with a number of seconds to wait for the server. -/
def setTimeout (b : Builder) (timeout : Number) : Except LaunchError Builder :=
  if timeout.isNotPositive then .error (refused noTimeout "timeout" timeout.text none)
  else .ok { b with timeout := .number timeout }

/-- The builder with a timeout that is given as any value. A truth value counts as a number
    and stays what it is; a value that is no number fails. -/
def setTimeoutValue (b : Builder) : Value → Except Failure Builder
  | .number timeout => (b.setTimeout timeout).mapError .launch
  | .bool true => .ok { b with timeout := .bool true }
  | .bool false =>
    .error (.launch (refused noTimeout "timeout" (Value.bool false).displayText none))
  | _ => .error .wrongKind

/-- The builder with an address; none stands for all addresses. -/
def setAddress (b : Builder) (address : Option String) : Builder :=
  { b with address }

/-- The builder with a log file for the server. -/
def setLogFile (b : Builder) (logFile : Option Path) : Builder :=
  { b with logFile }

/-- The builder with a program that runs scripts. -/
def setExecutable (b : Builder) (executable : Path) : Builder :=
  { b with executable := some executable }

/-- The builder with a main script. -/
def setMainScript (b : Builder) (script : Path) : Builder :=
  { b with mainScript := some script }

/-- The builder with an environment for the server. -/
def setEnvironment (b : Builder) (environment : Table Value) : Builder :=
  { b with environment }

/-- The builder with a flag in its table. -/
def putArgument (b : Builder) (name value : String) : Builder :=
  { b with arguments := b.arguments.put name value }

/-- The builder with a port that was given as text to a flag. -/
def setPortText (b : Builder) (name value : String) : Except LaunchError Builder :=
  match Numeral.readInteger value with
  | .ok port => b.setPort port
  | .error _ => .error (refused noPortNumber name value (some .notAnInteger))

/-- The builder with a flag and its value, if it has one. -/
def addArgument (b : Builder) (flag : FlagName) (value : Option String) :
    Except LaunchError Builder :=
  let name := flag.argument
  match value with
  | none => .ok (b.putArgument name "")
  | some value =>
    if isPortFlag name then b.setPortText name value
    else if isAddressFlag name then .ok (b.setAddress (some value))
    else if isLogFlag name then .ok (b.setLogFile (some (Path.ofString value)))
    else if name == basePathFlag then
      (sanitizeBasePath (some value)).map fun path => b.putArgument name path
    else .ok (b.putArgument name value)

/-- The builder with a choice of the form of its capabilities, if one is made. -/
def chooseQuoting (b : Builder) (quote : Option Bool) : Builder :=
  { b with quoteOnWindows := quote.getD b.quoteOnWindows }

/-- The builder with capabilities over those it has. -/
def addCapabilities (b : Builder) (capabilities : Entries) : Builder :=
  { b with
    capabilities := some ((b.capabilities.getD Capabilities.empty).merge capabilities) }

/-- The time to wait for the server unless told otherwise. -/
def defaultTimeout : Value :=
  .float (Binary64.ofInt 20)

/-- A builder with nothing set. -/
def blank (locator : Locator) (hasStream : Bool) (log : LogSource) : Builder :=
  { executable := none, port := 0, timeout := defaultTimeout, environment := [], logFile := none,
    arguments := [], mainScript := none, address := none, capabilities := none,
    quoteOnWindows := false, locator, hasStream, log }

/-- A builder with the configured defaults and the environment of the launcher. -/
def ofConfig (config : ServerConfig) (environment : Table String) (locator : Locator)
    (hasStream : Bool) (log : LogSource) : Except LaunchError Builder := do
  let b := { blank locator hasStream log with address := some config.address }
  let b ← b.setPort config.port
  let b ← b.setTimeout (.float config.startupTimeout)
  let b := b.setEnvironment (environment.map fun e => (e.1, .text e.2))
  match config.basePath with
  | some path =>
    if path.toList.isEmpty then .ok b else b.addArgument (.general .basePath) (some path)
  | none => .ok b

/-- The defaults of the registered settings, or else the built-in ones. -/
def registeredConfig : WorldAct ServerConfig := do
  match ← tryResolve .settings with
  | none => return {}
  | some (.settings _ s) => return s.server
  | some _ => throw .noSuchPart

/-- Turns a refused setting into a failure. -/
def refusable {σ α : Type} (r : Except LaunchError α) : Act σ α :=
  Act.ofExcept (r.mapError .launch)

/-- A new builder. Without a section of settings it takes the registered one, and
    without a locator it makes one that has the same logger. -/
def create (config : Option ServerConfig) (locator : Option Locator) (hasStream : Bool)
    (logger : Option Logger) : WorldAct Builder := do
  let source : WorldAct LogSource := match logger with
    | some l => return .ofLogger l
    | none => LogSource.new
  let config ← match config with
    | some config => pure config
    | none => registeredConfig
  let log ← source
  let locator ← match locator with
    | some locator => pure locator
    | none => Locator.mk defaultSources (.float config.npmTimeout) <$> source
  let environment := (← get).host.environment
  refusable (ofConfig config environment locator hasStream log)

/-- Does something to the world while the builder stays as it is. -/
def inWorld {α : Type} (a : WorldAct α) : BuilderAct α :=
  a.onSecond

/-- The builder itself. -/
def self : BuilderAct Builder := do
  return (← get).1

/-- Changes the builder. -/
def change (f : Builder → Builder) : BuilderAct Unit :=
  modify fun (b, w) => (f b, w)

/-- Sets the port; zero means any free port. -/
def usePort (port : Int) : BuilderAct Unit := do
  if port < 0 then
    throw (.launch (refused negativePort "port" (Numeral.intText port) none))
  change fun b => { b with port }

/-- Whether a value is zero or less, for those that can be compared to zero. -/
def isNoDuration : Value → Except Failure Bool
  | .number n => .ok n.isNotPositive
  | .bool b => .ok !b
  | _ => .error .wrongKind

/-- Sets the number of seconds to wait for the server. -/
def useTimeout (timeout : Value) : BuilderAct Unit := do
  if ← Act.ofExcept (isNoDuration timeout) then
    throw (.launch (refused noTimeout "timeout" timeout.displayText none))
  change fun b => { b with timeout }

/-- Sets a flag, with its value if it has one. -/
def useArgument (flag : FlagName) (value : Option String) : BuilderAct Unit := do
  let name := flag.argument
  match value with
  | none => change fun b => b.putArgument name ""
  | some value =>
    if isPortFlag name then
      match Numeral.readInteger value with
      | .ok port => usePort port
      | .error _ => throw (.launch (refused noPortNumber name value (some .notAnInteger)))
    else if isAddressFlag name then change fun b => b.setAddress (some value)
    else if isLogFlag name then change fun b => b.setLogFile (some (Path.ofString value))
    else if name == basePathFlag then
      let path ← refusable (sanitizeBasePath (some value))
      change fun b => b.putArgument name path
    else change fun b => b.putArgument name value

/-- Writes one message to the log of the builder. -/
def note (level : LogLevel) (message : String) : BuilderAct Unit := do
  inWorld ((← self).log.log level message)

/-- Adds the capabilities that a value gives. The choice of their form counts even if it
    gives none. -/
def takeCapabilities (v : Value) (quote : Option Bool) : BuilderAct Unit := do
  change fun b => b.chooseQuoting quote
  let pairs ← Act.ofExcept (v.toPairs.mapError .entries)
  change fun b => b.addCapabilities pairs

/-- Asks the host for a free port. -/
def findFreePort : WorldAct Int :=
  modifyGet fun w => (w.host.freePort, w.record (.boundPort w.host.freePort))

/-- The program that runs scripts. -/
def resolveExecutable : BuilderAct Path := do
  let b ← self
  inWorld (b.locator.resolveNode b.executable)

/-- Flags of the table as they stand on a command line: without those that have no
    name, and without the values of switches. -/
def flagTokens (arguments : Table String) : List String :=
  arguments.flatMap fun (name, value) =>
    if name.toList.isEmpty then []
    else if value.toList.isEmpty then [name]
    else [name, value]

/-- The address that a server is bound to. -/
def boundAddress (b : Builder) : String :=
  match b.address with
  | some address => if address.toList.isEmpty then broadcastAddress4 else address
  | none => broadcastAddress4

/-- The flag of the default capabilities and their token, if there are any. -/
def capabilityTokens (b : Builder) (host : Host) : Except Failure (List String) :=
  match b.capabilities with
  | none => .ok []
  | some c =>
    match Capabilities.token (some c.entries) b.quoteOnWindows host.isWindows with
    | .ok token => .ok ["--default-capabilities", token]
    | .error _ => .error .wrongKind

/-- The arguments before the flags of the table. -/
def leadingTokens (b : Builder) (cwd script : Path) : List String :=
  [(script.absolute cwd).toText, "--port", Numeral.intText b.port, "--address", b.boundAddress] ++
    match b.logFile with
    | some logFile => ["--log", (logFile.absolute cwd).toText]
    | none => []

/-- The arguments of the program that runs scripts. The main script is found first. -/
def buildArguments : BuilderAct (List String) := do
  let b ← self
  let script ← inWorld (b.locator.resolveMainScript b.mainScript)
  change fun b => { b with mainScript := some script, address := some b.boundAddress }
  let b ← self
  let host := (← get).2.host
  let last ← Act.ofExcept (b.capabilityTokens host)
  return b.leadingTokens host.cwd script ++ flagTokens b.arguments ++ last

/-- The base path of the server: that of its flag, or else that of the short form. -/
def basePath (b : Builder) : Option String :=
  (b.arguments.lookup basePathFlag).or (b.arguments.lookup basePathAlias)

/-- The handle for a program and its arguments. It has the logger that the builder has
    by then. -/
def handle (b : Builder) (executable : Path) (arguments : List String) (logger : Provided) :
    Handle :=
  { address := b.boundAddress, executable, port := b.port, timeout := b.timeout, arguments,
    environment := b.environment, hasStream := b.hasStream, basePath := b.basePath, child := none,
    pipe := none, log := .given logger }

/-- Picks a free port, if any will do. -/
def pickPort : BuilderAct Unit := do
  if (← self).port = 0 then
    let port ← inWorld findFreePort
    change fun b => { b with port }
    note .debug ("Picked free port " ++ Numeral.intText port)

/-- Finds the files, writes the command line, and makes the handle. Nothing is
    launched. -/
def build : BuilderAct Handle := do
  pickPort
  let executable ← resolveExecutable
  change fun b => { b with executable := some executable }
  let arguments ← buildArguments
  note .debug ("Service command: " ++ executable.toText ++ " " ++ wordList arguments)
  let logger ← inWorld (← self).log.object
  return (← self).handle executable arguments logger

end Builder

end ServerLaunch
