import ServerLaunch.Bootstrap
import ServerLaunch.CommandLine.Argument
import ServerLaunch.CommandLine.ShellScript
import ServerLaunch.CommandLine.Usage
import ServerLaunch.Json.Writer
import ServerLaunch.Server.Builder
import ServerLaunch.Text.ControlSequence
import ServerLaunch.Text.ShellWord

/-!
# Running the Program

From the words of a command line to an exit code.

Both commands prepare a server in the same way; one prints the command that would launch
it, the other launches it and waits until it ends or the user interrupts. Mistakes on
the command line, errors of the launcher and interruptions become messages and exit
codes; any other failure passes through. What is printed for a user has no control
sequences.

The options of a command are looked at after its context is made, so its log file is
open by then even if they are faulty.

A shell may run the program to ask how a command line can go on, or a user to get the
script by which it asks. Then the words do not count, and the answer is printed as it is.

## Main definitions

* `ServerOptions.apply`: The options as settings of a builder.
* `prepare`: The handle of the server that the options describe.
* `runArgs`, `runStart`: The two commands.
* `runWords`, `answerShell`: A command line, and the answer to a shell.
* `run`: The program.
-/

namespace ServerLaunch

namespace CommandLine

/-- Prints a text for the user. -/
def print (text : String) : WorldAct Unit :=
  record (.printed (ControlSequence.plain text))

/-- Prints a complaint. -/
def complain (text : String) : WorldAct Unit :=
  record (.complained (ControlSequence.plain text))

/-- Does something with a value that an option has. -/
def given {α β ε : Type} (value : Option β) (f : α → β → Except ε α) (a : α) : Except ε α :=
  match value with
  | some b => f a b
  | none => .ok a

/-- Adds flags of the server, one after the other. -/
def addArguments (b : Builder) : List String → Except LaunchError Builder
  | [] => .ok b
  | raw :: rest =>
    match b.addArgument (.text (splitArgument raw).1) (splitArgument raw).2 with
    | .ok b => addArguments b rest
    | .error e => .error e

/-- The options as settings of a builder, apart from the capabilities. -/
def ServerOptions.apply (o : ServerOptions) (b : Builder) : Except LaunchError Builder := do
  let b ← given o.port Builder.setPort b
  let b ← given o.address (fun b s => .ok (b.setAddress (some s))) b
  let b ← given o.logFile (fun b p => .ok (b.setLogFile (some p))) b
  let b ← given o.node (fun b p => .ok (b.setExecutable p)) b
  let b ← given o.mainScript (fun b p => .ok (b.setMainScript p)) b
  let b ← given o.timeout Builder.setTimeout b
  addArguments b o.arguments

/-- The option of the capabilities, as a mistake in it names it. -/
def capsHint : String := "--caps"

/-- The capabilities as a setting of a builder. A text that is no JSON is a mistake of
    the user; one that is beyond the limits of the reader is a failure. -/
def ServerOptions.applyCaps (o : ServerOptions) (b : Builder) :
    Except Failure (Except UsageFault Builder) :=
  match o.caps with
  | none => .ok (.ok b)
  | some text =>
    match readCapabilities text with
    | .ok es => .ok (.ok ((b.chooseQuoting (some o.quoteCaps)).addCapabilities es))
    | .error (.tooLong digits) => .error (.longNumeral digits)
    | .error .tooDeep => .error .nesting
    | .error fault => .ok (.error (.invalid capsHint (fault.usageMessage?.getD "")))

/-- The handle of the server that the options describe. -/
def prepare (context : LaunchContext) (o : ServerOptions) (hasStream : Bool) :
    WorldAct (Except UsageFault Handle) := do
  let logger ← asLogger context.logger
  let b ← Builder.create (some context.settings.server) none hasStream (some logger)
  let b ← Builder.refusable (o.apply b)
  match ← Act.ofExcept (o.applyCaps b) with
  | .error fault => return .error fault
  | .ok b =>
    let handle ← Act.zoom (fun w => (b, w)) (fun s _ => s.2) Builder.build
    return .ok handle

/-- A command as one line: as JSON, or as words for a shell. -/
def commandLine (asJson : Bool) (command : List String) : String :=
  (if asJson then Json.asciiList command else ShellWord.joinWords command) ++ "\n"

/-- Prints the command that would launch the server. -/
def runArgs (context : LaunchContext) (o : ServerOptions) (asJson : Bool) :
    WorldAct (Except UsageFault Int) := do
  match ← prepare context o false with
  | .error fault => return .error fault
  | .ok handle =>
    print (commandLine asJson handle.command)
    return .ok 0

/-- Does something with a handle that nobody keeps. -/
def withHandle {α : Type} (handle : Handle) (a : HandleAct α) : WorldAct α :=
  Act.zoom (fun w => (handle, w)) (fun s _ => s.2) a

/-- What is printed once the server is ready. -/
def readyText (url : String) : String :=
  lines ["Appium server running at " ++ url, "Press Ctrl+C to stop."]

/-- What is printed when the user interrupts. -/
def stoppingText : String :=
  lines ["", "Stopping Appium server..."]

/-- What is said about a server that ended with an exit code. -/
def endedMessage (code : Int) : String :=
  "Appium server exited with code " ++ Numeral.intText code

/-- Waits until the server ends, and stops it if the user interrupts. It gives the exit
    code of the program. -/
def waitForEnd : HandleAct Int := do
  match ← Handle.wait.attempt with
  | .ok code =>
    if code = 0 then return 0
    else
      Handle.inWorld (complain (UsageFault.errorLine (endedMessage code)))
      return LaunchError.exitCode
  | .error .interrupted =>
    Handle.inWorld (print stoppingText)
    Handle.stop
    return 0
  | .error failure => throw failure

/-- Launches the server and waits until it ends. -/
def launchAndWait : HandleAct Int := do
  Handle.start
  Handle.inWorld (print (readyText (← Handle.self).url))
  waitForEnd

/-- Launches the server and waits until it ends. -/
def runStart (context : LaunchContext) (o : ServerOptions) (hasConsole : Bool) :
    WorldAct (Except UsageFault Int) := do
  match ← prepare context o hasConsole with
  | .error fault => return .error fault
  | .ok handle => return .ok (← withHandle handle launchAndWait)

/-- Errors of the launcher become a message and an exit code. -/
def reportErrors (a : WorldAct (Except UsageFault Int)) : WorldAct (Except UsageFault Int) := do
  match ← a.attempt with
  | .error (.launch e) =>
    complain (UsageFault.errorLine e.text)
    return .ok LaunchError.exitCode
  | outcome => Act.ofExcept outcome

/-- Reports a mistake on the command line. -/
def refuse (c : Option Command) (fault : UsageFault) : WorldAct Int := do
  complain (fault.text c)
  return UsageFault.exitCode

/-- Shows what an option shows at once. -/
def showAtOnce (c : Option Command) : OptionRole → WorldAct Int
  | .version => do
    print versionText
    return 0
  | _ => do
    print (helpText c)
    return 0

/-- Runs a command whose options are read. -/
def Command.perform (c : Command) (context : LaunchContext) (o : ServerOptions) (own : Bool) :
    WorldAct (Except UsageFault Int) :=
  reportErrors <|
    match c with
    | .args => runArgs context o own
    | .start => runStart context o own

/-- Whether the option of a command's own is given. -/
def Command.hasOwn (c : Command) (p : ParsedWords) : Bool :=
  c.ownOption.names.any p.has

/-- Runs a command in its context. -/
def Command.run (c : Command) (context : LaunchContext) (words : List String) : WorldAct Int := do
  match parseWords true c.options words with
  | .error fault => refuse (some c) (.words fault)
  | .ok p =>
    match p.eager? with
    | some role => showAtOnce (some c) role
    | none =>
      match readServerOptions (← get).host p with
      | .error fault => refuse (some c) fault
      | .ok o =>
        match ← c.perform context o (c.hasOwn p) with
        | .ok code => return code
        | .error fault => refuse (some c) fault

/-- The options of the group: what they show at once, or the configuration file, whether
    to log everything, and the words behind them. -/
inductive GroupReading where
  | atOnce (role : OptionRole)
  | config (path : Option Path) (isVerbose : Bool) (words : List String)
deriving Repr

/-- Reads the options of the group. -/
def readGroup (host : Host) (words : List String) : Except UsageFault GroupReading :=
  match parseWords false groupOptions words with
  | .error fault => .error (.words fault)
  | .ok p =>
    match p.eager? with
    | some role => .ok (.atOnce role)
    | none => (readConfigOption host p).map fun path => .config path (p.has "--verbose") p.extra

/-- A word that names no command, as a mistake. -/
def unknownName (name : String) : UsageFault :=
  .noCommand name (Similarity.closeMatches name (Command.all.map Command.name))

/-- What becomes of words that name no command. If the first of them looks like an
    option, they are read as options of the group once more. -/
def unknownCommand (host : Host) (name : String) (words : List String) : WorldAct Int :=
  if name.toList.head? == some '-' then
    match readGroup host words with
    | .error fault => refuse none fault
    | .ok (.atOnce role) => showAtOnce none role
    | .ok _ => refuse none (unknownName name)
  else refuse none (unknownName name)

/-- Runs the program, apart from interruptions. -/
def dispatch (words : List String) : WorldAct Int := do
  let host := (← get).host
  match readGroup host words with
  | .error fault => refuse none fault
  | .ok (.atOnce role) => showAtOnce none role
  | .ok (.config _ _ []) => showAtOnce none .help
  | .ok (.config path isVerbose (name :: rest)) =>
    match Command.ofName? name with
    | none => unknownCommand host name (name :: rest)
    | some c => c.run (← LaunchContext.create path isVerbose none) rest

/-- What is said to a user who interrupts. -/
def abortedText : String :=
  lines ["", "Aborted!"]

/-- The exit code for a shell that asks for something unknown. -/
def unknownRequestCode : Int := 1

/-- Makes sure that a shell can use its script, where that depends on its version. A shell
    that is not found is warned of. One that is found is asked, but octets are expected, and
    programs answer with text, so the check fails. -/
def checkVersion (shell : Shell) : WorldAct Unit := do
  if shell = .bash then
    match (← get).host.program? "bash" with
    | none => complain (lines [versionUnknown])
    | some bash =>
      record (.ran (versionCommand bash) .null)
      throw .noSuchPart

/-- Answers a shell that asks what may be typed next, or for the script that makes it
    ask. -/
def answerShell : Request → WorldAct Int
  | .unknown => return unknownRequestCode
  | .script shell => do
    checkVersion shell
    record (.printed (shellScript shell))
    return 0
  | .complete shell => do
    let line ← Act.ofExcept (TypedLine.ofEnvironment (← get).host shell)
    record (.printed (completionText shell line))
    return 0

/-- Runs a command line. It gives the exit code. -/
def runWords (words : List String) : WorldAct Int := do
  match ← (dispatch words).attempt with
  | .error .interrupted =>
    complain abortedText
    return LaunchError.exitCode
  | outcome => Act.ofExcept outcome

/-- Runs the program, on behalf of a shell if one asks for something, or for the words of
    its command line. It gives the exit code. -/
def run (words : List String) : WorldAct Int := do
  match Request.ofEnvironment? (← get).host with
  | some request => answerShell request
  | none => runWords words

end CommandLine

end ServerLaunch
