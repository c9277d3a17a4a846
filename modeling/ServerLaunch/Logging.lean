import ServerLaunch.Logging.Template
import ServerLaunch.Text.LetterCase
import ServerLaunch.World

/-!
# Logging

What the loggers do to the world.

A message goes to the console and to the file of the channel of its logger, to each at
most once, if its severity reaches the threshold of the channel. Where the channel has
neither, a message that is grave enough goes to the console all the same, bare of level
and name. The path of the file does not say for good which file it is, since log files are
set aside once they are large.

Opening a logger closes what was open for its name before. If the directory of the log
file cannot be made, the channel stays as it is by then: level and console are set, the
file is not.

## Main definitions

* `Logger.log`: One message.
* `openLogger`: A logger configured from its section.
* `severityOfName`, `Logger.setLevel`: Levels by name.
-/

namespace ServerLaunch

/-- A message on the console as a line. -/
def LogRecord.line (entry : LogRecord) : String :=
  entry.label ++ " " ++ entry.name ++ ": " ++ entry.message ++ "\n"

/-- A message on the console as a line, without level and name. -/
def LogRecord.bareLine (entry : LogRecord) : String :=
  entry.message ++ "\n"

/-- What an event writes to the console or, as complaints do, beside it. -/
def Event.consoleText : Event → String
  | .shown entry => entry.line
  | .shownBare entry => entry.bareLine
  | .complained text => text
  | _ => ""

/-- From which severity on a message without a place to go is shown. -/
def bareThreshold : Severity := 30

/-- The world with a message put into the log file of a channel. -/
def World.file (w : World) (name : String) (entry : LogRecord) : World :=
  match w.logs.streams.lookup name with
  | some stream =>
    { w with logs := w.logs.filed w.host.sizeAt name stream entry }.record
      (.filed (w.logs.filing stream entry) entry)
  | none => w

/-- The world with a message written to the places of the channel of its name. -/
def Channel.write (channel : Channel) (entry : LogRecord) (w : World) : World :=
  let w := if channel.console then w.record (.shown entry) else w
  if channel.file.isSome then w.file entry.name entry else w

/-- Whether a channel has no place for messages to go. -/
def Channel.isBare (channel : Channel) : Bool :=
  !channel.console && channel.file.isNone

/-- The world with a message that a logger of the launcher got. -/
def World.writeLog (w : World) (name : String) (level : LogLevel) (message : String) : World :=
  let channel := w.channels.find name
  let entry : LogRecord := ⟨level.label, name, message⟩
  if w.channels.threshold name ≤ level.severity then
    if channel.isBare then
      if bareThreshold ≤ level.severity then w.record (.shownBare entry) else w
    else channel.write entry w
  else w

/-- One message. -/
def Logger.log (logger : Logger) (writer : Writer) (level : LogLevel) (message : String) :
    WorldAct Unit :=
  modify fun w =>
    match logger with
    | .silent _ => w
    | .journal => w.record (.noted writer level message)
    | .launcher _ name _ => w.writeLog name level message

/-- Makes a directory, unless the system refuses. -/
def makeDirectory (p : Path) : WorldAct Unit := fun w =>
  match w.host.refusal with
  | some text => (.error (.denied text), w)
  | none => (.ok (), w.record (.madeDirectory p))

/-- Opens the channel of a name anew. -/
def openChannel (name : String) (config : LoggingConfig) (file : Option Path) : WorldAct Unit :=
  modify fun w =>
    { w with
      channels := w.channels.configure name config.level.severity config.console file }

/-- Opens the log file of the channel of a name. -/
def openLogFile (name : String) (path : Path) : WorldAct Unit :=
  modify fun w =>
    { w with logs := w.logs.openAt w.host.sizeAt name (w.host.locate path) }.record
      (.openedLog path)

/-- The log file, unless the settings name one. -/
def defaultLogFile (home : Path) : Path :=
  (home.child ".appium-launcher").child "launcher.log"

/-- The name of the launcher's own logger. -/
def launcherName : String := "appium_launcher"

/-- A logger of a name, configured from its section. -/
def openLogger (config : LoggingConfig) (name : String) : WorldAct Logger := do
  let name := channelName name
  openChannel name config none
  if config.file then
    let home := (← get).host.home
    let path := config.filePath.getD (defaultLogFile home)
    makeDirectory path.parent
    openLogFile name path
    openChannel name config (some path)
    return .launcher (← newSerial) name (some path)
  else
    return .launcher (← newSerial) name none

/-- Levels by the names that are understood. -/
def severities : List (String × Severity) :=
  [("DEBUG", 10), ("INFO", 20), ("WARN", 30), ("WARNING", 30), ("ERROR", 40), ("CRITICAL", 50),
    ("FATAL", 50), ("NOTSET", 0)]

/-- The severity of a name, whatever the case of its letters. A name that is not
    understood means a warning; two names stand for something that is no level. -/
def severityOfName (s : String) : Except Failure Severity :=
  let name := Text.upperToAscii s
  match severities.lookup name with
  | some severity => .ok severity
  | none =>
    if name == "BASIC_FORMAT" then .error (.unknownLevel "%(levelname)s:%(name)s:%(message)s")
    else if name == "_STYLES" then .error .wrongKind
    else .ok LogLevel.warning.severity

/-- Sets the threshold of a logger by the name of a level. -/
def Logger.setLevel (logger : Logger) (level : String) : WorldAct Unit :=
  match logger with
  | .launcher _ name _ => do
    let severity ← Act.ofExcept (severityOfName level)
    modify fun w => { w with channels := w.channels.setThreshold name severity }
  | _ => return

/-- One message of a template and values; one that cannot be written is dropped. -/
def Logger.logFormatted (logger : Logger) (level : LogLevel) (template : String)
    (values : List Value) : WorldAct Unit :=
  match formatMessage template values with
  | some message => logger.log .launcher level message
  | none => return

end ServerLaunch
