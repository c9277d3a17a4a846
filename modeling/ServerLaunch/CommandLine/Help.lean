import ServerLaunch.CommandLine.Option
import ServerLaunch.Text.Wrap

/-!
# Commands and Their Help

What the program's commands are called, which options they know, and what they say
about themselves.

## Main definitions

* `Command`: The two commands.
* `groupOptions`, `Command.options`: The options.
* `Command.purpose`, `summary`: What they say about themselves.
* `usageLine`: How a command is used, in one line.
* `helpText`: How a command is used, in full.
-/

namespace ServerLaunch

namespace CommandLine

/-- The commands of the program. -/
inductive Command where
  | args
  | start
deriving DecidableEq, Repr

/-- The name of the program. -/
def programName : String := "appium-launcher"

/-- The version of the program. -/
def programVersion : String := "0.1.0"

namespace Command

/-- The name of a command. -/
def name : Command → String
  | .args => "args"
  | .start => "start"

/-- All commands, in the order of their names. -/
def all : List Command :=
  [.args, .start]

/-- The command of a name. -/
def ofName? (s : String) : Option Command :=
  all.find? fun c => c.name == s

end Command

/-- An option that shows help. -/
def helpOption : OptionSpec :=
  { names := ["--help"], role := .help, about := "Show this message and exit." }

/-- An option that shows the version. -/
def versionOption : OptionSpec :=
  { names := ["--version"], role := .version, about := "Show the version and exit." }

/-- The configuration file. -/
def configOption : OptionSpec :=
  { names := ["--config"], role := .value, value := "FILE"
    about := "Config file (default: nearest .appium-launcher/config.toml)." }

/-- An option that logs everything. -/
def verboseOption : OptionSpec :=
  { names := ["--verbose", "-v"], role := .switch, about := "Log debug output to stderr." }

/-- The options that come before a command. -/
def groupOptions : List OptionSpec :=
  [versionOption, configOption, verboseOption, helpOption]

/-- The options that both commands know. -/
def serverOptions : List OptionSpec :=
  [{ names := ["--port", "-p"], role := .value, value := "INTEGER RANGE", bounds := "[x>=0]"
     about := "Port to listen on (0 = any free port)." },
   { names := ["--address", "-a"], role := .value, value := "TEXT"
     about := "IP address to bind to." },
   { names := ["--log-file", "-g"], role := .value, value := "PATH"
     about := "File the server writes its log to." },
   { names := ["--node"], role := .value, value := "PATH"
     about := "Node.js executable (default: NODE_BINARY_PATH or PATH)." },
   { names := ["--main-script"], role := .value, value := "PATH"
     about := "Appium main.js (default: APPIUM_BINARY_PATH or npm root -g)." },
   { names := ["--arg"], role := .collected, value := "FLAG[=VALUE]"
     about := "Extra server flag, repeatable. Omit the value for switches." },
   { names := ["--caps"], role := .value, value := "JSON"
     about := "Default capabilities as a JSON object." },
   { names := ["--quote-caps-on-windows"], role := .switch
     about := "Escape-quote the capabilities argument on Windows." },
   { names := ["--timeout"], role := .value, value := "FLOAT RANGE", bounds := "[x>0]"
     about := "Seconds to wait for the server to become ready." }]

/-- The option of a command's own. -/
def Command.ownOption : Command → OptionSpec
  | .args =>
    { names := ["--json"], role := .switch, about := "Print the command as a JSON array." }
  | .start =>
    { names := ["--console"], role := .switch, about := "Show the server's console output." }

/-- The options of a command. -/
def Command.options (c : Command) : List OptionSpec :=
  serverOptions ++ [c.ownOption, helpOption]

/-- The options of the group or of a command. -/
def optionsOf : Option Command → List OptionSpec
  | none => groupOptions
  | some c => c.options

/-- The words by which the group or a command is called. -/
def calledAs : Option Command → String
  | none => programName
  | some c => programName ++ " " ++ c.name

/-- How the group or a command is used, in one line. -/
def usageLine (c : Option Command) : String :=
  "Usage: " ++ calledAs c ++
    match c with
    | none => " [OPTIONS] [COMMAND] [ARGS]..."
    | some _ => " [OPTIONS]"

/-- Lines of a text, each with its end. -/
def lines (ls : List String) : String :=
  String.join (ls.map (· ++ "\n"))

/-- What a command does, in one sentence. -/
def Command.purpose : Command → String
  | .args => "Print the command line that would launch the server."
  | .start => "Launch the server and keep it running until interrupted."

/-- What the group or a command says about itself before its options. -/
def summary : Option Command → List String
  | none =>
    ["appium-launcher - configure and launch a local Appium server",
      "",
      "Commands:",
      "    appium-launcher args     Print the server command line",
      "    appium-launcher start    Launch the server and wait"]
  | some .args =>
    [Command.args.purpose,
      "",
      "Resolves node and the main script exactly like `start`, but does not launch",
      "anything.",
      "",
      "Examples:",
      "",
      "    appium-launcher args --port 4725 --arg --relaxed-security",
      "",
      "    appium-launcher args --caps '\x7b\"platformName\": \"Android\"\x7d' --json"]
  | some .start =>
    [Command.start.purpose,
      "",
      "Examples:",
      "",
      "    appium-launcher start",
      "",
      "    appium-launcher start -p 0 --arg --base-path=/wd/hub --console"]

/-- A line of a summary, behind the margin unless it is empty. -/
def indented (line : String) : String :=
  if line.toList.isEmpty then line else Text.blanks Text.margin ++ line

/-- An option as its help lists it: its names, the short ones first, and its value. -/
def OptionSpec.label (o : OptionSpec) : String :=
  let names := o.names.filter (fun name => !startsLong name) ++ o.names.filter startsLong
  ", ".intercalate names ++ if o.value.toList.isEmpty then "" else " " ++ o.value

/-- What the help says about an option. -/
def OptionSpec.description (o : OptionSpec) : String :=
  o.about ++ if o.bounds.toList.isEmpty then "" else "  " ++ o.bounds

/-- The options, as the help lists them. -/
def optionLines (options : List OptionSpec) : List String :=
  ["", "Options:"] ++ Text.listing (options.map fun o => (o.label, o.description))

/-- The commands, as the help lists them. -/
def commandLines : List String :=
  ["", "Commands:"] ++ Text.listing (Command.all.map fun c => (c.name, c.purpose))

/-- How the group or a command is used, in full. -/
def helpText (c : Option Command) : String :=
  lines (usageLine c :: "" :: (summary c).map indented ++ optionLines (optionsOf c) ++
    if c.isNone then commandLines else [])

/-- What the program says about its version. -/
def versionText : String :=
  programName ++ ", version " ++ programVersion ++ "\n"

end CommandLine

end ServerLaunch
