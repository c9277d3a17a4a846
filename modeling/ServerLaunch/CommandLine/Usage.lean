import ServerLaunch.CommandLine.Help
import ServerLaunch.Number
import ServerLaunch.Text.Quoted
import ServerLaunch.World.Host

/-!
# Values of Options

What the options of a command line mean, and what is said about a mistake in them.

Values are looked at in the order in which their options first appear, so the first
mistake is the first that a reader would come upon. An option that is given twice has
its last value. Most mistakes are told with a reminder of how the command is used.

## Main definitions

* `UsageFault`: A mistake, and `UsageFault.text`, what is said about it.
* `ServerOptions`, `readServerOptions`: The options that both commands know.
* `readConfigOption`: The configuration file.
-/

namespace ServerLaunch

namespace CommandLine

/-- A mistake on a command line. -/
inductive UsageFault where
  | words (fault : ParseFault)
  | noCommand (name : String) (similar : List String)
  | invalid (option message : String)
  | extraWords (extra : List String)
deriving DecidableEq, Repr

namespace UsageFault

/-- A name in quotes. -/
def quotedName (name : String) : String :=
  Text.quoted name

/-- The names that may have been meant, if there are any. -/
def suggestion (similar : List String) : String :=
  match similar with
  | [] => ""
  | [name] => " Did you mean " ++ quotedName name ++ "?"
  | names => " (Did you mean one of: " ++ ", ".intercalate (names.map quotedName) ++ "?)"

/-- The mistake in one line. -/
def message : UsageFault → String
  | .words (.unknown name similar) =>
    "No such option " ++ quotedName name ++ "." ++ suggestion similar
  | .words (.missingValue name) => "Option " ++ quotedName name ++ " requires an argument."
  | .words (.unwantedValue name) => "Option " ++ quotedName name ++ " does not take a value."
  | .noCommand name similar =>
    "No such command " ++ quotedName name ++ "." ++ suggestion similar
  | .invalid option message => "Invalid value for " ++ option ++ ": " ++ message
  | .extraWords extra =>
    "Got unexpected extra argument" ++ (if extra.length = 1 then "" else "s") ++ " (" ++
      " ".intercalate extra ++ ")"

/-- Whether the use of the command is told along with the mistake. -/
def needsUsage : UsageFault → Bool
  | .words (.missingValue _) | .words (.unwantedValue _) => false
  | _ => true

/-- An error in one line. -/
def errorLine (message : String) : String :=
  "Error: " ++ message ++ "\n"

/-- What is said about a mistake in the group or in a command. -/
def text (c : Option Command) (fault : UsageFault) : String :=
  (if fault.needsUsage then
    lines [usageLine c, "Try '" ++ calledAs c ++ " --help' for help.", ""]
  else "") ++ errorLine fault.message

/-- The exit code of a program that is used wrongly. -/
def exitCode : Int := 2

end UsageFault

/-- An option as a mistake in its value names it. -/
def optionHint (o : OptionSpec) : String :=
  " / ".intercalate (o.names.map UsageFault.quotedName)

/-- A whole number that is not negative. -/
def readPort (s : String) : Except String Int :=
  match Numeral.readInteger s with
  | .error _ => .error (Text.quoted s ++ " is not a valid integer range.")
  | .ok i =>
    if i < 0 then .error (Numeral.intText i ++ " is not in the range x>=0.") else .ok i

/-- A number that is not zero or less. -/
def readTimeout (s : String) : Except String Number :=
  match Numeral.readFloat? s with
  | none => .error (Text.quoted s ++ " is not a valid float range.")
  | some x =>
    let n := Number.float x
    if n.isNotPositive then .error (n.text ++ " is not in the range x>0.") else .ok n

/-- A path, which has to be readable if there is something. A look that is refused finds
    nothing. -/
def readPath (host : Host) (s : String) : Except String Path :=
  let p := Path.ofString s
  if host.pathExists p ∧ host.reading p = .refused then
    .error ("Path " ++ Text.quoted s ++ " is not readable.")
  else .ok p

/-- A path of a file, which has to be there. -/
def readFile (host : Host) (s : String) : Except String Path :=
  let p := Path.ofString s
  if !host.pathExists p then .error ("File " ++ Text.quoted s ++ " does not exist.")
  else
    match host.reading p with
    | .content _ => .ok p
    | .directory => .error ("File " ++ Text.quoted s ++ " is a directory.")
    | _ => .error ("File " ++ Text.quoted s ++ " is not readable.")

/-- The options that both commands know. -/
structure ServerOptions where
  port : Option Int := none
  address : Option String := none
  logFile : Option Path := none
  node : Option Path := none
  mainScript : Option Path := none
  arguments : List String := []
  caps : Option String := none
  quoteCaps : Bool := false
  timeout : Option Number := none
deriving Repr

/-- The options with one of them set to its values, of which the last counts unless they
    are collected. -/
def ServerOptions.set (host : Host) (options : ServerOptions) (o : OptionSpec)
    (values : List String) : Except String ServerOptions :=
  match o.names.head?, values.getLast? with
  | some "--port", some s => (readPort s).map fun port => { options with port := some port }
  | some "--address", some s => .ok { options with address := some s }
  | some "--log-file", some s =>
    (readPath host s).map fun path => { options with logFile := some path }
  | some "--node", some s => (readPath host s).map fun path => { options with node := some path }
  | some "--main-script", some s =>
    (readPath host s).map fun path => { options with mainScript := some path }
  | some "--arg", some _ => .ok { options with arguments := values }
  | some "--caps", some s => .ok { options with caps := some s }
  | some "--quote-caps-on-windows", _ => .ok { options with quoteCaps := true }
  | some "--timeout", some s =>
    (readTimeout s).map fun timeout => { options with timeout := some timeout }
  | _, _ => .ok options

/-- The options of a command line, in the order in which they first appear. -/
def setAll (host : Host) (p : ParsedWords) :
    List OptionSpec → ServerOptions → Except UsageFault ServerOptions
  | [], options => .ok options
  | o :: rest, options =>
    match options.set host o (p.values o) with
    | .ok options => setAll host p rest options
    | .error message => .error (.invalid (optionHint o) message)

/-- The options of a command line of a command; no other words may be left. -/
def readServerOptions (host : Host) (p : ParsedWords) : Except UsageFault ServerOptions :=
  match setAll host p p.given {} with
  | .error fault => .error fault
  | .ok options => if p.extra.isEmpty then .ok options else .error (.extraWords p.extra)

/-- The configuration file of a command line. -/
def readConfigOption (host : Host) (p : ParsedWords) : Except UsageFault (Option Path) :=
  match (p.values configOption).getLast? with
  | none => .ok none
  | some s =>
    match readFile host s with
    | .ok path => .ok (some path)
    | .error message => .error (.invalid (optionHint configOption) message)

end CommandLine

end ServerLaunch
