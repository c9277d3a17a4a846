import ServerLaunch.Container.Resolve
import ServerLaunch.Toml.Document

/-!
# Searching the Configuration

Where the settings are written down.

A directory has a configuration of its own in a hidden directory, or shares the file of
a project if that has a section for the launcher. The nearest directory that has one
decides, going upwards from where the search starts.

The file of a project may belong to somebody else. One that cannot be read or that is
no TOML is passed over with a note in the log; but a text that is not UTF-8, or a
document whose tools are no table, makes the search fail in its own way, and so does a look
at one of the two files that the system refuses.

## Main definitions

* `hasLauncherSection`: Whether the tools of a project include the launcher.
* `ReadFault`, `readDocument`: A TOML file.
* `findConfig`: The nearest configuration.
-/

namespace ServerLaunch

/-- The directory of a configuration. -/
def configDirectory : String := ".appium-launcher"

/-- The file of a configuration. -/
def configFileName : String := "config.toml"

/-- The file of a project. -/
def projectFileName : String := "pyproject.toml"

/-- The name of the launcher among the tools of a project. -/
def toolName : String := "appium-launcher"

/-- Why a file gives no settings. Such files are passed over. -/
inductive ReadFault where
  | noToml
  | missing
  | directory
  | refused
  | longName
deriving DecidableEq, Repr

namespace ReadFault

/-- How a note in the log names the fault. -/
def text : ReadFault → String
  | .noToml => "TOMLDecodeError"
  | .missing => "FileNotFoundError"
  | .directory => "IsADirectoryError"
  | .refused => "PermissionError"
  | .longName => "OSError"

/-- What could not be done with the file. -/
def verb : ReadFault → String
  | .noToml => "parse"
  | _ => "read"

end ReadFault

/-- The table of a TOML file, or why there is none. -/
def readDocument (opened : Opened) : Except Failure (Except ReadFault Entries) :=
  match opened with
  | .missing => .ok (.error .missing)
  | .directory => .ok (.error .directory)
  | .refused => .ok (.error .refused)
  | .longName => .ok (.error .longName)
  | .content bs =>
    match Utf8.decode? bs with
    | none => .error .encoding
    | some s =>
      match Toml.parse s with
      | .ok es => .ok (.ok es)
      | .error .malformed => .ok (.error .noToml)
      | .error (.longNumeral digits) => .error (.longNumeral digits)
      | .error .tooDeep => .error .nesting

/-- Whether a text has another one somewhere in it. -/
def occursIn (part : List Char) : List Char → Bool
  | [] => part.isEmpty
  | c :: cs => part.isPrefixOf (c :: cs) || occursIn part cs

/-- Whether the tools of a project include the launcher. Anything that can hold a text
    will do for the tools; a number will not. -/
def hasLauncherSection (project : Entries) : Except Failure Bool :=
  match (Entries.getText? project "tool").getD (.dict []) with
  | .dict tools => .ok (Entries.has tools (.text toolName))
  | .text s => .ok (occursIn toolName.toList s.toList)
  | .list vs => .ok (vs.any fun v => v.same (.text toolName))
  | _ => .error .wrongKind

/-- Writes one message to the registered logger. -/
def noteRegistered (level : LogLevel) (message : String) : WorldAct Unit := do
  (← asLogger (← registeredLogger)).log .launcher level message

/-- The configuration of a directory's own. -/
def ownConfig (directory : Path) : Path :=
  (directory.child configDirectory).child configFileName

/-- The file of a project in a directory. -/
def projectFile (directory : Path) : Path :=
  directory.child projectFileName

/-- The note about a project's file that is passed over. -/
def passedOver (file : Path) (fault : ReadFault) : String :=
  "Failed to " ++ fault.verb ++ " " ++ projectFileName ++ " at " ++ file.toText ++ ": " ++
    fault.text

/-- Whether the file of a project has settings of the launcher. -/
def sharesConfig (file : Path) : WorldAct Bool := do
  match ← Act.ofExcept (readDocument ((← get).host.reading file)) with
  | .ok project => Act.ofExcept (hasLauncherSection project)
  | .error fault =>
    noteRegistered .debug (passedOver file fault)
    return false

/-- The configuration of a directory, if it has one. -/
def configOf? (directory : Path) : WorldAct (Option Path) := do
  if ← lookAt (ownConfig directory) then return some (ownConfig directory)
  else if ← lookAt (projectFile directory) then
    if ← sharesConfig (projectFile directory) then return some (projectFile directory)
    else return none
  else return none

/-- The configuration of the first directory that has one. -/
def firstConfig? : List Path → WorldAct (Option Path)
  | [] => return none
  | directory :: directories => do
    match ← configOf? directory with
    | some file => return some file
    | none => firstConfig? directories

/-- Where a search starts: at a directory of that name, or else at the current one. -/
def searchStart (start : Option String) (cwd : Path) : Path :=
  match start with
  | some s => if s.toList.isEmpty then cwd else Path.ofString s
  | none => cwd

/-- The nearest configuration, from the start of the search upwards. -/
def findConfig (start : Option String) : WorldAct (Option Path) := do
  let directory := searchStart start (← get).host.cwd
  firstConfig? (directory :: directory.parents)

end ServerLaunch
