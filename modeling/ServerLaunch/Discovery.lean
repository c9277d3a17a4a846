import ServerLaunch.Container.Resolve
import ServerLaunch.Discovery.Lookup

/-!
# Discovery

Finding the two files that a launch needs: the program that runs scripts, and the main
script of the server.

Each is settled by the first of three that says anything: a path that the caller gives,
an override, and a search. What it says is final. If the path that it leads to does not
exist, the launch is impossible, even if a later one would have led somewhere.

The search for the main script asks the package manager where it keeps modules, and
expects the script at a fixed place below.

Two things go wrong here without being taken for a faulty installation: a look at a path
that the system refuses, and a package manager whose run breaks down in one of the ways of
`RunFault`. Both pass through as they are.

## Main definitions

* `Locator`: How to find the files.
* `Locator.resolveNode`, `Locator.resolveMainScript`: The two files.
* `Locator.findMainScript`: The search for the main script.
-/

namespace ServerLaunch

/-- How to find the files that a launch needs. -/
structure Locator where
  sources : List LookupSource
  npmTimeout : Value
  log : LogSource
deriving Inhabited, Repr

/-- The name by which the main script is overridden. -/
def mainScriptVariable : String := "APPIUM_BINARY_PATH"

/-- The name by which the program that runs scripts is overridden. -/
def nodeVariable : String := "NODE_BINARY_PATH"

/-- Where the main script lies below the directory of modules. -/
def mainScriptSuffix : Path :=
  Path.ofString "appium/build/lib/main.js"

/-- How long the package manager may take unless told otherwise. -/
def defaultNpmTimeout : Value :=
  .float (Binary64.ofInt 60)

/-- The message about a main script that is not there. -/
def scriptMissing (cwd p : Path) : String :=
  "The main Appium script does not exist at '" ++ (p.absolute cwd).toText ++ "'"

/-- The message about a program that is not there. -/
def nodeMissing (cwd p : Path) : String :=
  "The main NodeJS executable does not exist at '" ++ (p.absolute cwd).toText ++ "'"

/-- The message about a package manager that is not there. -/
def npmMissing : String :=
  "Node Package Manager (npm) is either not installed or its executable is not present in PATH"

/-- The message about a program that the search does not find. -/
def nodeNotInstalled : String :=
  "NodeJS is either not installed or its executable not present in PATH"

/-- The message about a package manager that does not answer. -/
def modulesUnknown : String :=
  "Cannot retrieve the path to the folder where NodeJS modules are located"

/-- The path if it exists; else the launch is impossible. -/
def validatePath (p : Option Path) (message : String) : WorldAct Path := do
  match p with
  | some p =>
    if ← lookAt p then return p
    else throw (.launch (LaunchError.of .invalidInstance message { path := some p.toText }))
  | none => throw (.launch (LaunchError.of .invalidInstance message {}))

/-- What goes wrong with running a program, as a failure. -/
def RunFault.failure : RunFault → Failure
  | .undecodable => .encoding
  | .limitTooLong => .tooLarge
  | .limitUnfit => .wrongKind
  | .interrupted => .interrupted

/-- The answer of the package manager: what is printed, or from what the failure to tell
    comes. A run that breaks down is no answer. -/
def NpmOutcome.answer : NpmOutcome → Except Failure (Except Cause String)
  | .printed text => .ok (.ok text)
  | .failed => .ok (.error .programFailed)
  | .timedOut => .ok (.error .programTimedOut)
  | .missing => .ok (.error .noSuchProgram)
  | .broken fault => .error fault.failure

/-- Runs the package manager. -/
def runNpm (command : List String) (timeout : Value) : WorldAct (Except Cause String) := do
  record (.ran command timeout)
  Act.ofExcept (← get).host.npm.answer

/-- Words with a blank between two of them. -/
def spaced (words : List String) : String :=
  " ".intercalate words

/-- A list of words as messages show it. -/
def wordList (words : List String) : String :=
  String.ofList (Value.list (words.map Value.text)).literal

/-- The command that asks the package manager where it keeps modules. On a host where
    it is a batch script it needs another program to run it. -/
def npmRootCommand (host : Host) (npm : Path) : List String :=
  let command := [(npm.absolute host.cwd).toText, "root", "-g"]
  if host.isWindows then "cmd.exe" :: "/c" :: command else command

namespace Locator

/-- Searches for a program. -/
def findBinary (l : Locator) (name message : String) : WorldAct Path := do
  l.log.log .debug ("Searching PATH for " ++ name)
  record (.searched name)
  let found := ((← get).host.program? name).filter fun s => !s.toList.isEmpty
  match found with
  | some s => l.log.log .debug ("Found " ++ name ++ " at: " ++ s)
  | none => pure ()
  validatePath (found.map Path.ofString) message

/-- Searches for the package manager. -/
def findNpm (l : Locator) : WorldAct Path :=
  l.findBinary "npm" npmMissing

/-- Searches for the main script below the directory that the package manager tells. -/
def findMainScript (l : Locator) : WorldAct Path := do
  let npm ← l.findNpm
  let command := npmRootCommand (← get).host npm
  l.log.log .debug ("Querying global modules root: " ++ wordList command)
  match ← runNpm command l.npmTimeout with
  | .error cause =>
    let context : Entries := [(.text "command", .text (spaced command))]
    throw (.launch ⟨.invalidInstance, modulesUnknown, context, some cause⟩)
  | .ok text =>
    let root := Text.trimmed text
    l.log.log .debug ("Global modules root: " ++ root)
    let script := (Path.ofString root).append mainScriptSuffix
    validatePath (some script) (scriptMissing (← get).host.cwd script)

/-- The file that a caller gives, an override names, or a search finds. -/
def resolveFile (l : Locator) (overrideName use : String) (missing : Path → Path → String)
    (search : WorldAct Path) (explicit : Option Path) : WorldAct Path := do
  let w ← get
  match explicit with
  | some p => validatePath (some p) (missing w.host.cwd p)
  | none =>
    match lookupPath w overrideName l.sources with
    | some p =>
      l.log.log .debug ("Using " ++ use ++ " from " ++ overrideName ++ ": " ++ p.toText)
      validatePath (some p) (missing w.host.cwd p)
    | none => search

/-- The program that runs scripts. -/
def resolveNode (l : Locator) (explicit : Option Path) : WorldAct Path :=
  l.resolveFile nodeVariable "node" nodeMissing (l.findBinary "node" nodeNotInstalled) explicit

/-- The main script of the server. -/
def resolveMainScript (l : Locator) (explicit : Option Path) : WorldAct Path :=
  l.resolveFile mainScriptVariable "main script" scriptMissing l.findMainScript explicit

end Locator

end ServerLaunch
