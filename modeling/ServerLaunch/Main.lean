import ServerLaunch.CommandLine.Run

/-!
# The Program

The outer layer: it looks at the computer it runs on, runs the command line, and carries
out what the run decided.

A run is a function of the host, so the host is looked at beforehand, as far as the words
and the environment can lead there: the files that they name, the configuration of the
current directory and of those above it, and the programs that a search finds. The package
manager is not asked, and launching is left to whoever embeds the library: here every
launch is refused.

## Main definitions

* `hostFor`: The host, as far as a command line can ask about it.
* `carryOut`: An event, done.
* `main`: The program.
-/

namespace ServerLaunch

namespace Program

/-- The variables of the environment that the launcher asks for. -/
def askedVariables : List String :=
  let start := settingsVariable.toUpper
  let sectionNames (name : String) (fields : List String) : List String :=
    let own := start ++ name.toUpper
    own :: fields.map fun field => own ++ "__" ++ field.toUpper
  [nodeVariable, mainScriptVariable, CommandLine.requestVariable, CommandLine.lineVariable,
    CommandLine.placeVariable] ++
    sectionNames serverSection (ServerField.all.map ServerField.name) ++
    sectionNames loggingSection (LoggingField.all.map LoggingField.name)

/-- The paths that a word of a command line may name: the word, or what follows the sign
    of equality in it. -/
def namedPaths (word : String) : List String :=
  [word, "=".intercalate ((word.splitOn "=").drop 1)].filter fun s => !s.isEmpty

/-- The files that settings are searched in. -/
def settingsFiles (cwd : Path) : List String :=
  (cwd :: cwd.parents).flatMap fun directory =>
    [(ownConfig directory).toText, (projectFile directory).toText]

/-- What a file holds, if it can be read. -/
def contentOf? (name : String) : IO (Option FileContent) := do
  match ← (IO.FS.readBinFile name).toBaseIO with
  | .ok bytes => return some (.octets bytes.toList)
  | .error _ => return none

/-- The first place of a search at which a file can be read. -/
def searchProgram (directories : List String) (name : String) :
    IO (Option (String × String)) :=
  directories.findSomeM? fun directory => do
    let place := directory ++ "/" ++ name
    return (← contentOf? place).map fun _ => (name, place)

/-- The host, as far as a command line can ask about it. -/
def hostFor (words : List String) : IO Host := do
  let cwd := Path.ofString (← IO.currentDir).toString
  let home := Path.ofString ((← IO.getEnv "HOME").getD "/")
  let environment ← askedVariables.filterMapM fun name => do
    return (← IO.getEnv name).map (name, ·)
  let directories := ((← IO.getEnv "PATH").getD "").splitOn ":"
  let programs ← ["node", "npm"].filterMapM (searchProgram directories)
  let names := words.flatMap namedPaths ++ environment.map Prod.snd ++ programs.map Prod.snd ++
    settingsFiles cwd
  let files ← names.filterMapM fun name => do
    return (← contentOf? name).map fun content => ((Path.ofString name).resolve cwd, content)
  let npm := NpmOutcome.missing
  return {
    cwd, home, files, directories := [], environment, programs, npm, system := "", freePort := 0,
    refusal := none }

/-- A child that cannot be launched. -/
def noChild : ChildScript :=
  { (default : ChildScript) with spawnError := some "" }

/-- A place as the path that leads to it. -/
def placeText (place : List String) : String :=
  (Path.mk .single place).toText

/-- A file moved from one place to another, if there is one. -/
def moveFile (step : List String × List String) : IO Unit := do
  if (← contentOf? (placeText step.1)).isSome then
    IO.FS.rename (placeText step.1) (placeText step.2)

/-- An event, done. -/
def carryOut : Event → IO Unit
  | .printed text => IO.print text
  | .madeDirectory path => IO.FS.createDirAll path.toText
  | .filed filing entry => do
    if filing.setsAside then (stepsAside filing.base).forM moveFile
    match filing.place with
    | some place =>
      let file ← IO.FS.Handle.mk (placeText place) .append
      file.putStr entry.line
    | none => return
  | event => IO.eprint event.consoleText

/-- How a run ended, as an exit code; a failure that nothing handled is said aloud. -/
def exitCode : Except Failure Int → IO UInt32
  | .ok code => return code.toNat.toUInt32
  | .error failure => do
    IO.eprintln (failure.message?.getD "")
    return 1

/-- Runs a command line and carries out what it decides. -/
def run (words : List String) : IO UInt32 := do
  let host ← hostFor words
  let (outcome, world) := CommandLine.run words (World.start host noChild .rounded)
  world.events.forM carryOut
  exitCode outcome

end Program

end ServerLaunch

/-- The program. -/
def main (words : List String) : IO UInt32 :=
  ServerLaunch.Program.run words
