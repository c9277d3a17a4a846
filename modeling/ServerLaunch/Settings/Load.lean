import ServerLaunch.Settings.Environment
import ServerLaunch.Settings.Search

/-!
# Loading Settings

The settings from all their sources.

Settings come from the environment, from a TOML file, and from defaults, in this order
of precedence, field by field. All faulty fields of both sections are reported at once.

A file that is named but gives no settings counts as empty, with a warning in the log.
Its contents are read once and kept.

## Main definitions

* `TomlSource`: The file, and its contents once they are read.
* `mergeSources`: The environment, or what is given, over the file.
* `Settings.ofEntries`: Settings from the merged sources.
* `loadSettings`, `giveSettings`: Settings that are loaded, or given.
-/

namespace ServerLaunch

/-- A TOML file that gives settings: its path, if it is named, the start of the search
    for it otherwise, and its contents once they are read. -/
structure TomlSource where
  path : Option Path
  start : Option String
  contents : Option Value
deriving Inhabited, Repr

/-- What a tool of a project is among all tools; nothing at all counts as an empty
    table. Only a table can be asked for it. -/
def toolSection (project : Entries) : Except Failure Value :=
  match (Entries.getText? project "tool").getD (.dict []) with
  | .dict tools => .ok ((Entries.getText? tools toolName).getD (.dict []))
  | _ => .error .noSuchPart

/-- The settings in a file, which may be the file of a project. -/
def settingsIn (file : Path) (table : Entries) : Except Failure Value :=
  if file.fileName == projectFileName then toolSection table else .ok (.dict table)

/-- The warning about a file that gives no settings. -/
def noSettings (file : Path) (fault : ReadFault) : String :=
  "Failed to " ++ fault.verb ++ " config file " ++ file.toText ++ ": " ++ fault.text

/-- Reads the settings of a file. -/
def readSettings (file : Path) : WorldAct Value := do
  match ← Act.ofExcept (readDocument ((← get).host.reading file)) with
  | .ok table => Act.ofExcept (settingsIn file table)
  | .error fault =>
    noteRegistered .warning (noSettings file fault)
    return .dict []

namespace TomlSource

/-- The contents of the file, read for the first time. -/
def readFirst (source : TomlSource) : WorldAct Value := do
  let file ← match source.path with
    | some file => pure (some file)
    | none => findConfig source.start
  match file with
  | some file => readSettings file
  | none => return .dict []

/-- The contents of the file. A failure leaves the empty table in place of them. -/
def load : Act (TomlSource × World) Value := do
  match (← get).1.contents with
  | some v => return v
  | none =>
    modify fun (source, w) => ({ source with contents := some (.dict []) }, w)
    let v ← (readFirst (← get).1).onSecond
    modify fun (source, w) => ({ source with contents := some v }, w)
    return v

/-- A field of the file, or null. Only a table has fields. -/
def field (name : String) : Act (TomlSource × World) Value := do
  match ← load with
  | .dict es => return (Entries.getText? es name).getD .null
  | _ => throw .noSuchPart

end TomlSource

/-- The names of the two sections. -/
def serverSection : String := "server"

@[inherit_doc serverSection]
def loggingSection : String := "logging"

/-- The sections that an environment gives. -/
def environmentSections (environment : Table String) : Except Failure Entries := do
  let server ← sectionOfEnvironment environment serverSection
    (ServerField.all.map ServerField.name)
  let logging ← sectionOfEnvironment environment loggingSection
    (LoggingField.all.map LoggingField.name)
  return (server.map fun v => (Value.text serverSection, v)).toList ++
    (logging.map fun v => (Value.text loggingSection, v)).toList

/-- Sections over a file. A list in place of the table of a file fails in one way
    if there is anything to put into it, and in another if there is not. -/
def mergeSources (sections : Entries) : Value → Except Failure Entries
  | .dict es => .ok (mergeDeep mergeDepth es sections)
  | .list _ => .error (if sections.isEmpty then .noSuchPart else .wrongKind)
  | _ => .error .noSuchPart

/-- Reports with the name of their section in front. -/
def reportsOf {σ : Type} (sectionName : String) : Except (List FieldReport) σ → List FieldReport
  | .ok _ => []
  | .error reports => reports.map fun r => { r with location := sectionName :: r.location }

/-- A section from a table of sections. A section that is not there has the defaults,
    and one that is no table is faulty as a whole. -/
def readSection {σ : Type} (es : Entries) (sectionName model : String)
    (read : Entries → Except (List FieldReport) σ) : Except (List FieldReport) σ :=
  match Entries.getText? es sectionName with
  | none => read []
  | some (.dict fields) => read fields
  | some _ => .error [⟨[], .notSection model⟩]

/-- Settings from a table of sections, if no field is faulty. -/
def Settings.ofEntries (es : Entries) : Except (List FieldReport) Settings :=
  let server := readSection es serverSection ServerConfig.modelName ServerConfig.read
  let logging := readSection es loggingSection LoggingConfig.modelName LoggingConfig.read
  match server, logging with
  | .ok server, .ok logging => .ok ⟨server, logging⟩
  | server, logging => .error (reportsOf serverSection server ++ reportsOf loggingSection logging)

/-- Settings as a table of sections. -/
def Settings.entries (s : Settings) : Entries :=
  [(.text serverSection, .dict s.server.entries), (.text loggingSection, .dict s.logging.entries)]

/-- The sections that are given over those from the environment, and these over those from
    the file. The environment comes first, so that its failures hide those of the file. -/
def gatherSections (given : Entries) (path : Option Path) (start : Option String) :
    WorldAct Entries := do
  let environment ← Act.ofExcept (environmentSections (← get).host.environment)
  let contents ← TomlSource.readFirst ⟨path, start, none⟩
  Act.ofExcept (mergeSources (mergeDeep mergeDepth environment given) contents)

/-- Settings that are loaded from a file that is named or searched for. -/
def loadSettings (path : Option Path) (start : Option String) : WorldAct Settings := do
  let es ← gatherSections [] path start
  Act.ofExcept ((Settings.ofEntries es).mapError .invalid)

/-- Settings that are given. The sources are read all the same, and their failures are
    failures here. -/
def giveSettings (s : Settings) : WorldAct Settings := do
  let _ ← gatherSections s.entries none none
  return s

end ServerLaunch
