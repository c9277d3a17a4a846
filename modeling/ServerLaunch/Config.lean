import ServerLaunch.Config.Field
import ServerLaunch.Value.Entries

/-!
# Configuration Sections

The two sections of settings: one for the server, one for the launcher's own log.

A section is read field by field. A field that is not given has its default, and
every faulty field is reported, in the order in which fields are declared; a
section with any faulty field is not made at all. Names that are no fields are
passed over on reading, but may not be assigned. An exception are names that start with an
underscore: those are private, and assigning one changes nothing. A few names belong to
the section itself, or to all sections of its kind, and cannot be assigned for that reason.
The kind itself could be exchanged for another one that is laid out the same; but no value
is a kind, and so whatever is assigned there is refused.

## Main definitions

* `ServerConfig`, `LoggingConfig`: The sections.
* `ServerField`, `LoggingField`: Their fields.
* `ServerConfig.read`, `LoggingConfig.read`: A section from the entries of a mapping.
* `ServerConfig.assign`, `LoggingConfig.assign`: A section with one field changed.
* `ServerConfig.entries`, `LoggingConfig.entries`: The fields of a section with
  their values.
-/

namespace ServerLaunch

/-- The port a server listens on unless told otherwise. -/
def defaultPort : Int := 4723

/-- The address that stands for all of a host's own. -/
def broadcastAddress4 : String := "0.0.0.0"

/-- The same for addresses of the longer kind. -/
def broadcastAddress6 : String := "::"

/-- Defaults for the launched server. -/
structure ServerConfig where
  port : Int := defaultPort
  address : String := broadcastAddress4
  startupTimeout : Binary64 := Binary64.ofInt 20
  npmTimeout : Binary64 := Binary64.ofInt 60
  basePath : Option String := none
deriving DecidableEq, Repr, Inhabited

/-- How much of the log is written. -/
inductive LogLevel where
  | debug
  | info
  | warning
  | error
deriving DecidableEq, Repr, Inhabited

/-- The name of a level. -/
def LogLevel.name : LogLevel → String
  | .debug => "debug"
  | .info => "info"
  | .warning => "warning"
  | .error => "error"

/-- The level of a name. -/
def LogLevel.ofName? (s : String) : Option LogLevel :=
  [LogLevel.debug, .info, .warning, .error].find? fun level => level.name == s

/-- Where the launcher writes its own log, and how much. -/
structure LoggingConfig where
  level : LogLevel := .warning
  console : Bool := false
  file : Bool := true
  filePath : Option Path := none
deriving DecidableEq, Repr, Inhabited

/-- Why a section cannot be changed: the name is reserved, the value is of a kind that
    cannot be there, or field and value do not go together. -/
inductive AssignFault where
  | reserved
  | unfit
  | invalid (report : FieldReport)
deriving DecidableEq, Repr

/-- Whether a name is private. -/
def isPrivateName (name : String) : Bool :=
  name.toList.head? == some '_' && name != "__root__"

/-- The names that belong to the section itself. -/
def sectionNames : List String :=
  ["model_extra", "model_fields_set", "__fields_set__", "__weakref__"]

/-- The names of what all sections of a kind have in common. -/
def sharedNames : List String :=
  ["__class_vars__", "__private_attributes__", "__signature__"] ++
    ["complete", "computed_fields", "core_schema", "custom_init", "decorators", "fields",
      "generic_metadata", "parent_namespace", "post_init", "root_model", "serializer",
      "setattr_handlers", "validator"].map fun s => "__pydantic_" ++ s ++ "__"

/-- The names to which nothing can be assigned. -/
def reservedNames : List String :=
  sectionNames ++ sharedNames

/-- The name of the kind of a section. It takes a kind only, which no value is. -/
def sectionKindName : String := "__class__"

/-- A section with a name that is no field assigned. -/
def assignOther {σ : Type} (config : σ) (name : String) : Except AssignFault σ :=
  if reservedNames.contains name then .error .reserved
  else if name == sectionKindName then .error .unfit
  else if isPrivateName name then .ok config
  else .error (.invalid ⟨[name], .unknownName name⟩)

/-- A value of a field, if the mapping gives the field at all. -/
def givenField {σ : Type} (es : Entries) (name : String) (change : Value → Except FieldFault σ)
    (default : σ) : Except FieldFault σ :=
  match Entries.getText? es name with
  | some v => change v
  | none => .ok default

/-- Reads fields one after the other into a section. Faults are collected; a faulty
    field leaves the section as it was. -/
def readFields {φ σ : Type} (name : φ → String) (set : σ → φ → Value → Except FieldFault σ)
    (es : Entries) : List φ → σ → σ × List FieldReport
  | [], config => (config, [])
  | field :: fields, config =>
    match givenField es (name field) (set config field) config with
    | .ok config => readFields name set es fields config
    | .error fault =>
      let (config, reports) := readFields name set es fields config
      (config, ⟨[name field], fault⟩ :: reports)

/-- A section, unless there are reports of faults. -/
def unlessFaulty {σ : Type} : σ × List FieldReport → Except (List FieldReport) σ
  | (config, []) => .ok config
  | (_, reports) => .error reports

/-- The fields of the server's section. -/
inductive ServerField where
  | port
  | address
  | startupTimeout
  | npmTimeout
  | basePath
deriving DecidableEq, Repr

namespace ServerField

/-- All fields, in order. -/
def all : List ServerField :=
  [.port, .address, .startupTimeout, .npmTimeout, .basePath]

/-- The name by which a field is set. -/
def name : ServerField → String
  | .port => "port"
  | .address => "address"
  | .startupTimeout => "startup_timeout"
  | .npmTimeout => "npm_timeout"
  | .basePath => "base_path"

/-- The field of a name. -/
def ofName? (s : String) : Option ServerField :=
  all.find? fun field => field.name == s

end ServerField

namespace ServerConfig

/-- The greatest port. -/
def portLimit : Nat := 65535

/-- A port, within its bounds. -/
def readPort (v : Value) : Except FieldFault Int :=
  match Field.integer v with
  | .ok i =>
    if i < 0 then .error (.below 0)
    else if (portLimit : Int) < i then .error (.above portLimit)
    else .ok i
  | .error fault => .error fault

/-- The section with one field changed, if the value suits it. -/
def set (c : ServerConfig) (field : ServerField) (v : Value) : Except FieldFault ServerConfig :=
  match field with
  | .port => (readPort v).map fun i => { c with port := i }
  | .address => (Field.text v).map fun s => { c with address := s }
  | .startupTimeout => (Field.positiveReal v).map fun x => { c with startupTimeout := x }
  | .npmTimeout => (Field.positiveReal v).map fun x => { c with npmTimeout := x }
  | .basePath => (Field.trimmedText v).map fun s => { c with basePath := s }

/-- A section from the entries of a mapping. -/
def read (es : Entries) : Except (List FieldReport) ServerConfig :=
  unlessFaulty (readFields ServerField.name set es ServerField.all {})

/-- The section with a field of the given name changed. -/
def assign (c : ServerConfig) (name : String) (v : Value) : Except AssignFault ServerConfig :=
  match ServerField.ofName? name with
  | none => assignOther c name
  | some field =>
    match c.set field v with
    | .ok config => .ok config
    | .error fault => .error (.invalid ⟨[name], fault⟩)

/-- The value of a field. -/
def get (c : ServerConfig) : ServerField → Value
  | .port => .int c.port
  | .address => .text c.address
  | .startupTimeout => .float c.startupTimeout
  | .npmTimeout => .float c.npmTimeout
  | .basePath => (c.basePath.map Value.text).getD .null

/-- The fields with their values. -/
def entries (c : ServerConfig) : Entries :=
  ServerField.all.map fun field => (.text field.name, c.get field)

/-- The name of the section's type in messages. -/
def modelName : String := "ServerConfig"

end ServerConfig

/-- The fields of the log's section. -/
inductive LoggingField where
  | level
  | console
  | file
  | filePath
deriving DecidableEq, Repr

namespace LoggingField

/-- All fields, in order. -/
def all : List LoggingField :=
  [.level, .console, .file, .filePath]

/-- The name by which a field is set. -/
def name : LoggingField → String
  | .level => "level"
  | .console => "console"
  | .file => "file"
  | .filePath => "file_path"

/-- The field of a name. -/
def ofName? (s : String) : Option LoggingField :=
  all.find? fun field => field.name == s

end LoggingField

namespace LoggingConfig

/-- A level, by its name. -/
def readLevel : Value → Except FieldFault LogLevel
  | .text s =>
    match LogLevel.ofName? s with
    | some level => .ok level
    | none => .error .notLevel
  | _ => .error .notLevel

/-- The section with one field changed, if the value suits it. -/
def set (c : LoggingConfig) (field : LoggingField) (v : Value) : Except FieldFault LoggingConfig :=
  match field with
  | .level => (readLevel v).map fun level => { c with level := level }
  | .console => (Field.switch v).map fun b => { c with console := b }
  | .file => (Field.switch v).map fun b => { c with file := b }
  | .filePath => (Field.path v).map fun p => { c with filePath := p }

/-- A section from the entries of a mapping. -/
def read (es : Entries) : Except (List FieldReport) LoggingConfig :=
  unlessFaulty (readFields LoggingField.name set es LoggingField.all {})

/-- The section with a field of the given name changed. -/
def assign (c : LoggingConfig) (name : String) (v : Value) : Except AssignFault LoggingConfig :=
  match LoggingField.ofName? name with
  | none => assignOther c name
  | some field =>
    match c.set field v with
    | .ok config => .ok config
    | .error fault => .error (.invalid ⟨[name], fault⟩)

/-- The value of a field. -/
def get (c : LoggingConfig) : LoggingField → Value
  | .level => .text c.level.name
  | .console => .bool c.console
  | .file => .bool c.file
  | .filePath => (c.filePath.map Value.path).getD .null

/-- The fields with their values. -/
def entries (c : LoggingConfig) : Entries :=
  LoggingField.all.map fun field => (.text field.name, c.get field)

/-- The name of the section's type in messages. -/
def modelName : String := "LoggingConfig"

end LoggingConfig

end ServerLaunch
