import ServerLaunch.Config

/-!
# Assigning to Sections

A section of settings as an object, to whose names values are assigned one after another.

A field takes a value that suits it and nothing else, so that a section keeps what was
checked when it was made. There are ways around that, though. The fields of an object are
kept in a table, and the table can be exchanged as a whole, unchecked: from then on there
may be anything under the name of a field, or nothing, and fields are still checked one by
one when they are assigned. And an object needs the marks of the fields that were
assigned; without them, no field can be assigned any more. The kind of an object, and the
table of what it has besides its fields, are put in place unchecked as well. No value is a
kind, and what may get from the other table into the fields is not followed here; whoever
wants to know what fields hold leaves out these names.

What is held is therefore kept apart from the sections themselves, in which every field has
its type.

## Main definitions

* `SectionRules`: What there is to know about a kind of section.
* `OpenSection`: A section that can be assigned to.
* `OpenSection.uncheckedNames`: The names that are assigned to without a check.
* `OpenSection.assign`, `OpenSection.history`: One assignment, and many.
* `OpenSection.fields?`: The fields with what they hold.

## Theorems

* `assign_ofConfig`: Fields take what they would take in a section of their own.
-/

namespace ServerLaunch

/-- How sections of a kind are made and changed, and what their fields hold. -/
structure SectionRules (σ : Type) where
  default : σ
  read : Entries → Except (List FieldReport) σ
  assign : σ → String → Value → Except AssignFault σ
  entries : σ → Entries

/-- The rules of the server's section. -/
def ServerConfig.rules : SectionRules ServerConfig :=
  ⟨{}, ServerConfig.read, ServerConfig.assign, ServerConfig.entries⟩

/-- The rules of the log's section. -/
def LoggingConfig.rules : SectionRules LoggingConfig :=
  ⟨{}, LoggingConfig.read, LoggingConfig.assign, LoggingConfig.entries⟩

/-- What is held under the names of a section: the fields of one, or any table. -/
inductive SectionContent (σ : Type) where
  | intact (config : σ)
  | loose (table : Entries)
deriving Repr

/-- A section that can be assigned to, and whether it still has the marks of the fields that
    were assigned. -/
structure OpenSection (σ : Type) where
  content : SectionContent σ
  hasMarks : Bool := true
deriving Repr

namespace OpenSection

variable {σ : Type}

/-- The name of the table. -/
def tableName : String := "__dict__"

/-- The name of the marks. -/
def marksName : String := "__pydantic_fields_set__"

/-- The name of the table of what an object has besides its fields. -/
def extrasName : String := "__pydantic_extra__"

/-- The names to which assignments are not checked: those of the two tables and of the kind. -/
def uncheckedNames : List String :=
  [tableName, extrasName, sectionKindName]

/-- A section that nothing was assigned to. -/
def ofConfig (config : σ) : OpenSection σ :=
  { content := .intact config }

/-- The content with a value under a name. In a table a field takes what it would hold in a
    section of its own. -/
def changed (rules : SectionRules σ) (content : SectionContent σ) (name : String) (v : Value) :
    Except AssignFault (SectionContent σ) :=
  match content with
  | .intact config => (rules.assign config name v).map .intact
  | .loose table =>
    (rules.assign rules.default name v).map fun config =>
      match Entries.getText? (rules.entries config) name with
      | some held => .loose (Entries.insert table (.text name) held)
      | none => .loose table

/-- The section with a value assigned to a field, or to a name that is none. -/
def assignField (rules : SectionRules σ) (s : OpenSection σ) (name : String) (v : Value) :
    Except AssignFault (OpenSection σ) := do
  let content ← changed rules s.content name v
  if !s.hasMarks && !isPrivateName name then throw .unfit
  return { s with content }

/-- The section with a value assigned to a name. Only a dictionary can take the place of the
    table, and only a set that of the marks. -/
def assign (rules : SectionRules σ) (s : OpenSection σ) (name : String) (v : Value) :
    Except AssignFault (OpenSection σ) :=
  if name == tableName then
    match v with
    | .dict es => .ok { s with content := .loose es }
    | _ => .error .unfit
  else if name == marksName then
    match v with
    | .set _ => .ok { s with hasMarks := true }
    | _ => .ok { s with hasMarks := false }
  else assignField rules s name v

/-- Unless one of the two names is assigned, a section that nothing was assigned to takes
    what its fields take. -/
theorem assign_ofConfig (rules : SectionRules σ) (config : σ) (name : String) (v : Value)
    (ht : name ≠ tableName) (hm : name ≠ marksName) :
    assign rules (ofConfig config) name v = (rules.assign config name v).map ofConfig := by
  have step : assign rules (ofConfig config) name v =
      assignField rules (ofConfig config) name v := by
    simp [assign, ht, hm]
  rw [step]
  cases h : rules.assign config name v <;>
    simp [assignField, changed, ofConfig, h, Except.map, bind, Except.bind, pure, Except.pure]

/-- The fields with what they hold, if there is something under each name. -/
def fields? (rules : SectionRules σ) (s : OpenSection σ) : Option Entries :=
  match s.content with
  | .intact config => some (rules.entries config)
  | .loose table =>
    (rules.entries rules.default).mapM fun e => (Entries.get? table e.1).map (e.1, ·)

/-- What becomes of assignments one after another: for each of them the fault, if there is
    one, and the fields after it. A faulty assignment changes nothing. -/
def history (rules : SectionRules σ) :
    OpenSection σ → List (Value × Value) → List (Option AssignFault × Option Entries)
  | _, [] => []
  | s, (name, v) :: rest =>
    match s.assign rules name.displayText v with
    | .ok after => (none, after.fields? rules) :: history rules after rest
    | .error fault => (some fault, s.fields? rules) :: history rules s rest

end OpenSection

end ServerLaunch
