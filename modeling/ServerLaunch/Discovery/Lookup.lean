import ServerLaunch.World

/-!
# Path Overrides

Where a user may say which program to use.

An override is looked up by name in several sources, one after the other. The first
source that has a value other than the empty text decides, so a source with the empty
text is like one without a value. Overrides that were set in the process come before
the variables of the environment.

## Main definitions

* `LookupSource`: A source of overrides.
* `lookupPath`: The path of the first source that has one.
* `askedSources`: How many sources are asked until then.
* `setOverride`, `clearOverride`: Overrides in the process.
-/

namespace ServerLaunch

/-- A source of path overrides: those set in the process, the environment, or a table
    of its own. -/
inductive LookupSource where
  | overrides
  | environment
  | table (values : Table (Option String))
deriving DecidableEq, Repr, Inhabited

/-- The value that a source has for a name. -/
def LookupSource.value? (w : World) (name : String) : LookupSource → Option String
  | .overrides => w.overrides.lookup name
  | .environment => w.host.environmentValue? name
  | .table values => (values.lookup name).join

/-- The value that a source has for a name, unless it is empty. -/
def LookupSource.override? (w : World) (name : String) (source : LookupSource) :
    Option String :=
  (source.value? w name).filter fun s => !s.toList.isEmpty

/-- The path of the first source that has one. -/
def lookupPath (w : World) (name : String) (sources : List LookupSource) : Option Path :=
  (sources.findSome? (LookupSource.override? w name)).map Path.ofString

/-- How many sources are asked until one has a value. -/
def askedSources (w : World) (name : String) : List LookupSource → Nat
  | [] => 0
  | source :: rest =>
    match source.override? w name with
    | some _ => 1
    | none => 1 + askedSources w name rest

/-- The sources that are asked unless told otherwise. -/
def defaultSources : List LookupSource :=
  [.overrides, .environment]

/-- Sets an override in the process. -/
def setOverride (name value : String) : WorldAct Unit :=
  modify fun w => { w with overrides := w.overrides.put name value }

/-- Removes an override from the process. -/
def clearOverride (name : String) : WorldAct Unit :=
  modify fun w => { w with overrides := w.overrides.drop name }

end ServerLaunch
