import ServerLaunch.Config
import ServerLaunch.Failure
import ServerLaunch.Json.Reader
import ServerLaunch.Text.LetterCase
import ServerLaunch.World.Host

/-!
# Settings in the Environment

Sections of the settings from variables of the environment.

A variable may give a whole section, as JSON, or one field of it, as text: the name of
the field follows that of the section after two underscores. Further pairs of
underscores lead into tables inside a field. The case of letters in names counts for
nothing, so two variables may have one name; the later one counts, at the place of the
earlier one.

A section that is given as a table is completed by the fields that are given on their
own, which go over it. A section that is given as null counts as not given, and the
fields on their own are passed over too; one that is given as anything else is that
value.

## Main definitions

* `lowerNames`: The environment with names in lower case.
* `splitNested`: A name cut at its pairs of underscores.
* `nestedFields`: The fields that are given on their own.
* `sectionOfEnvironment`: One section.
* `mergeDeep`: A table over another.
-/

namespace ServerLaunch

/-- The beginning of the names of all variables that are settings. -/
def settingsVariable : String := "appium_launcher_"

/-- The environment with names in lower case. -/
def lowerNames (environment : Table String) : Table String :=
  Table.ofPairs (environment.map fun e => (Text.lower e.1, e.2))

/-- A text cut at every pair of underscores, from left to right. -/
def splitNested : List Char → List (List Char)
  | [] => [[]]
  | '_' :: '_' :: rest => [] :: splitNested rest
  | c :: rest =>
    match splitNested rest with
    | [] => [[c]]
    | piece :: pieces => (c :: piece) :: pieces

/-- Puts a text into nested tables, where a list of names leads. Tables on the way come
    into being; anything else on the way keeps the text out. -/
def putNested (text : String) : List String → Entries → Entries
  | [], es => es
  | [name], es => Entries.insert es (.text name) (.text text)
  | name :: names, es =>
    match Entries.getText? es name with
    | none => Entries.insert es (.text name) (.dict (putNested text names []))
    | some (.dict inner) => Entries.insert es (.text name) (.dict (putNested text names inner))
    | some _ => es

/-- The names behind the beginning of a name, if it has that beginning. -/
def namesBehind (start name : String) : Option (List String) :=
  if start.toList.isPrefixOf name.toList then
    some ((splitNested (name.toList.drop start.length)).map String.ofList)
  else none

/-- The fields of a section that are given on their own, from an environment with names
    in lower case. -/
def nestedFields (environment : Table String) (sectionName : String) : Entries :=
  environment.foldl (fun es (name, text) =>
    match namesBehind (settingsVariable ++ sectionName ++ "__") name with
    | some names => putNested text names es
    | none => es) []

/-- A table over another: tables under one name are merged, other values replaced. The
    fuel bounds the depth of the merged tables. -/
def mergeDeep (fuel : Nat) (lower upper : Entries) : Entries :=
  match fuel with
  | 0 => Entries.update lower upper
  | fuel + 1 =>
    upper.foldl (fun es (key, v) =>
      match Entries.get? es key, v with
      | some (.dict old), .dict new => Entries.insert es key (.dict (mergeDeep fuel old new))
      | _, v => Entries.insert es key v) lower

/-- How deep tables are merged; no value that is read nests deeper. -/
def mergeDepth : Nat := 1000

/-- The names of a table as the section has them, where only the case of letters
    differs. -/
def fieldNames (fields : List String) (es : Entries) : Entries :=
  es.foldl (fun done (key, v) =>
    let key := match key with
      | .text name =>
        match fields.find? fun field => Text.lower field == Text.lower name with
        | some field => .text field
        | none => key
      | key => key
    Entries.insert done key v) []

/-- A section of the settings, if the environment gives it. -/
def sectionOfEnvironment (environment : Table String) (sectionName : String)
    (fields : List String) : Except Failure (Option Value) :=
  let environment := lowerNames environment
  let own := nestedFields environment sectionName
  match environment.lookup (settingsVariable ++ sectionName) with
  | none => .ok (if own.isEmpty then none else some (.dict (fieldNames fields own)))
  | some text =>
    match Json.parse text with
    | .error .tooDeep => .error .nesting
    | .error _ => .error (.unreadableSection sectionName)
    | .ok .null => .ok none
    | .ok (.dict es) => .ok (some (.dict (fieldNames fields (mergeDeep mergeDepth es own))))
    | .ok v => .ok (some v)

end ServerLaunch
