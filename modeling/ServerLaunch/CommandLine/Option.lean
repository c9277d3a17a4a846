import ServerLaunch.Text.Similarity

/-!
# Options of a Command

The words of a command line, taken apart.

An option has one long name or more, of two dashes and a word, and it may have a short
one, of a dash and a letter. Short options can be written together behind one dash. An
option that takes a value finds it behind an equals sign, if its name is long, behind
its letter, if it is short, and else in the next word, whatever that looks like.

Words that are no options are extra. In a command they may stand between options; in a
group of commands the first of them ends the options, for it names the command. Two
dashes alone end the options everywhere.

A long name that no option has may be a slip, so the names that are like it are told.

## Main definitions

* `OptionRole`, `OptionSpec`: The options that a command knows.
* `ParseFault`: What can be wrong with a command line before any value is looked at.
* `ParsedWords`, `parseWords`: The options of a command line, in order.
-/

namespace ServerLaunch

namespace CommandLine

/-- What an option does: it takes a value, of which the last or every one counts; it
    turns something on; or it shows something at once. -/
inductive OptionRole where
  | value
  | collected
  | switch
  | help
  | version
deriving DecidableEq, Repr

/-- An option that a command knows. Besides its names and what it does, its help says how
    its value is called, what the option is for, and which bounds the value has. -/
structure OptionSpec where
  names : List String
  role : OptionRole
  value : String := ""
  about : String := ""
  bounds : String := ""
deriving DecidableEq, Repr

namespace OptionSpec

/-- Whether an option takes a value. -/
def takesValue (o : OptionSpec) : Bool :=
  o.role == .value || o.role == .collected

/-- Whether an option takes the name of a file. -/
def takesFile (o : OptionSpec) : Bool :=
  o.value == "FILE" || o.value == "PATH"

/-- Whether an option shows something at once. -/
def isEager (o : OptionSpec) : Bool :=
  o.role == .help || o.role == .version

end OptionSpec

/-- What can be wrong with a command line before any value is looked at. -/
inductive ParseFault where
  | unknown (name : String) (similar : List String)
  | missingValue (name : String)
  | unwantedValue (name : String)
deriving DecidableEq, Repr

/-- Options with their values, in order, and the words that are no options. -/
structure ParsedWords where
  options : List (OptionSpec × Option String)
  extra : List String
deriving DecidableEq, Repr

/-- The option of a name. A dash and a letter is a short name, anything else a long
    one. -/
def findOption (specs : List OptionSpec) (name : String) : Option OptionSpec :=
  specs.find? fun o => o.names.contains name

/-- A word cut at its first equals sign. -/
def splitAssignment (word : String) : String × Option String :=
  let cs := word.toList
  let name := String.ofList (cs.takeWhile (· != '='))
  match cs.dropWhile (· != '=') with
  | [] => (name, none)
  | _ :: value => (name, some (String.ofList value))

/-- Whether a word starts with two dashes. -/
def startsLong (word : String) : Bool :=
  ['-', '-'].isPrefixOf word.toList

/-- Whether a word is an option: a dash and something behind it. -/
def isOptionWord (word : String) : Bool :=
  match word.toList with
  | '-' :: _ :: _ => true
  | _ => false

/-- The long names that are like a name that no option has. -/
def similarOptions (specs : List OptionSpec) (name : String) : List String :=
  Similarity.closeMatches name ((specs.flatMap OptionSpec.names).filter startsLong)

/-- What a word amounts to: options that are complete, and possibly one, with the name
    it was called by, that takes its value from the next word. -/
structure WordReading where
  complete : List (OptionSpec × Option String)
  open? : Option (OptionSpec × String)
deriving DecidableEq, Repr

/-- A long option. -/
def readLong (o : OptionSpec) (name : String) (value : Option String) :
    Except ParseFault WordReading :=
  if o.takesValue then
    match value with
    | some v => .ok ⟨[(o, some v)], none⟩
    | none => .ok ⟨[], some (o, name)⟩
  else
    match value with
    | some _ => .error (.unwantedValue name)
    | none => .ok ⟨[(o, none)], none⟩

/-- The letters behind a dash. -/
def readLetters (specs : List OptionSpec) : List Char → Except ParseFault WordReading
  | [] => .ok ⟨[], none⟩
  | c :: rest =>
    let name := String.ofList ['-', c]
    match findOption specs name with
    | none => .error (.unknown name [])
    | some o =>
      if o.takesValue then
        if rest.isEmpty then .ok ⟨[], some (o, name)⟩
        else .ok ⟨[(o, some (String.ofList rest))], none⟩
      else
        (readLetters specs rest).map fun r => { r with complete := (o, none) :: r.complete }

/-- A word that is an option. -/
def readWord (specs : List OptionSpec) (word : String) : Except ParseFault WordReading :=
  let (name, value) := splitAssignment word
  let long? := (findOption specs name).filter fun _ => startsLong name
  match long? with
  | some o => readLong o name value
  | none =>
    if startsLong word then .error (.unknown name (similarOptions specs name))
    else readLetters specs (word.toList.drop 1)

/-- Puts options in front of those that were parsed. -/
def ParsedWords.after (options : List (OptionSpec × Option String)) (p : ParsedWords) :
    ParsedWords :=
  { p with options := options ++ p.options }

/-- Takes a command line apart. -/
def parseWords (interspersed : Bool) (specs : List OptionSpec) :
    List String → Except ParseFault ParsedWords
  | [] => .ok ⟨[], []⟩
  | word :: rest =>
    if word == "--" then .ok ⟨[], rest⟩
    else if isOptionWord word then
      match readWord specs word with
      | .error fault => .error fault
      | .ok ⟨complete, none⟩ => (parseWords interspersed specs rest).map (.after complete)
      | .ok ⟨complete, some (o, name)⟩ =>
        match rest with
        | [] => .error (.missingValue name)
        | value :: rest =>
          (parseWords interspersed specs rest).map (.after (complete ++ [(o, some value)]))
    else if interspersed then
      (parseWords interspersed specs rest).map fun p => { p with extra := word :: p.extra }
    else .ok ⟨[], word :: rest⟩

namespace ParsedWords

/-- The options that were given, each once, in order of their first place. -/
def given (p : ParsedWords) : List OptionSpec :=
  p.options.foldl (fun done (o, _) => if done.contains o then done else done ++ [o]) []

/-- All values of an option, in order. -/
def values (p : ParsedWords) (o : OptionSpec) : List String :=
  p.options.filterMap fun (q, v) => if q == o then v else none

/-- The first option given that shows something at once. -/
def eager? (p : ParsedWords) : Option OptionRole :=
  (p.given.find? OptionSpec.isEager).map OptionSpec.role

/-- Whether an option was given. -/
def has (p : ParsedWords) (name : String) : Bool :=
  p.options.any fun (o, _) => o.names.contains name

end ParsedWords

end CommandLine

end ServerLaunch
