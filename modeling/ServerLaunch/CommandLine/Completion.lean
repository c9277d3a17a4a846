import ServerLaunch.CommandLine.Help
import ServerLaunch.Failure
import ServerLaunch.Text.ShellWord
import ServerLaunch.World.Host

/-!
# Completing a Command Line

What a user who is typing a command line may type next.

A shell asks by running the program with variables of the environment set: one names the
shell, others hold the line so far and where in it the user is. The words before that place
are read as far as they can be, and faults in them are passed over. They settle which
options may still come, or that the value of an option is due; commands are offered where
none is named yet.

Shells differ in how they tell the place, and in the form of the answer.

## Main definitions

* `Shell`, `Request`: Who asks, and what for.
* `TypedLine`, `TypedLine.ofEnvironment`: The line so far.
* `Offer`, `TypedLine.offers`: What may come next.
* `completionText`: The answer.
-/

namespace ServerLaunch

namespace CommandLine

/-- The shells that can be answered. -/
inductive Shell where
  | bash
  | zsh
  | fish
  | powershell
deriving DecidableEq, Repr

/-- The shell of a name. -/
def Shell.ofName? : String → Option Shell
  | "bash" => some .bash
  | "zsh" => some .zsh
  | "fish" => some .fish
  | "powershell" => some .powershell
  | _ => none

/-- The variable by which a shell asks. -/
def requestVariable : String := "_APPIUM_LAUNCHER_COMPLETE"

/-- The variable that holds the line. -/
def lineVariable : String := "COMP_WORDS"

/-- The variable that holds the place in the line, or the word there. -/
def placeVariable : String := "COMP_CWORD"

/-- What a shell asks for: to complete a line, the script by which it asks for that, or
    something that is not known. -/
inductive Request where
  | complete (shell : Shell)
  | script (shell : Shell)
  | unknown
deriving DecidableEq, Repr

/-- What is asked for, if anything is. The name of the shell ends before the first
    underscore. -/
def Request.ofEnvironment? (host : Host) : Option Request :=
  match (host.environmentValue? requestVariable).getD "" |>.toList with
  | [] => none
  | cs =>
    let shell := String.ofList (cs.takeWhile (· != '_'))
    let wanted := String.ofList ((cs.dropWhile (· != '_')).drop 1)
    match Shell.ofName? shell, wanted with
    | some shell, "complete" => some (.complete shell)
    | some shell, "source" => some (.script shell)
    | _, _ => some .unknown

/-- A line as far as it is typed: the words before the place of the user, without the name
    of the program, and the beginning of the word there. -/
structure TypedLine where
  words : List String
  incomplete : String
deriving DecidableEq, Repr

/-- The value of a variable, which has to be set. -/
def requiredVariable (host : Host) (name : String) : Except Failure String :=
  match host.environmentValue? name with
  | some s => .ok s
  | none => .error (.noVariable name)

/-- A place in a list that is counted from its end if it is below zero. -/
def placeOf (size : Nat) (n : Int) : Int :=
  if n < 0 then size + n else n

namespace TypedLine

/-- A line by the number of the word at which the user is. -/
def atNumber (words : List String) (n : Int) : TypedLine :=
  let place := placeOf words.length n
  { words := (words.take place.toNat).drop 1
    incomplete := if place < 0 then "" else (words[place.toNat]?).getD "" }

/-- The word at which the user is, by a text that tells it. A text that is not empty has to
    have a word. -/
def wordOf (typed : String) : Except Failure String :=
  if typed.toList.isEmpty then .ok ""
  else
    match ShellWord.typedWords typed with
    | [] => .error .noMember
    | word :: _ => .ok word

/-- A line by the word at which the user is. That word is the last one of the line, too. -/
def atWord (words : List String) (incomplete : String) : TypedLine :=
  let before := words.drop 1
  { words :=
      if incomplete.toList.isEmpty || before.getLast? != some incomplete then before
      else before.dropLast
    incomplete }

/-- The line that a shell tells. -/
def ofEnvironment (host : Host) (shell : Shell) : Except Failure TypedLine := do
  let words := ShellWord.typedWords (← requiredVariable host lineVariable)
  let typed ← requiredVariable host placeVariable
  match shell with
  | .fish => return atWord words (← wordOf typed)
  | .bash | .zsh | .powershell =>
    return atNumber words (← Failure.readInteger typed)

/-- The value of a long option behind an equals sign is completed like one in a word of its
    own. -/
def splitAssigned (line : TypedLine) : TypedLine :=
  if line.incomplete == "=" then { line with incomplete := "" }
  else
    match line.incomplete.toList.head?, splitAssignment line.incomplete with
    | some '-', (name, some value) => ⟨line.words ++ [name], value⟩
    | _, _ => line

end TypedLine

/-- The words of a line that is being typed, taken apart. A fault ends the reading, and
    nothing but the options before it counts. -/
def parseTyped (interspersed : Bool) (specs : List OptionSpec) : List String → ParsedWords
  | [] => ⟨[], []⟩
  | word :: rest =>
    if word == "--" then ⟨[], rest⟩
    else if isOptionWord word then
      match readWord specs word with
      | .error _ => ⟨[], []⟩
      | .ok ⟨complete, none⟩ => (parseTyped interspersed specs rest).after complete
      | .ok ⟨complete, some (o, _)⟩ =>
        match rest with
        | [] => ⟨complete, []⟩
        | value :: rest =>
          (parseTyped interspersed specs rest).after (complete ++ [(o, some value)])
    else if interspersed then parseTyped interspersed specs rest
    else ⟨[], word :: rest⟩

/-- Whose options come next, and which of them are given: the command that is named, or the
    group. -/
def resolveTyped (words : List String) : Option Command × List OptionSpec :=
  let group := parseTyped false groupOptions words
  match group.extra with
  | [] => (none, group.given)
  | name :: rest =>
    match Command.ofName? name with
    | some c => (some c, (parseTyped true c.options rest).given)
    | none => (none, group.given)

/-- What may come next: a word, or the name of a file that starts so. -/
structure Offer where
  isFile : Bool
  text : String
  about : String
deriving DecidableEq, Repr

/-- What a command does, in few words. -/
def Command.briefPurpose : Command → String
  | .args => "Print the command line that would launch..."
  | .start => "Launch the server and keep it running..."

/-- Whether a text starts with another. -/
def startsWith (text start : String) : Bool :=
  start.toList.isPrefixOf text.toList

/-- The commands whose names start so. -/
def commandOffers (incomplete : String) : List Offer :=
  (Command.all.filter fun c => startsWith c.name incomplete).map fun c =>
    ⟨false, c.name, c.briefPurpose⟩

/-- The options whose names start so and that may still come: those that are not given, or
    that may be given again. -/
def optionOffers (options given : List OptionSpec) (incomplete : String) : List Offer :=
  let pending := options.filter fun o => o.role == .collected || !given.contains o
  if incomplete.toList.isEmpty then []
  else pending.flatMap fun o =>
    (o.names.filter fun name => startsWith name incomplete).map fun name => ⟨false, name, o.about⟩

/-- The option whose value is due: the one that the last word before the place names. -/
def dueOption? (options : List OptionSpec) (words : List String) : Option OptionSpec :=
  words.getLast?.bind fun word =>
    options.find? fun o => o.takesValue && o.names.contains word

/-- What may come next. -/
def TypedLine.offers (line : TypedLine) : List Offer :=
  let (command, given) := resolveTyped line.words
  let line := line.splitAssigned
  let options := optionsOf command
  let named := (if command.isNone then commandOffers line.incomplete else []) ++
    optionOffers options given line.incomplete
  if !line.words.contains "--" && startsWith line.incomplete "-" then named
  else
    match dueOption? options line.words with
    | some o => if o.takesFile then [⟨true, line.incomplete, ""⟩] else []
    | none => named

/-- A text in which a colon does not end it. -/
def escapedColons (s : String) : String :=
  String.ofList (s.toList.flatMap fun c => if c == ':' then ['\\', ':'] else [c])

/-- What may come next in the form that a shell takes. -/
def Offer.written (shell : Shell) (o : Offer) : String :=
  let kind := if o.isFile then "file" else "plain"
  match shell with
  | .bash => kind ++ "," ++ o.text
  | .fish => kind ++ "," ++ o.text ++ if o.about.toList.isEmpty then "" else "\t" ++ o.about
  | .zsh | .powershell =>
    if o.about.toList.isEmpty then kind ++ "\n" ++ o.text ++ "\n_"
    else kind ++ "\n" ++ escapedColons o.text ++ "\n" ++ o.about

/-- The answer to a shell. -/
def completionText (shell : Shell) (line : TypedLine) : String :=
  "\n".intercalate (line.offers.map (Offer.written shell)) ++ "\n"

end CommandLine

end ServerLaunch
