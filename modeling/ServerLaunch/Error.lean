import ServerLaunch.Value.Entries

/-!
# Launch Errors

What can go wrong on the way to a running server, as far as the launcher itself
reports it.

An error has a kind, a message, and a context: named details that follow the
message in brackets. Some kinds have details of their own, such as the argument
that was refused, which are put into the context a caller passes. A caller's
context is a mapping that the error keeps, so details put into one that is not
empty are seen by the caller too; an empty one is replaced.

Kinds form a hierarchy. Errors of a broken installation or of a wrong argument
will not go away when the call is repeated; all others might.

## Main definitions

* `ErrorKind`: The kinds and their hierarchy.
* `Cause`: What an error was raised from.
* `LaunchError`: An error.
* `LaunchError.text`: Message and context.
* `LaunchError.build`: An error with details, and the caller's context afterwards.
-/

namespace ServerLaunch

/-- The kinds of launch errors. -/
inductive ErrorKind where
  | launcher
  | config
  | invalidInstance
  | invalidArgument
  | service
  | startup
  | notRunning
deriving DecidableEq, Repr, Inhabited

namespace ErrorKind

/-- All kinds, the more general ones first. -/
def all : List ErrorKind :=
  [.launcher, .config, .invalidInstance, .invalidArgument, .service, .startup, .notRunning]

/-- The next more general kind. -/
def general? : ErrorKind → Option ErrorKind
  | .launcher => none
  | .config | .service => some .launcher
  | .invalidInstance | .invalidArgument => some .config
  | .startup | .notRunning => some .service

/-- Whether repeating the call may help. -/
def isRecoverable : ErrorKind → Bool
  | .invalidInstance | .invalidArgument => false
  | _ => true

end ErrorKind

/-- What an error was raised from. -/
inductive Cause where
  | notAnInteger
  | operatingSystem
  | noSuchProgram
  | programFailed
  | programTimedOut
deriving DecidableEq, Repr, Inhabited

/-- An error of the launcher. -/
structure LaunchError where
  kind : ErrorKind
  message : String
  context : Entries
  cause : Option Cause
deriving Inhabited, Repr

/-- Details that kinds of errors have of their own. A kind takes its own ones and
    leaves the others alone. -/
structure Details where
  path : Option String := none
  argument : Option String := none
  value : Option String := none
  url : Option String := none
  exitCode : Option Int := none
deriving DecidableEq, Repr, Inhabited

namespace Details

/-- A detail that counts only if it is not the empty text. -/
def unlessEmpty (name : String) : Option String → Entries
  | some s => if s.toList.isEmpty then [] else [(.text name, .text s)]
  | none => []

/-- The details of a kind as entries of a context. -/
def entries (d : Details) : ErrorKind → Entries
  | .invalidInstance => unlessEmpty "path" d.path
  | .invalidArgument =>
    unlessEmpty "argument" d.argument ++
      (d.value.map fun s => (Value.text "value", Value.text s)).toList
  | .startup =>
    unlessEmpty "url" d.url ++
      (d.exitCode.map fun i => (Value.text "exit_code", Value.int i)).toList
  | _ => []

end Details

namespace LaunchError

/-- The exit code of a program that ends with an error. -/
def exitCode : Int := 1

/-- An error together with the caller's context as it is afterwards. A context that
    is not empty is shared, so the details show in both. -/
def build (kind : ErrorKind) (message : String) (details : Details)
    (given : Option Entries) (cause : Option Cause) : LaunchError × Option Entries :=
  let context := Entries.update (given.getD []) (details.entries kind)
  let after := given.map fun es => if es.isEmpty then es else context
  (⟨kind, message, context, cause⟩, after)

/-- An error raised by the launcher itself, with no context but its details. -/
def of (kind : ErrorKind) (message : String) (details : Details)
    (cause : Option Cause := none) : LaunchError :=
  (build kind message details none cause).1

/-- One detail as it follows the message. -/
def detailChars (e : Value × Value) : List Char :=
  e.1.display ++ '=' :: e.2.literal

/-- The message, with the context in brackets if there is one. -/
def text (e : LaunchError) : String :=
  if e.context.isEmpty then e.message
  else e.message ++ " (" ++ String.ofList (Value.commaJoin (e.context.map detailChars)) ++ ")"

end LaunchError

end ServerLaunch
