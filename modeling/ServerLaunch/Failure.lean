import ServerLaunch.Capabilities.Option
import ServerLaunch.Config
import ServerLaunch.Container.Interface
import ServerLaunch.Error
import ServerLaunch.Value.Members

/-!
# Failures

Everything that can keep an action from giving its result.

Errors of the launcher itself are one kind among others. Faulty settings are
reported field by field. Some failures come from outside and pass through: a user
who interrupts, a system that refuses to make a directory or to look at a path, a server
that answers with something other than an answer. A few come from limits, such as numbers too
long to be read.

## Main definitions

* `Failure`: The failures.
* `Failure.readInteger`: A text that has to be a whole number.
* `Failure.message?`: The text of a failure that has one.
-/

namespace ServerLaunch

/-- Why an action gives no result. -/
inductive Failure where
  /-- An error of the launcher. -/
  | launch (e : LaunchError)
  /-- Settings with faulty fields. -/
  | invalid (reports : List FieldReport)
  /-- A section of settings in the environment that is no JSON. -/
  | unreadableSection (name : String)
  /-- A file, or what a program prints, that is no UTF-8 text. -/
  | encoding
  /-- A text that nests too deep. -/
  | nesting
  /-- A value that is asked for something it does not have. -/
  | noSuchPart
  /-- A value of a kind that an operation does not take. -/
  | wrongKind
  /-- A value that makes no mapping. -/
  | entries (fault : EntriesFault)
  /-- Nothing is registered for an interface. -/
  | unregistered (interface : Interface)
  /-- A registration of nothing. -/
  | noImplementation
  /-- A level that is a text but no level. -/
  | unknownLevel (text : String)
  /-- A number with too many digits. -/
  | longNumeral (digits : Nat)
  /-- A number with too many digits to be written. -/
  | longNumber
  /-- A number too large for floating point, or for a limit of time. -/
  | tooLarge
  /-- A variable of the environment that has to be set is not. -/
  | noVariable (name : String)
  /-- A text that has to be a whole number is none. -/
  | noInteger (text : String)
  /-- A recipe whose results are used up. -/
  | usedUp
  /-- A list that is asked for a member it does not have. -/
  | noMember
  /-- The system refuses to make a directory, or to look at a path. -/
  | denied (text : String)
  /-- A server answers with something that is no answer. -/
  | malformedAnswer (line : String)
  /-- The user interrupts. -/
  | interrupted
  /-- What is done with a running server fails. -/
  | bodyFailed (text : String)
  /-- A wait that would never end. -/
  | endless
deriving Inhabited, Repr

namespace Failure

/-- The most characters of a text that a message about it shows. -/
def shownLength : Nat := 200

/-- A text as far as a message shows it. -/
def shortened (text : String) : String :=
  String.ofList (text.toList.take shownLength)

/-- The message about a level that is a text but no level. -/
def unknownLevelMessage (text : String) : String :=
  "Unknown level: " ++ Text.quoted text

/-- An assignment that is refused, as a failure. -/
def ofAssignFault : AssignFault → Failure
  | .reserved => .noSuchPart
  | .unfit => .wrongKind
  | .invalid report => .invalid [report]

/-- The whole number that a text has to be. -/
def readInteger (text : String) : Except Failure Int :=
  (Numeral.readInteger text).mapError fun
    | .malformed => .noInteger text
    | .tooLong digits => .longNumeral digits

/-- The text of a failure that has one. -/
def message? : Failure → Option String
  | .launch e => some e.text
  | .unreadableSection name =>
    some ("error parsing value for field \"" ++ name ++ "\" from source \"EnvSettingsSource\"")
  | .entries fault => fault.message?
  | .unregistered interface =>
    some ("\"No provider registered for: " ++ interface.typeName ++ "\"")
  | .noImplementation => some "Must provide either implementation or factory"
  | .unknownLevel text => some (unknownLevelMessage text)
  | .longNumeral digits => some (Numeral.tooLongMessage digits)
  | .longNumber => some Numeral.tooLongToWriteMessage
  | .tooLarge => some "int too large to convert to float"
  | .noVariable name => some (Text.quoted name)
  | .noInteger text =>
    some ("invalid literal for int() with base 10: " ++ shortened (Text.quoted text))
  | .usedUp => some ""
  | .noMember => some "list index out of range"
  | .denied text => some text
  | .malformedAnswer line => some line
  | .interrupted => some ""
  | .bodyFailed text => some text
  | .invalid _ | .encoding | .nesting | .noSuchPart | .wrongKind | .endless => none

end Failure

end ServerLaunch
