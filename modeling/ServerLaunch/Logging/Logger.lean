import ServerLaunch.Config
import ServerLaunch.World.Host

/-!
# Loggers and Channels

Where diagnostics of the launcher go.

A logger of the launcher is known by a name. What it writes is settled not by the
logger but by the channel that is open for its name: a threshold, whether to write to
the console, and a file, if any. A second logger of a name opens the channel anew, and
the first one writes there too from then on.

Names form a hierarchy by their dots. It matters only for a channel without a
threshold, which takes that of the channel above it; the channel at the top is the one
without a name. A channel that is new goes below the nearest one above it, and those that
were made before and belong below it move there.

Besides, there is a logger that discards everything, and a journal, by which a user
of the launcher collects messages.

## Main definitions

* `Severity`: How grave a message is, as a number.
* `Logger`: The loggers.
* `Channel`, `Channels`: What is open for a name.
* `namesAbove`: The names above a name.
* `Channels.configure`: A channel opened anew.
* `Channels.threshold`: From which severity on messages of a name are written.
-/

namespace ServerLaunch

/-- How grave a message is. -/
abbrev Severity := Nat

/-- The severity of messages of a level. -/
def LogLevel.severity : LogLevel → Severity
  | .debug => 10
  | .info => 20
  | .warning => 30
  | .error => 40

/-- The name of a level in a log. -/
def LogLevel.label : LogLevel → String
  | .debug => "DEBUG"
  | .info => "INFO"
  | .warning => "WARNING"
  | .error => "ERROR"

/-- The loggers. Those that are made, and not only there, have a serial number. -/
inductive Logger where
  | silent (serial : Nat)
  | journal
  | launcher (serial : Nat) (name : String) (file : Option Path)
deriving DecidableEq, Repr, Inhabited

/-- What is open for a name, and the name of the channel above. -/
structure Channel where
  threshold : Severity
  console : Bool
  file : Option Path
  above : String
deriving DecidableEq, Repr, Inhabited

/-- What is open for each name. -/
abbrev Channels := Table Channel

/-- The name of the channel at the top. -/
def topName : String := "root"

/-- The name under which a channel is kept: the empty one is the top. -/
def channelName (name : String) : String :=
  if name.toList.isEmpty then topName else name

/-- The beginnings that end before a dot, longest first, of a name that is given from its
    end, and so are they. A dot at the very start has nothing before it, and of two dots
    in a row only the second counts. -/
def beginnings : List Char → List (List Char)
  | '.' :: c :: rest => (c :: rest) :: beginnings rest
  | _ :: rest => beginnings rest
  | [] => []

/-- The names above a name, nearest first. -/
def namesAbove (name : String) : List String :=
  (beginnings name.toList.reverse).map fun cs => String.ofList cs.reverse

namespace Channels

/-- The severity from which the top writes unless told otherwise. -/
def topThreshold : Severity := 30

/-- The channel of a name with nothing open. -/
def fresh (name above : String) : Channel :=
  ⟨if name = topName then topThreshold else 0, false, none, above⟩

/-- The channel of a name, with nothing open if there is none. -/
def find (channels : Channels) (name : String) : Channel :=
  (channels.lookup name).getD (fresh name topName)

/-- The nearest channel above a name. -/
def nearestAbove (channels : Channels) (name : String) : String :=
  ((namesAbove name).find? fun above => (channels.lookup above).isSome).getD topName

/-- The channels once there is one of a new name: those that the name is above of move below
    it, unless the channel above them has a name that begins the same. -/
def adopt (channels : Channels) (name : String) : Channels :=
  channels.map fun (key, channel) =>
    if (namesAbove key).contains name && !name.toList.isPrefixOf channel.above.toList then
      (key, { channel with above := name })
    else (key, channel)

/-- The channels with one of a name. -/
def withName (channels : Channels) (name : String) : Channels :=
  if (channels.lookup name).isSome then channels
  else (adopt channels name).put name (fresh name (nearestAbove channels name))

/-- The channels with one of a name opened anew. -/
def configure (channels : Channels) (name : String) (threshold : Severity) (console : Bool)
    (file : Option Path) : Channels :=
  let channels := withName channels name
  channels.put name { find channels name with threshold, console, file }

/-- The channels with a threshold of one of them changed. -/
def setThreshold (channels : Channels) (name : String) (threshold : Severity) : Channels :=
  channels.put name { find channels name with threshold }

/-- The threshold of a channel or, if it has none, of the nearest one above it that does. The
    fuel bounds the way up; the top always has one. -/
def thresholdFrom (channels : Channels) : Nat → String → Severity
  | 0, _ => topThreshold
  | fuel + 1, name =>
    let channel := find channels name
    if channel.threshold = 0 ∧ name ≠ topName then thresholdFrom channels fuel channel.above
    else channel.threshold

/-- From which severity on messages of a name are written. -/
def threshold (channels : Channels) (name : String) : Severity :=
  thresholdFrom channels (channels.length + 1) name

end Channels

example : namesAbove "a.b..c" = ["a.b.", "a"] ∧ namesAbove ".a" = [] := by decide +kernel

end ServerLaunch
