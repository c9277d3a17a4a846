import ServerLaunch.Container.Interface
import ServerLaunch.Logging.Logger
import ServerLaunch.Value.Identity
import ServerLaunch.World.Child

/-!
# Events

What the launcher does to the world, and what it writes.

The history of a world is the list of these events. It tells more than a user would
ask for, such as every answer to a question about a child, so that statements about
whole runs can be made about the history alone.

## Main definitions

* `LogRecord`, `Filing`: A message in a log, and its way into a file.
* `Event`: The events.
-/

namespace ServerLaunch

/-- Where a child process writes its output. -/
inductive Outlet where
  | pipe
  | stream
deriving DecidableEq, Repr, Inhabited

/-- Who writes into a journal: the launcher itself, or the reader of the output of a
    server. -/
inductive Writer where
  | launcher
  | reader
deriving DecidableEq, Repr, Inhabited

/-- A message in a log. -/
structure LogRecord where
  label : String
  name : String
  message : String
deriving DecidableEq, Repr, Inhabited

/-- How a message is put into a log file: the place by which the file was opened, the place
    where it is when the message is written, if it was not removed, and whether log files are
    set aside before. -/
structure Filing where
  base : List String
  place : Option (List String)
  setsAside : Bool
deriving DecidableEq, Repr, Inhabited

/-- What happens in a world. Children and pipes are numbered in order of their
    making. -/
inductive Event where
  /-- A program is run to its end. -/
  | ran (command : List String) (timeout : Value)
  /-- A program is searched for. -/
  | searched (name : String)
  /-- A free port is asked for. -/
  | boundPort (port : Int)
  /-- A child is launched, unless that fails. -/
  | launched (command : List String) (outlet : Outlet) (environment : Table Value)
      (child : Option Nat)
  /-- A child is asked whether it runs. -/
  | polled (child : Nat) (exit : Option Int)
  /-- The server is asked whether it is ready. -/
  | pinged (url : String) (answer : PingAnswer)
  /-- Half a second passes. -/
  | slept
  /-- A child is asked to end. -/
  | terminated (child : Nat)
  /-- A child is ended. -/
  | killed (child : Nat)
  /-- A child is waited for. -/
  | waited (child : Nat) (limit : Option Number) (answer : WaitAnswer)
  /-- A pipe for the output of a child is made. -/
  | openedPipe (pipe : Nat)
  /-- The launcher closes its end of a pipe. -/
  | closedPipe (pipe : Nat)
  /-- The launcher waits for the reader of a pipe. -/
  | joinedPipe (pipe : Nat)
  /-- A directory is made. -/
  | madeDirectory (path : Path)
  /-- A log file is opened. -/
  | openedLog (path : Path)
  /-- A recipe of a user is followed. -/
  | followedRecipe (interface : Interface)
  /-- A recipe was followed to the end and made something. -/
  | finishedRecipe (interface : Interface)
  /-- Something is done with a running server. -/
  | ranBody (pid : Option Nat)
  /-- A message is put into the journal. -/
  | noted (writer : Writer) (level : LogLevel) (message : String)
  /-- A message is written to the console. -/
  | shown (entry : LogRecord)
  /-- A message without a place to go is written to the console all the same. -/
  | shownBare (entry : LogRecord)
  /-- A message is written to a log file. -/
  | filed (filing : Filing) (entry : LogRecord)
  /-- A text is printed for the user. -/
  | printed (text : String)
  /-- A text is printed for the user as a complaint. -/
  | complained (text : String)
deriving DecidableEq, Repr

end ServerLaunch
