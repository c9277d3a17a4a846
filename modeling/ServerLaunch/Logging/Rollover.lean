import ServerLaunch.World.Event

/-!
# Log Files That Are Set Aside

Which file a message of a channel goes into.

A log file does not grow without end. Where a message would make it too large, the file is
first set aside under another name, those set aside before move on by one, and the last of
them is removed; then the message starts a file of the old name. Each channel does so for
itself, while an open file stays open under whatever name it has by then. So as long as one
channel writes to a file, messages are always found under the name that it was opened by.
Where two channels share one, the file that the one of them sets aside is still written to
by the other, until that finds it too large as well.

This is why a channel has a stream besides the path of its file. A stream knows the place by
which the file was opened, and the file itself by a number; a file knows the place where it
is at present, if it was not removed. Sizes are counted in octets. That a line is about to
make a file too large is judged by its characters, of which there may be fewer.

Log files are regular files on a system where texts are written as UTF-8, and whoever may
write them may also rename them.

## Main definitions

* `LogRecord.fileLine`: A message in a log file.
* `LogFile`, `LogStream`, `LogFiles`: The files, and what channels write to.
* `LogFiles.openAt`: A file opened for a channel.
* `LogFiles.setAllAside`: A log file set aside, and those before it moved on.
* `LogFiles.filing`, `LogFiles.filed`: A message put into a file.
-/

namespace ServerLaunch

/-- The size at which a log file is set aside. -/
def logFileSize : Nat := 5 * 1024 * 1024

/-- How many log files are kept besides the current one. -/
def logFileBackups : Nat := 2

/-- How many characters, all of them octets, a line of a log file has for the time. -/
def stampLength : Nat := 19

/-- The length to which levels are filled up in a log file. -/
def labelLength : Nat := 7

/-- A text filled up with blanks at its end. -/
def filledUp (length : Nat) (s : String) : String :=
  s ++ String.ofList (List.replicate (length - s.length) ' ')

namespace LogRecord

/-- A message in a log file as a line, after the time. -/
def fileLine (entry : LogRecord) : String :=
  " " ++ filledUp labelLength entry.label ++ " " ++ entry.name ++ ": " ++ entry.message ++ "\n"

/-- How many characters it is. -/
def fileCharacters (entry : LogRecord) : Nat :=
  stampLength + entry.fileLine.length

/-- How many octets it is. -/
def fileOctets (entry : LogRecord) : Nat :=
  stampLength + entry.fileLine.utf8ByteSize

end LogRecord

/-- A log file: the names that lead to it, unless it was removed, and how many octets it
    has. -/
structure LogFile where
  place : Option (List String)
  size : Nat
deriving DecidableEq, Repr, Inhabited

/-- What a channel writes to: the place by which a file was opened, and the number of the
    file. -/
structure LogStream where
  base : List String
  number : Nat
deriving DecidableEq, Repr, Inhabited

/-- The log files by their numbers, and the streams of the channels. -/
structure LogFiles where
  files : List LogFile := []
  streams : Table LogStream := []
deriving DecidableEq, Repr, Inhabited

/-- The place of a log file that was set aside a number of times. -/
def placeAside (base : List String) : Nat → List String
  | 0 => base
  | times => base.dropLast ++ [base.getLast?.getD "" ++ "." ++ toString times]

/-- The places of a log file and of those that were set aside before it. -/
def placesAside (base : List String) : List (List String) :=
  (List.range (logFileBackups + 1)).map (placeAside base)

/-- From where to where log files move as one is set aside, those that were set aside before
    coming first. -/
def stepsAside (base : List String) : List (List String × List String) :=
  (List.range logFileBackups).reverse.map fun i => (placeAside base i, placeAside base (i + 1))

namespace LogFiles

/-- The place where a file is, if it is anywhere. -/
def placeOf (logs : LogFiles) (number : Nat) : Option (List String) :=
  logs.files[number]?.bind LogFile.place

/-- The size of a file. -/
def sizeOf (logs : LogFiles) (number : Nat) : Nat :=
  (logs.files[number]?.map LogFile.size).getD 0

/-- The number of the file at a place. -/
def numberAt? (logs : LogFiles) (place : List String) : Option Nat :=
  logs.files.findIdx? fun file => file.place == some place

/-- The log files with one more. -/
def adding (logs : LogFiles) (place : List String) (size : Nat) : LogFiles :=
  { logs with files := logs.files ++ [⟨some place, size⟩] }

/-- The log files with a stream of a channel. -/
def streaming (logs : LogFiles) (name : String) (base : List String) (number : Nat) :
    LogFiles :=
  { logs with streams := logs.streams.put name ⟨base, number⟩ }

/-- The log files with one more, to which a channel writes. -/
def starting (logs : LogFiles) (name : String) (base : List String) (size : Nat) : LogFiles :=
  (logs.adding base size).streaming name base logs.files.length

/-- The log files with one of them longer. -/
def grown (logs : LogFiles) (number octets : Nat) : LogFiles :=
  { logs with
    files := logs.files.modify number fun file => { file with size := file.size + octets } }

-- A file may have been there before any channel wrote to it; its size is asked for then.
variable (sizeAt : List String → Option Nat)

/-- A file opened for a channel, at its end. -/
def openAt (logs : LogFiles) (name : String) (base : List String) : LogFiles :=
  match logs.numberAt? base with
  | some number => logs.streaming name base number
  | none => logs.starting name base ((sizeAt base).getD 0)

/-- The log files with the one at a place known by a number, if there is one. -/
def known (logs : LogFiles) (place : List String) : LogFiles :=
  match logs.numberAt? place, sizeAt place with
  | none, some size => logs.adding place size
  | _, _ => logs

/-- The place of a file after those of another place moved to a third one, where they replace
    what was there. -/
def movedPlace (source target : List String) (file : LogFile) : LogFile :=
  if file.place = some target then { file with place := none }
  else if file.place = some source then { file with place := some target }
  else file

/-- A file moved from one place to another, if there is one. -/
def moved (logs : LogFiles) (source target : List String) : LogFiles :=
  let logs := logs.known sizeAt source
  if (logs.numberAt? source).isSome then
    { logs with files := logs.files.map (movedPlace source target) }
  else logs

/-- A log file set aside, and those that were set aside before moved on. -/
def setAllAside (logs : LogFiles) (base : List String) : LogFiles :=
  (stepsAside base).foldl (fun logs step => logs.moved sizeAt step.1 step.2) logs

/-- Whether a message would make a file too large. -/
def isFull (logs : LogFiles) (number : Nat) (entry : LogRecord) : Bool :=
  logFileSize ≤ logs.sizeOf number + entry.fileCharacters

/-- How a message is put into the file of a stream. -/
def filing (logs : LogFiles) (stream : LogStream) (entry : LogRecord) : Filing :=
  if logs.isFull stream.number entry then ⟨stream.base, some stream.base, true⟩
  else ⟨stream.base, logs.placeOf stream.number, false⟩

/-- The log files with a message put into the file of the stream of a channel. -/
def filed (logs : LogFiles) (name : String) (stream : LogStream) (entry : LogRecord) : LogFiles :=
  if logs.isFull stream.number entry then
    (logs.setAllAside sizeAt stream.base).starting name stream.base entry.fileOctets
  else logs.grown stream.number entry.fileOctets

end LogFiles

example : stepsAside ["var", "x.log"] =
    [(["var", "x.log.1"], ["var", "x.log.2"]), (["var", "x.log"], ["var", "x.log.1"])] := by
  decide +kernel

end ServerLaunch
