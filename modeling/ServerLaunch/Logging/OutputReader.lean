import ServerLaunch.Text.Blank
import ServerLaunch.Text.Utf8

/-!
# Reading the Output of a Server

The console output of a server comes as octets, cut anywhere. It is logged line by
line as soon as a line is complete.

What is left between two pieces is a character of which some octets are missing, a
line of which some characters are missing, and whether a carriage return came last,
for a line feed right after it belongs to the same end of line. Blanks at the end of
a line are dropped, and so are lines with nothing else.

## Main definitions

* `OutputReader`: The state between two pieces.
* `OutputReader.feed`: The lines that a piece completes.
* `OutputReader.finish`: The line that the end of the output completes.
* `OutputReader.lines`: The lines of the whole output.
-/

namespace ServerLaunch

/-- What is left of the output between two pieces. The characters of the line are
    kept latest first. -/
structure OutputReader where
  pending : Option Utf8.Pending
  afterReturn : Bool
  line : List Char
deriving DecidableEq, Repr

namespace OutputReader

/-- The state before any output. -/
def start : OutputReader :=
  ⟨none, false, []⟩

/-- A line as it is logged, from its characters, latest first; nothing but blanks is
    no line. -/
def logged (line : List Char) : List (List Char) :=
  match line.dropWhile Text.isBlank with
  | [] => []
  | kept => [kept.reverse]

/-- One character. -/
def character (r : OutputReader) (c : Char) : OutputReader × List (List Char) :=
  if c == '\n' && r.afterReturn then ({ r with afterReturn := false }, [])
  else if c == '\n' || c == '\r' then
    ({ r with afterReturn := c == '\r', line := [] }, logged r.line)
  else ({ r with afterReturn := false, line := c :: r.line }, [])

/-- Several characters. -/
def characters (r : OutputReader) : List Char → OutputReader × List (List Char)
  | [] => (r, [])
  | c :: cs =>
    let (r, done) := r.character c
    let (r, more) := characters r cs
    (r, done ++ more)

/-- One octet. -/
def octet (r : OutputReader) (b : UInt8) : OutputReader × List (List Char) :=
  let (symbols, pending) := Utf8.step r.pending b
  characters { r with pending := pending } (symbols.map Utf8.shown)

/-- A piece of output. -/
def feed (r : OutputReader) : List UInt8 → OutputReader × List (List Char)
  | [] => (r, [])
  | b :: bs =>
    let (r, done) := r.octet b
    let (r, more) := feed r bs
    (r, done ++ more)

/-- Several pieces. -/
def feedAll (r : OutputReader) : List (List UInt8) → OutputReader × List (List Char)
  | [] => (r, [])
  | chunk :: chunks =>
    let (r, done) := r.feed chunk
    let (r, more) := feedAll r chunks
    (r, done ++ more)

/-- The end of the output. -/
def finish (r : OutputReader) : List (List Char) :=
  let (r, done) := r.characters ((Utf8.finish r.pending).map Utf8.shown)
  done ++ logged r.line

/-- The lines logged for the pieces of the output of a server, up to its end. -/
def lines (chunks : List (List UInt8)) : List String :=
  let (r, done) := start.feedAll chunks
  (done ++ r.finish).map String.ofList

/-- A line with the name of its source in front. -/
def labelled (label line : String) : String :=
  "[" ++ label ++ "] " ++ line

/-- The name of the source, unless told otherwise. -/
def defaultLabel : String := "appium"

example : lines [[0x61, 0x0D], [0x0A, 0xC3], [0xA9, 0x20, 0x0A, 0x20, 0x0A, 0x62]] =
    ["a", "é", "b"] := by decide +kernel

end OutputReader

end ServerLaunch
