import ServerLaunch.Capabilities
import ServerLaunch.Json.Writer

/-!
# Capabilities on the Command Line

A capability set as one argument of a command line.

The ordinary form is compact JSON. Where the program that starts processes reads
the command line a second time, as on Windows, the quotes of JSON are lost, and a
form can be chosen in which every name and every text stands between escaped
quotes. That form drops capabilities set to null, writes paths with forward
slashes, and writes every value that is no text in a plain form of its own.

## Main definitions

* `pathNames`: The capabilities whose values are paths.
* `plain`: The plain form of a value.
* `jsonToken`: The ordinary form.
* `quotedToken`: The form with escaped quotes.
* `token`: The form that is chosen.
-/

namespace ServerLaunch

namespace Capabilities

/-- Capabilities whose values are file system paths. -/
def pathNames : List String :=
  ["chromedriverExecutable", "keystorePath", "app", "appPackage",
   "appium:chromedriverExecutable", "appium:keystorePath", "appium:app", "appium:appPackage"]

mutual

/-- A value without quotes: brackets around members, and entries with an equals
    sign between name and value. -/
def plain : Value → List Char
  | .null => Json.nullToken
  | .bool b => Json.boolToken b
  | .list vs => Value.bracketed ['['] [']'] (plains vs)
  | .tuple vs => Value.bracketed ['['] [']'] (plains vs)
  | .set vs => Value.bracketed ['['] [']'] (plains vs)
  | .dict es => Value.bracketed ['\x7b'] ['\x7d'] (plainEntries es)
  | .caps es => Value.bracketed ['\x7b'] ['\x7d'] (plainEntries es)
  | .number n => (Value.number n).display
  | .text s => s.toList
  | .path p => (Value.path p).display
  | .octets bs => (Value.octets bs).display
  | .moment m => m.display
termination_by structural v => v

/-- Several values without quotes. -/
def plains : List Value → List (List Char)
  | [] => []
  | v :: vs => plain v :: plains vs
termination_by structural vs => vs

/-- Entries without quotes. -/
def plainEntries : List (Value × Value) → List (List Char)
  | [] => []
  | (k, v) :: es => (k.display ++ '=' :: plain v) :: plainEntries es
termination_by structural es => es

end

/-- A quote that survives a second reading of the command line. -/
def quoteMark : List Char :=
  ['\\', '"']

/-- Characters between two escaped quotes. -/
def marked (cs : List Char) : List Char :=
  quoteMark ++ cs ++ quoteMark

/-- A path with forward slashes only. -/
def forwardSlashes (cs : List Char) : List Char :=
  cs.map fun c => if c == '\\' then '/' else c

/-- Whether a capability's value is a path. -/
def isPathName : Value → Bool
  | .text s => pathNames.contains s
  | _ => false

/-- The value of a capability in the form with escaped quotes. -/
def markedValue (name value : Value) : List Char :=
  match value with
  | .text s => marked (if isPathName name then forwardSlashes s.toList else s.toList)
  | v => plain v

/-- Whether a value is null. -/
def isNull : Value → Bool
  | .null => true
  | _ => false

/-- One capability in the form with escaped quotes. -/
def markedEntry (e : Value × Value) : List Char :=
  marked e.1.display ++ ':' :: ' ' :: markedValue e.1 e.2

/-- The set in the form with escaped quotes, without capabilities set to null. -/
def quotedChars (es : Entries) : List Char :=
  Value.bracketed ['\x7b'] ['\x7d'] ((es.filter fun e => !isNull e.2).map markedEntry)

/-- The set in the form with escaped quotes; no set is written like the empty one. -/
def quotedToken (es : Option Entries) : String :=
  String.ofList (quotedChars (es.getD []))

/-- The set as compact JSON; no set has no JSON. -/
def jsonToken : Option Entries → Except Json.WriteFault String
  | some es => (Json.write (.dict es)).map String.ofList
  | none => .error .nothing

/-- The set as one argument: with escaped quotes if that is asked for and the
    system is one that needs it. -/
def token (es : Option Entries) (quoteOnWindows onWindows : Bool) :
    Except Json.WriteFault String :=
  if quoteOnWindows && onWindows then .ok (quotedToken es) else jsonToken es

end Capabilities

end ServerLaunch
