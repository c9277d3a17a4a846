import ServerLaunch.Json.Reader

/-!
# Capabilities as an Option

Default capabilities are given on the command line as the text of a JSON object.

## Main definitions

* `CapabilitiesFault`: Why a text gives no capabilities.
* `readCapabilities`: The capabilities of a text.
-/

namespace ServerLaunch

/-- Why a text gives no capabilities. The first two are mistakes of whoever typed
    it; the others come from limits of the reader. -/
inductive CapabilitiesFault where
  | malformed (message : String)
  | noObject
  | tooLong (digits : Nat)
  | tooDeep
deriving DecidableEq, Repr, Inhabited

/-- The explanation of a mistake in the text. -/
def CapabilitiesFault.usageMessage? : CapabilitiesFault → Option String
  | .malformed message => some ("not valid JSON: " ++ message)
  | .noObject => some "must be a JSON object"
  | .tooLong _ | .tooDeep => none

/-- The capabilities that a text gives. -/
def readCapabilities (s : String) : Except CapabilitiesFault Entries :=
  match Json.parse s with
  | .ok (.dict es) => .ok es
  | .ok _ => .error .noObject
  | .error (.malformed problem left) => .error (.malformed (problem.message s left))
  | .error (.tooLong digits) => .error (.tooLong digits)
  | .error .tooDeep => .error .tooDeep

end ServerLaunch
