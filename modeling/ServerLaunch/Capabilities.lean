import ServerLaunch.Text.LetterCase
import ServerLaunch.Value.Members

/-!
# Capability Sets

What a user wants of the sessions of a launched server.

A capability set is an ordered mapping that is never changed in place. Two sets are
combined by merging: the names of the second keep the place they have in the
first, and take the value they have in the second.

## Main definitions

* `Capabilities`: The sets.
* `Capabilities.create`: A set from a value and named capabilities.
* `Capabilities.merge`: A set with another applied over it.
* `Capabilities.browserName`: The browser asked for, or the empty text.
* `Capabilities.score`: How well a server of this kind suits the set.
-/

namespace ServerLaunch

/-- An ordered, read-only mapping of capability names to values. -/
structure Capabilities where
  entries : Entries
deriving Inhabited, Repr

namespace Capabilities

/-- The set without capabilities. -/
def empty : Capabilities :=
  ⟨[]⟩

/-- A set from keys and values in which keys may repeat. -/
def ofPairs (pairs : List (Value × Value)) : Capabilities :=
  ⟨Entries.ofPairs pairs⟩

/-- The names that cannot be given as named capabilities. -/
def reservedNames : List String :=
  ["self", "values"]

/-- A set from what a value gives, and further named capabilities that go over it. -/
def create (v : Value) (named : Entries) : Except EntriesFault Capabilities :=
  if reservedNames.any fun name => Entries.has named (.text name) then .error .wrongKind
  else v.toPairs.map fun pairs => ⟨Entries.update (Entries.ofPairs pairs) named⟩

/-- The value of a capability. -/
def get? (c : Capabilities) (name : Value) : Option Value :=
  Entries.get? c.entries name

/-- Whether a capability is set, be it to null. -/
def has (c : Capabilities) (name : Value) : Bool :=
  Entries.has c.entries name

/-- How many capabilities are set. -/
def size (c : Capabilities) : Nat :=
  c.entries.length

/-- The set with another applied over it. -/
def merge (c : Capabilities) (other : Entries) : Capabilities :=
  ⟨Entries.update c.entries other⟩

/-- The set with what a value gives applied over it. -/
def mergeValue (c : Capabilities) (v : Value) : Except EntriesFault Capabilities :=
  v.toPairs.map c.merge

/-- The set as a value of its own kind. -/
def toValue (c : Capabilities) : Value :=
  .caps c.entries

/-- The browser that is asked for; a value that counts as absent gives the empty
    text. -/
def browserName (c : Capabilities) : String :=
  match Entries.getText? c.entries "browserName" with
  | some v => if v.isTruthy then v.displayText else ""
  | none => ""

/-- Browsers that this kind of server automates. -/
def scoredBrowsers : List String :=
  ["chrome", "android", "safari"]

/-- How well a server of this kind suits the set: one point for a platform and one
    for a browser it automates. -/
def score (c : Capabilities) : Nat :=
  let platform := match Entries.getText? c.entries "platformName" with
    | some .null | none => 0
    | some _ => 1
  let browser := if scoredBrowsers.contains (Text.lower c.browserName) then 1 else 0
  platform + browser

end Capabilities

end ServerLaunch
