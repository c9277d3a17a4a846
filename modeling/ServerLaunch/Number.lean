import ServerLaunch.Number.FixedPlaces
import ServerLaunch.Number.Numeral

/-!
# Numbers

A number that a user may give either as a whole number of any size or as a floating
point number. The two keep their spelling apart, `20` and `20.0`, but compare by
their exact values.

## Main definitions

* `Number`: Whole or floating point.
* `text`: The number as messages show it.
* `equals`, `isPositive`: Comparison by exact value.
* `toBinary64?`: The nearest floating point number, if the size allows one.
-/

namespace ServerLaunch

/-- A whole number of any size, or a floating point number. -/
inductive Number where
  | int (i : Int)
  | float (x : Binary64)
deriving DecidableEq, Repr, Inhabited

namespace Number

/-- The number as messages show it. -/
def text : Number → String
  | .int i => Numeral.intText i
  | .float x => Binary64.decimalText x

/-- Equality by exact value. -/
def equals : Number → Number → Bool
  | .int i, .int j => i == j
  | .int i, .float x | .float x, .int i => x.toInt? == some i
  | .float x, .float y => x.equals y

/-- Above zero; a not-a-number is not. -/
def isPositive : Number → Bool
  | .int i => 0 < i
  | .float x => x.isPositive

/-- Zero or below; a not-a-number is not. -/
def isNotPositive : Number → Bool
  | .int i => i ≤ 0
  | .float (.nan _) => false
  | .float x => !x.isPositive

/-- Zero, of either sign. -/
def isZero : Number → Bool
  | .int i => i == 0
  | .float (.finite _ s _) => s == 0
  | .float _ => false

/-- The nearest floating point number. A whole number that would round to infinity
    has none. -/
def toBinary64? : Number → Option Binary64
  | .float x => some x
  | .int i =>
    match Binary64.ofInt i with
    | .infinite _ => none
    | x => some x

end Number

end ServerLaunch
