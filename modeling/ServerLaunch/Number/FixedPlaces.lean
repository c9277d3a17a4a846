import ServerLaunch.Number.Shortest

/-!
# Fixed Places

A number with a given count of digits behind the decimal point, rounded from its
exact value. Half of the last place goes to the even neighbour, which for a number
of this format is a real tie and no accident of an earlier rounding.

## Main definitions

* `fixedPlaces`: A number with a given count of places.
-/

namespace ServerLaunch

namespace Binary64

/-- A natural number of units in the last of `places` places, with its point. -/
def placeChars (places units : Nat) : List Char :=
  let ds := padZeros (places + 1) (digitChars units)
  let whole := ds.take (ds.length - places)
  if places = 0 then whole else whole ++ '.' :: ds.drop (ds.length - places)

/-- The exact value of a finite number in units of the last place, rounded. -/
def placeUnits (places significand : Nat) (exponent : Int) : Nat :=
  roundHalfEven (significand * Nat.pow 2 exponent.toNat * Nat.pow 10 places)
    (Nat.pow 2 (-exponent).toNat)

/-- A number with a given count of digits behind the point. -/
def fixedPlaces (places : Nat) (x : Binary64) : String :=
  let signed (negative : Bool) (cs : List Char) :=
    String.ofList (if negative then '-' :: cs else cs)
  match x with
  | .nan _ => messageLayout.nanText
  | .infinite negative => signed negative messageLayout.infinityText.toList
  | .finite negative s e => signed negative (placeChars places (placeUnits places s e))

end Binary64

end ServerLaunch
