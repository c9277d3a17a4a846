import ServerLaunch.Number.FixedPlaces

/-!
# Rounded Decimals

A number with a given precision, in one of three styles.

In the fixed style the precision counts the digits behind the point, in the scientific
style those behind the first digit, and in the general style all digits. The general
style chooses between the other two by the size of the number and drops zeros at the
end. Every rounding is from the exact value, ties to the even neighbour.

## Main definitions

* `RealStyle`: The styles.
* `significant`: The leading digits of a number.
* `rounded`: A number in a style.
-/

namespace ServerLaunch

/-- How a number is written to a given precision. -/
inductive RealStyle where
  | fixed
  | scientific
  | general
deriving DecidableEq, Repr

namespace Binary64

/-- The first `count` digits of a number, rounded, as one number, and the power of ten
    of the first of them. Rounding may carry into one more digit, which moves the first
    one up. -/
def significant (count significand : Nat) (exponent : Int) : Nat × Int :=
  if significand = 0 then (0, 0)
  else
    let n := significand * Nat.pow 2 exponent.toNat
    let d := Nat.pow 2 (-exponent).toNat
    let leading := leadingPower n d
    let power := leading - ((count : Int) - 1)
    let digits := roundHalfEven (n * Nat.pow 10 (-power).toNat) (d * Nat.pow 10 power.toNat)
    if digits = Nat.pow 10 count then (Nat.pow 10 (count - 1), leading + 1) else (digits, leading)

/-- Digits before and behind a point. Without any behind it, the point stands only if it
    is asked for. -/
def pointed (keepPoint : Bool) (whole fraction : List Char) : List Char :=
  if fraction.isEmpty && !keepPoint then whole else whole ++ '.' :: fraction

/-- Digits without the zeros at their end. -/
def dropLastZeros (ds : List Char) : List Char :=
  (ds.reverse.dropWhile (· == '0')).reverse

/-- Digits with an exponent of at least two digits. -/
def withExponent (keepPoint : Bool) (whole fraction : List Char) (power : Int) : List Char :=
  pointed keepPoint whole fraction ++ 'e' :: (if power < 0 then '-' else '+') ::
    padZeros 2 (digitChars power.natAbs)

/-- A finite number in the scientific style. -/
def scientificChars (keepPoint : Bool) (places significand : Nat) (exponent : Int) : List Char :=
  let (digits, leading) := significant (places + 1) significand exponent
  let ds := padZeros (places + 1) (digitChars digits)
  withExponent keepPoint (ds.take 1) (ds.drop 1) leading

/-- The least power of ten of the first digit for which the general style is fixed. -/
def leastFixed : Int := -4

/-- A finite number in the general style. Zeros at the end are kept along with the
    point. -/
def generalChars (keepPoint : Bool) (precision significand : Nat) (exponent : Int) : List Char :=
  let count := max precision 1
  let (digits, leading) := significant count significand exponent
  let ds := padZeros count (digitChars digits)
  let kept (fraction : List Char) := if keepPoint then fraction else dropLastZeros fraction
  if leading < leastFixed || leading ≥ count then
    withExponent keepPoint (ds.take 1) (kept (ds.drop 1)) leading
  else if leading < 0 then
    pointed keepPoint ['0'] (kept (List.replicate (leading.natAbs - 1) '0' ++ ds))
  else pointed keepPoint (ds.take (leading.toNat + 1)) (kept (ds.drop (leading.toNat + 1)))

/-- A finite number in a style, without its sign. -/
def roundedChars (style : RealStyle) (keepPoint : Bool) (precision significand : Nat)
    (exponent : Int) : List Char :=
  match style with
  | .fixed =>
    let cs := placeChars precision (placeUnits precision significand exponent)
    if precision = 0 && keepPoint then cs ++ ['.'] else cs
  | .scientific => scientificChars keepPoint precision significand exponent
  | .general => generalChars keepPoint precision significand exponent

/-- A number in a style: whether it is negative, and its text without the sign. -/
def rounded (style : RealStyle) (keepPoint : Bool) (precision : Nat) (x : Binary64) :
    Bool × List Char :=
  match x with
  | .nan _ => (false, messageLayout.nanText.toList)
  | .infinite negative => (negative, messageLayout.infinityText.toList)
  | .finite negative s e => (negative, roundedChars style keepPoint precision s e)

example : (rounded .general false 6 (ofInt 1000000)).2 = "1e+06".toList := by decide +kernel

end Binary64

end ServerLaunch
