import ServerLaunch.Number.Binary64

/-!
# Shortest Decimals

The fewest decimal digits that name a floating point number.

Every number has an interval of reals around it that round to it. A decimal in
that interval names the number, and a grid of decimals with few digits may miss the
interval altogether. The digits wanted are those of the coarsest grid that hits it;
where a grid hits it twice, of the nearer point.

If any point of a grid lies in the interval then one of the two neighbours of the
number on that grid does, so only these two are ever tried.

How the digits are then laid out is a format's own business: `Layout` records what
one may decide.

## Main definitions

* `Interval`: A number and the reals that round to it, over one denominator.
* `digitsAt?`: The point of a grid that names the number, if there is one.
* `shortest`: The fewest digits, as a natural number and a power of ten.
* `Layout`, `Layout.write`: Laying out digits around a decimal point.
* `decimalText`: Numbers as every message and every answer shows them.
-/

namespace ServerLaunch

namespace Binary64

/-- A number `value / denominator` with the reals that round to it. The ends
    belong to the interval if the significand is even. -/
structure Interval where
  low : Nat
  value : Nat
  high : Nat
  denominator : Nat
  closed : Bool

/-- The interval of a positive significand at an exponent, in quarters of the
    exponent's unit. Below a power of two the next number is only half as far. -/
def interval (significand : Nat) (exponent : Int) : Interval :=
  let below := if significand = Nat.pow 2 52 && exponent > leastExponent then 1 else 2
  let e := exponent - 2
  let unit := Nat.pow 2 e.toNat
  { low := (4 * significand - below) * unit
    value := 4 * significand * unit
    high := (4 * significand + 2) * unit
    denominator := Nat.pow 2 (-e).toNat
    closed := significand % 2 == 0 }

/-- Whether the decimal `digits * 10 ^ power` lies in the interval. -/
def Interval.contains (i : Interval) (digits : Nat) (power : Int) : Bool :=
  let n := digits * Nat.pow 10 power.toNat * i.denominator
  let d := Nat.pow 10 (-power).toNat
  if i.closed then i.low * d ≤ n && n ≤ i.high * d else i.low * d < n && n < i.high * d

/-- The point of the grid of multiples of `10 ^ power` that names the number. Of two
    such points the nearer is taken, and of two equally near the even one. -/
def digitsAt? (i : Interval) (power : Int) : Option Nat :=
  let n := i.value * Nat.pow 10 (-power).toNat
  let d := i.denominator * Nat.pow 10 power.toNat
  let down := n / d
  let nearest := roundHalfEven n d
  match i.contains down power, i.contains (down + 1) power with
  | true, true => some nearest
  | true, false => some down
  | false, true => some (down + 1)
  | false, false => none

/-- The power of ten of the leading digit of `n / d`, for positive numbers. -/
def leadingPower (n d : Nat) : Int :=
  let guess : Int := (digitCount n : Int) - digitCount d
  let atLeast (p : Int) : Bool := d * Nat.pow 10 p.toNat ≤ n * Nat.pow 10 (-p).toNat
  if atLeast guess then guess else guess - 1

/-- Tries grids from coarse to fine, `fuel` of them. -/
def searchDigits (i : Interval) (power : Int) : (fuel : Nat) → Nat × Int
  | 0 => (i.value * Nat.pow 10 (-power).toNat / i.denominator, power)
  | fuel + 1 =>
    match digitsAt? i power with
    | some digits => (digits, power)
    | none => searchDigits i (power - 1) fuel

/-- Moves the zeros at the end of the digits into the power of ten. -/
def dropZeros (digits : Nat) (power : Int) : (fuel : Nat) → Nat × Int
  | 0 => (digits, power)
  | fuel + 1 =>
    if digits % 10 = 0 then dropZeros (digits / 10) (power + 1) fuel else (digits, power)

/-- The fewest digits that name a positive number, and the power of ten of the
    last of them. Seventeen digits name every number of the format. -/
def shortest (significand : Nat) (exponent : Int) : Nat × Int :=
  let i := interval significand exponent
  let (digits, power) := searchDigits i (leadingPower i.value i.denominator) 17
  dropZeros digits power 20

/-- How digits are laid out. A number is written positionally while the power of
    ten of its leading digit is at least `leastPositional` and below `mostPositional`,
    otherwise with an exponent of at least `exponentWidth` digits. -/
structure Layout where
  leastPositional : Int
  mostPositional : Int
  exponentMark : Char
  exponentWidth : Nat
  infinityText : String
  nanText : String

/-- The decimal digits of a natural number. -/
def digitChars (n : Nat) : List Char :=
  Nat.toDigits 10 n

/-- Zeros in front of digits up to a width. -/
def padZeros (width : Nat) (cs : List Char) : List Char :=
  List.replicate (width - cs.length) '0' ++ cs

/-- Digits around a decimal point that stands `places` digits from the left. At
    least one digit stands on either side. -/
def positional (ds : List Char) (places : Int) : List Char :=
  if places ≤ 0 then '0' :: '.' :: (List.replicate (-places).toNat '0' ++ ds)
  else
    let n := places.toNat
    let whole := ds.take n ++ List.replicate (n - ds.length) '0'
    let rest := ds.drop n
    whole ++ '.' :: (if rest.isEmpty then ['0'] else rest)

/-- Digits with an exponent: one digit before the point, and no point if there is
    only that one. -/
def exponential (layout : Layout) (ds : List Char) (leading : Int) : List Char :=
  let head := ds.take 1
  let tail := ds.drop 1
  let fraction := if tail.isEmpty then [] else '.' :: tail
  let sign := if leading < 0 then '-' else '+'
  head ++ fraction ++ layout.exponentMark :: sign ::
    padZeros layout.exponentWidth (digitChars leading.natAbs)

/-- A number in a layout. -/
def Layout.write (layout : Layout) (x : Binary64) : List Char :=
  let signed (negative : Bool) (cs : List Char) := if negative then '-' :: cs else cs
  match x with
  | .nan _ => layout.nanText.toList
  | .infinite negative => signed negative layout.infinityText.toList
  | .finite negative 0 _ => signed negative ['0', '.', '0']
  | .finite negative s e =>
    let (digits, power) := shortest s e
    let ds := digitChars digits
    let leading := power + ds.length - 1
    signed negative
      (if layout.leastPositional ≤ leading && leading < layout.mostPositional then
        positional ds (leading + 1)
      else exponential layout ds leading)

/-- Messages write numbers positionally from `0.0001` up to sixteen digits, and the
    special values in lower case. -/
def messageLayout : Layout :=
  { leastPositional := -4, mostPositional := 16, exponentMark := 'e', exponentWidth := 2
    infinityText := "inf", nanText := "nan" }

/-- A number as messages show it. -/
def decimalChars (x : Binary64) : List Char :=
  messageLayout.write x

/-- A number as messages show it. -/
def decimalText (x : Binary64) : String :=
  String.ofList (decimalChars x)

end Binary64

end ServerLaunch
