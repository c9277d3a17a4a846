/-!
# Double Precision Numbers

The 64-bit floating point numbers, as data.

A finite number is a sign, a significand and a power of two; together with the two
infinities and the not-a-number these are all values of the format. Keeping them
as data rather than as machine words makes every operation exact and visible: a
number is rounded in one place, `ofQuotient`, and all else is arithmetic on
natural numbers.

A not-a-number is equal to nothing, itself included, but a value is always the
same object as itself, and comparing collections looks at that first. The tag tells
one not-a-number object from another.

## Main definitions

* `Binary64`: The numbers of the format.
* `roundHalfEven`: A quotient rounded to the nearest natural number.
* `ofQuotient`, `ofDecimal`, `ofInt`, `ofRat`: Rounding to the format.
* `toRat?`: The exact value of a finite number.
* `lt`, `equals`: Comparison by value.

## Theorems

* `roundHalfEven_near`: Rounding stays within one half.
-/

namespace ServerLaunch

/-- A number of the 64-bit floating point format. The value of a finite one is
    `significand * 2 ^ exponent`, with the sign in front; zero has a sign too. -/
inductive Binary64 where
  | finite (negative : Bool) (significand : Nat) (exponent : Int)
  | infinite (negative : Bool)
  | nan (tag : Nat)
deriving DecidableEq, Repr, Inhabited

namespace Binary64

/-- The least exponent, which zero and the smallest numbers have. -/
def leastExponent : Int := -1074

/-- The greatest exponent of a finite number. -/
def greatestExponent : Int := 971

/-- Zero of either sign. -/
def zero (negative : Bool) : Binary64 :=
  .finite negative 0 leastExponent

/-- The natural number nearest to `n / d`; of two equally near, the even one. -/
def roundHalfEven (n d : Nat) : Nat :=
  let q := n / d
  let r := n % d
  if 2 * r < d then q
  else if d < 2 * r then q + 1
  else if q % 2 = 0 then q else q + 1

/-- Rounding stays within one half: twice the error is at most the divisor. -/
theorem roundHalfEven_near (n d : Nat) (h : 0 < d) :
    2 * (roundHalfEven n d * d) ≤ 2 * n + d ∧ 2 * n ≤ 2 * (roundHalfEven n d * d) + d := by
  have hsplit := Nat.div_add_mod n d
  have hless := Nat.mod_lt n h
  have hcomm : n / d * d = d * (n / d) := Nat.mul_comm _ _
  have hsucc : (n / d + 1) * d = d * (n / d) + d := by rw [Nat.add_mul, hcomm, Nat.one_mul]
  simp only [roundHalfEven]
  split
  · omega
  · split
    · omega
    · split <;> omega

/-- `n / (d * 2 ^ e)` as a quotient of natural numbers. -/
def scale (n d : Nat) (e : Int) : Nat × Nat :=
  if e < 0 then (n * Nat.pow 2 (-e).toNat, d) else (n, d * Nat.pow 2 e.toNat)

/-- A significand at an exponent, with the carry of a significand that rounding
    has brought to `2 ^ 53`, and infinity above the greatest exponent. -/
def assemble (negative : Bool) (significand : Nat) (exponent : Int) : Binary64 :=
  let (s, e) :=
    if significand = Nat.pow 2 53 then (Nat.pow 2 52, exponent + 1) else (significand, exponent)
  if e > greatestExponent then .infinite negative else .finite negative s e

/-- The number nearest to `n / d`, ties to the even significand. -/
def ofQuotient (negative : Bool) (n d : Nat) : Binary64 :=
  if n = 0 || d = 0 then zero negative
  else
    -- The quotient lies between `2 ^ (a - b - 1)` and `2 ^ (a - b + 1)`.
    let low : Int := (n.log2 : Int) - d.log2 - 53
    let tentative := max low leastExponent
    let (n₁, d₁) := scale n d tentative
    let exponent := if n₁ / d₁ ≥ Nat.pow 2 53 then tentative + 1 else tentative
    let (n₂, d₂) := scale n d exponent
    assemble negative (roundHalfEven n₂ d₂) exponent

/-- How many decimal digits a natural number has. -/
def digitCount (n : Nat) : Nat :=
  (Nat.toDigits 10 n).length

/-- The number nearest to `digits * 10 ^ power`. Powers far outside the range of
    the format are answered without computing them. -/
def ofDecimal (negative : Bool) (digits : Nat) (power : Int) : Binary64 :=
  if digits = 0 then zero negative
  else
    let magnitude := power + digitCount digits
    if magnitude > 400 then .infinite negative
    else if magnitude < -400 then zero negative
    else if power < 0 then ofQuotient negative digits (Nat.pow 10 (-power).toNat)
    else ofQuotient negative (digits * Nat.pow 10 power.toNat) 1

/-- The number nearest to an integer. -/
def ofInt (i : Int) : Binary64 :=
  ofQuotient (i < 0) i.natAbs 1

/-- The number nearest to a fraction. -/
def ofRat (q : Rat) : Binary64 :=
  ofQuotient (q.num < 0) q.num.natAbs q.den

/-- The exact value of a finite number. -/
def toRat? : Binary64 → Option Rat
  | .finite negative s e =>
    let magnitude : Rat :=
      if e < 0 then mkRat s (Nat.pow 2 (-e).toNat) else (s * Nat.pow 2 e.toNat : Nat)
    some (if negative then -magnitude else magnitude)
  | .infinite _ => none
  | .nan _ => none

/-- Comparison by value. A not-a-number is neither below nor above anything. -/
def lt (x y : Binary64) : Bool :=
  match x, y with
  | .nan _, _ | _, .nan _ => false
  | .infinite negative, .infinite negative' => negative && !negative'
  | .infinite negative, .finite .. => negative
  | .finite .., .infinite negative => !negative
  | .finite n s e, .finite n' s' e' =>
    match toRat? (.finite n s e), toRat? (.finite n' s' e') with
    | some a, some b => a < b
    | _, _ => false

/-- Equality by value: zeros of both signs are equal, a not-a-number equals
    nothing. -/
def equals (x y : Binary64) : Bool :=
  match x, y with
  | .nan _, _ | _, .nan _ => false
  | .infinite negative, .infinite negative' => negative == negative'
  | .infinite _, .finite .. | .finite .., .infinite _ => false
  | .finite n s e, .finite n' s' e' =>
    (s == 0 && s' == 0) || (n == n' && s == s' && e == e')

/-- Above zero; a not-a-number is not. -/
def isPositive : Binary64 → Bool
  | .finite negative s _ => !negative && s != 0
  | .infinite negative => !negative
  | .nan _ => false

/-- The integer that a number without a fractional part is. -/
def toInt? : Binary64 → Option Int
  | .finite negative s e =>
    let magnitude? :=
      if e < 0 then
        let d := Nat.pow 2 (-e).toNat
        if s % d = 0 then some (s / d) else none
      else some (s * Nat.pow 2 e.toNat)
    magnitude?.map fun n => if negative then -(n : Int) else n
  | .infinite _ => none
  | .nan _ => none

example : ofDecimal false 15 (-1) = .finite false (3 * 2 ^ 51) (-52) := by decide +kernel
example : ofDecimal false 1 400 = .infinite false := by decide +kernel
example : ofDecimal false 9007199254740993 0 = ofDecimal false 9007199254740992 0 := by
  decide +kernel

end Binary64

end ServerLaunch
