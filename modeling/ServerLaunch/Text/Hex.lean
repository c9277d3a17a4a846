/-!
# Hexadecimal Digits

Fixed-width lower case hexadecimal, which every escape of a character code uses,
and its reading, which accepts either case.

## Main definitions

* `hexDigit`, `hexDigitValue?`: One digit and its value.
* `hex`: A number in a given count of digits.
* `hexValue?`: The value of a run of digits.
-/

namespace ServerLaunch

namespace Text

/-- The lower case digit of a value below sixteen. -/
def hexDigit (n : Nat) : Char :=
  Char.ofNat (if n < 10 then 48 + n else 87 + n)

/-- The value of a hexadecimal digit of either case. -/
def hexDigitValue? (c : Char) : Option Nat :=
  let n := c.toNat
  if 48 ≤ n && n ≤ 57 then some (n - 48)
  else if 97 ≤ n && n ≤ 102 then some (n - 87)
  else if 65 ≤ n && n ≤ 70 then some (n - 55)
  else none

/-- The number in exactly `width` digits; higher digits are cut off. -/
def hex : (width : Nat) → Nat → List Char
  | 0, _ => []
  | width + 1, n => hex width (n / 16) ++ [hexDigit (n % 16)]

/-- The value of a run of digits, read from the left onto `acc`. -/
def hexValueFrom (acc : Nat) : List Char → Option Nat
  | [] => some acc
  | c :: rest => (hexDigitValue? c).bind fun d => hexValueFrom (16 * acc + d) rest

/-- The value of a run of digits. -/
def hexValue? (cs : List Char) : Option Nat :=
  hexValueFrom 0 cs

/-- A hexadecimal digit is worth less than sixteen. -/
theorem hexDigitValue?_lt {c : Char} {d : Nat} (h : hexDigitValue? c = some d) : d < 16 := by
  simp only [hexDigitValue?, Bool.and_eq_true, decide_eq_true_eq] at h
  split at h
  · simp only [Option.some.injEq] at h; omega
  · split at h
    · simp only [Option.some.injEq] at h; omega
    · split at h
      · simp only [Option.some.injEq] at h; omega
      · simp only [reduceCtorEq] at h

/-- Writing a digit and reading it back changes nothing. -/
theorem hexDigitValue?_hexDigit (n : Nat) (h : n < 16) : hexDigitValue? (hexDigit n) = some n := by
  have hall : ∀ k : Fin 16, hexDigitValue? (hexDigit k.val) = some k.val := by decide
  exact hall ⟨n, h⟩

end Text

end ServerLaunch
