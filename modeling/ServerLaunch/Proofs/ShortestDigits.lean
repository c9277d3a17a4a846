import ServerLaunch.Number.Shortest
import ServerLaunch.Proofs.Numeral

/-!
# The Shortest Digits

That the digits of a floating point number above zero are not zero.

The digits are found by a search on grids of decimals, and nothing about the search says at once
that what it finds is not zero. It is not: an interval of reals that round to a number above zero
has no zero in it, and where the search gives up it cuts off a number that is not below one. That
matters for the text of a number, in which a zero in front of other digits would be superfluous.

## Theorems

* `digitsAt?_pos`: A point of a grid that names the number is not zero.
* `le_of_leadingPower`: Where its leading digit is, a quotient is not below one.
* `searchDigits_pos`, `shortest_pos`: The digits that are found are not zero.
-/

namespace ServerLaunch

namespace Binary64

theorem le_roundHalfEven (n d : Nat) : n / d ≤ roundHalfEven n d := by
  simp only [roundHalfEven]
  split
  · exact Nat.le_refl _
  · split
    · exact Nat.le_succ _
    · split
      · exact Nat.le_refl _
      · exact Nat.le_succ _

/-- An interval above zero has no zero in it. -/
theorem Interval.contains_zero {i : Interval} (h : 0 < i.low) (power : Int) :
    i.contains 0 power = false := by
  have hend : 0 < i.low * Nat.pow 10 (-power).toNat := Nat.mul_pos h (Nat.pow_pos (by decide))
  rw [Interval.contains, Nat.zero_mul, Nat.zero_mul]
  split
  · rw [decide_eq_false (Nat.not_le.mpr hend), Bool.false_and]
  · rw [decide_eq_false (Nat.not_lt_zero _), Bool.false_and]

theorem digitsAt?_pos {i : Interval} (hlow : 0 < i.low) {power : Int} {digits : Nat}
    (h : digitsAt? i power = some digits) : 0 < digits := by
  have hdown {n : Nat} (hn : i.contains n power = true) : 0 < n := by
    rcases Nat.eq_zero_or_pos n with rfl | hpos
    · rw [Interval.contains_zero hlow] at hn
      cases hn
    · exact hpos
  unfold digitsAt? at h
  simp only at h
  split at h
  · next hcontains _ =>
      rw [← Option.some.inj h]
      exact Nat.lt_of_lt_of_le (hdown hcontains) (le_roundHalfEven _ _)
  · next hcontains _ =>
      rw [← Option.some.inj h]
      exact hdown hcontains
  · next _ hcontains =>
      rw [← Option.some.inj h]
      exact hdown hcontains
  · cases h

/-- A search that gives up cuts off a number that is not below one, if it was begun at one. -/
theorem searchDigits_pos {i : Interval} (hlow : 0 < i.low) (hdenominator : 0 < i.denominator)
    {power : Int} (h : i.denominator ≤ i.value * 10 ^ (-power).toNat) (fuel : Nat) :
    0 < (searchDigits i power fuel).1 := by
  induction fuel generalizing power with
  | zero => exact Nat.div_pos h hdenominator
  | succ fuel ih =>
      rw [searchDigits]
      split
      · next hdigits => exact digitsAt?_pos hlow hdigits
      · have hfiner : (-power).toNat ≤ (-(power - 1)).toNat := by omega
        exact ih (Nat.le_trans h
          (Nat.mul_le_mul_left _ (Nat.pow_le_pow_right (by decide) hfiner)))

theorem dropZeros_pos {digits : Nat} (h : 0 < digits) (power : Int) (fuel : Nat) :
    0 < (dropZeros digits power fuel).1 := by
  induction fuel generalizing digits power with
  | zero => exact h
  | succ fuel ih =>
      rw [dropZeros]
      split
      · exact ih (by omega) _
      · exact h

theorem lt_pow_digitCount (n : Nat) : n < 10 ^ digitCount n := by
  have hpos : 0 < digitCount n := List.length_pos_iff.mpr Nat.toDigits_ne_nil
  exact (Nat.length_toDigits_le_iff (by decide) hpos).mp (Nat.le_refl _)

theorem pow_digitCount_le {n : Nat} (h : 0 < n) : 10 ^ (digitCount n - 1) ≤ n := by
  rcases Nat.eq_zero_or_pos (digitCount n - 1) with hone | hmore
  · rw [hone]
    exact h
  · refine Nat.not_lt.mp fun hlt => ?_
    have hle : digitCount n ≤ digitCount n - 1 :=
      (Nat.length_toDigits_le_iff (by decide) hmore).mpr hlt
    omega

/-- Where its leading digit is, a quotient is not below one. -/
theorem le_of_leadingPower {n d : Nat} (hn : 0 < n) :
    d ≤ n * 10 ^ (-leadingPower n d).toNat := by
  rw [leadingPower]
  simp only
  split
  · next hleast =>
      have hten : 0 < 10 ^ ((digitCount n : Int) - digitCount d).toNat := Nat.pow_pos (by decide)
      exact Nat.le_trans (Nat.le_mul_of_pos_right d hten) (of_decide_eq_true hleast)
  · -- One digit less in front is on the safe side whatever the digits are.
    have hplaces : digitCount d ≤
        digitCount n - 1 + (-((digitCount n : Int) - digitCount d - 1)).toNat := by omega
    calc
      d ≤ 10 ^ digitCount d := Nat.le_of_lt (lt_pow_digitCount d)
      _ ≤ 10 ^ (digitCount n - 1 + (-((digitCount n : Int) - digitCount d - 1)).toNat) :=
        Nat.pow_le_pow_right (by decide) hplaces
      _ = 10 ^ (digitCount n - 1) * 10 ^ (-((digitCount n : Int) - digitCount d - 1)).toNat :=
        Nat.pow_add ..
      _ ≤ n * 10 ^ (-((digitCount n : Int) - digitCount d - 1)).toNat :=
        Nat.mul_le_mul_right _ (pow_digitCount_le hn)

/-- The digits of a number above zero are not zero. -/
theorem shortest_pos {significand : Nat} (h : 0 < significand) (exponent : Int) :
    0 < (shortest significand exponent).1 := by
  have hunit {k : Nat} : 0 < Nat.pow 2 k := Nat.pow_pos (by decide)
  have hlow : 0 < (interval significand exponent).low := by
    refine Nat.mul_pos ?_ hunit
    split <;> omega
  have hvalue : 0 < (interval significand exponent).value :=
    Nat.mul_pos (Nat.mul_pos (by decide) h) hunit
  exact dropZeros_pos (searchDigits_pos hlow hunit (le_of_leadingPower hvalue) 17) _ 20

end Binary64

end ServerLaunch
