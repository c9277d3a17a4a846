import Mathlib.Algebra.Group.Nat.Defs
import Mathlib.Data.List.Induction
import Mathlib.Data.List.TakeDrop
import ServerLaunch.Number.Numeral

/-!
# Decimal Numerals

What the digits of a whole number are worth, and how many there are.

A number is written with the digits that the core library gives, and read by adding up the
values of digits from the left. Reading what was written gives the number back, and the bound
on digits is a bound on numbers: to have at most so many digits is to be less than the power of
ten with as many zeros, whichever side one starts from.

## Theorems

* `natOfDigits_toDigits`: The digits of a number have its value.
* `head?_toDigits_ne`: No number above zero begins with a zero.
* `natOfDigits_lt`: What digits are worth at most.
* `isTooLong_iff`: A number is too long to be written if it has too many digits.
* `spanDigits_append`: A run of digits ends where something else comes.
-/

namespace ServerLaunch

namespace Numeral

/-- The digits of a number have its value. -/
theorem natOfDigits_toDigits (n : Nat) : natOfDigits (Nat.toDigits 10 n) = n :=
  Nat.ofDigitChars_ten_toDigits

theorem isAsciiDigit_of_mem_toDigits {n : Nat} {c : Char} (h : c ∈ Nat.toDigits 10 n) :
    Text.isAsciiDigit c = true := by
  have hdigit := Nat.isDigit_of_mem_toDigits (by decide) (by decide) h
  simpa [Text.isAsciiDigit, Char.isDigit, UInt32.le_iff_toNat_le] using hdigit

/-- A number above zero is written without a zero in front. -/
theorem head?_toDigits_ne {n : Nat} (h : 0 < n) : (Nat.toDigits 10 n).head? ≠ some '0' := by
  induction n using Nat.strongRecOn with
  | ind n ih =>
      rw [Nat.toDigits_eq_if (by decide)]
      split
      · next hlt =>
          have hall : ∀ k : Fin 10, 0 < k.val → Nat.digitChar k.val ≠ '0' := by decide
          exact fun heq => hall ⟨n, hlt⟩ h (Option.some.inj heq)
      · next hlt =>
          -- One more digit goes to the end, so the first one is that of the quotient.
          have hquotient := ih (n / 10) (by omega) (by omega)
          rcases hds : Nat.toDigits 10 (n / 10) with _ | ⟨d, ds⟩
          · exact absurd hds Nat.toDigits_ne_nil
          · rw [hds] at hquotient
            exact hquotient

/-- Digits are worth less than the power of ten with as many zeros. -/
theorem natOfDigits_lt {ds : List Char} (h : ∀ c ∈ ds, Text.isAsciiDigit c = true) :
    natOfDigits ds < 10 ^ ds.length := by
  induction ds using List.reverseRecOn with
  | nil => decide
  | append_singleton ds d ih =>
      have hd := h d (List.mem_append_right ds List.mem_cons_self)
      have hds := ih fun c hc => h c (List.mem_append_left _ hc)
      simp only [Text.isAsciiDigit, Bool.and_eq_true, decide_eq_true_eq] at hd
      rw [natOfDigits_append_singleton, List.length_append, List.length_singleton, Nat.pow_succ,
        Text.asciiDigitValue]
      omega

/-- A number can be written if it has no more digits than the limit allows. -/
theorem isTooLong_iff {i : Int} :
    isTooLong i = false ↔ (Nat.toDigits 10 i.natAbs).length ≤ digitLimit := by
  rw [isTooLong, decide_eq_false_iff_not, Nat.not_le, Nat.pow_eq,
    Nat.length_toDigits_le_iff (by decide) (by decide)]

/-- A run of digits ends where something else comes. -/
theorem spanDigits_append {ds rest : List Char} (hds : ∀ c ∈ ds, Text.isAsciiDigit c = true)
    (hrest : ∀ c ∈ rest.head?, Text.isAsciiDigit c = false) :
    spanDigits (ds ++ rest) = (ds, rest) := by
  rw [spanDigits, List.span_eq_takeWhile_dropWhile, List.takeWhile_append_of_pos hds,
    List.dropWhile_append_of_pos hds]
  cases rest with
  | nil => simp only [List.takeWhile_nil, List.append_nil, List.dropWhile_nil]
  | cons c rest =>
      have hc := hrest c rfl
      simp only [List.takeWhile_cons, List.dropWhile_cons, hc, Bool.false_eq_true, if_false,
        List.append_nil]

theorem isAsciiDigit_of_mem_spanDigits {cs : List Char} {c : Char} (h : c ∈ (spanDigits cs).1) :
    Text.isAsciiDigit c = true := by
  rw [spanDigits, List.span_eq_takeWhile_dropWhile] at h
  exact List.all_eq_true.mp List.all_takeWhile c h

end Numeral

end ServerLaunch
