import Mathlib.Data.Nat.Digits.Defs
import ServerLaunch.Proofs.BasePath

/-!
# Integer Texts

Which texts are read as whole numbers, told from the side of the text.

The reader takes a text apart from the outside: it trims it, looks for a sign, cuts off what can
stand in a run of digits, and goes over the digits, and at each step it may give up. A text that
it takes has blanks, a sign or none, digits of any script with single underscores between them,
and blanks again, and that is all there is to it. `IntegerText` says so, and what number the
text spells. That it is read as that number, and every other text as none, takes little more
than that neither a sign nor an underscore is a digit, and that no digit is a blank.

## Main definitions

* `Numeral.DigitRun`: Digits with single underscores between them.
* `Numeral.SignedBy`: The signs of a number.
* `Numeral.IntegerText`: A text that spells a whole number.

## Theorems

* `Text.trim_append`, `Text.exists_trim`: Trimming, and what it takes away.
* `Numeral.separatedDigits?_iff`: The runs of digits that are read.
* `Numeral.readInteger_eq_ok_iff`: The texts that are read, and as what.
-/

namespace ServerLaunch

namespace Text

variable {p : Char → Bool} {cs before after : List Char}

/-- Trimming takes away what is around a text whose ends are not in the set. -/
theorem trim_append (hbefore : ∀ c ∈ before, p c) (hafter : ∀ c ∈ after, p c) (hne : cs ≠ [])
    (hends : EndsOutside p cs) : trim p (before ++ (cs ++ after)) = cs := by
  have hstart : trimStart p (before ++ (cs ++ after)) = cs ++ after := by
    unfold trimStart
    rw [List.dropWhile_append_of_pos hbefore]
    rcases List.exists_cons_of_ne_nil hne with ⟨c, rest, rfl⟩
    have hfirst : p c = false := hends.first c rfl
    rw [List.cons_append, List.dropWhile_cons, hfirst, if_neg Bool.false_ne_true]
  have hreversed : (cs.reverse).dropWhile p = cs.reverse := by
    have hne' : cs.reverse ≠ [] := fun h => hne (List.reverse_eq_nil_iff.mp h)
    rcases List.exists_cons_of_ne_nil hne' with ⟨c, rest, hc⟩
    have hlast : p c = false := hends.last c (by rw [← List.head?_reverse, hc]; rfl)
    rw [hc, List.dropWhile_cons, hlast, if_neg Bool.false_ne_true]
  unfold trim trimEnd
  rw [hstart, List.reverse_append, List.dropWhile_append_of_pos, hreversed, List.reverse_reverse]
  exact fun c hc => hafter c (List.mem_reverse.mp hc)

/-- What trimming takes away is in the set. -/
theorem exists_trim (p : Char → Bool) (cs : List Char) :
    ∃ before after, cs = before ++ (trim p cs ++ after) ∧ (∀ c ∈ before, p c) ∧
      ∀ c ∈ after, p c := by
  refine ⟨cs.takeWhile p, ((trimStart p cs).reverse.takeWhile p).reverse, ?_, ?_, ?_⟩
  · have hrest : trim p cs ++ ((trimStart p cs).reverse.takeWhile p).reverse = trimStart p cs := by
      unfold trim trimEnd
      rw [← List.reverse_append, List.takeWhile_append_dropWhile, List.reverse_reverse]
    rw [hrest]
    exact (List.takeWhile_append_dropWhile).symm
  · exact fun c hc => List.mem_takeWhile_imp hc
  · exact fun c hc => List.mem_takeWhile_imp (List.mem_reverse.mp hc)

/-- No digit is a blank. -/
theorem isBlank_of_digit {c : Char} {d : Nat} (h : digitValue? c = some d) : isBlank c = false := by
  rcases Option.map_eq_some_iff.mp h with ⟨z, hfound, _⟩
  have hrange := List.find?_some hfound
  simp only [Bool.and_eq_true, decide_eq_true_eq] at hrange
  have htable : ∀ z ∈ zeros, ∀ k < 10, isBlank (Char.ofNat (z + k)) = false := by decide +kernel
  have hc := htable z (List.mem_of_find?_eq_some hfound) (c.toNat - z) (by omega)
  rwa [Nat.add_sub_cancel' hrange.1, Char.ofNat_toNat] at hc

theorem isSpace_of_digit {c : Char} {d : Nat} (h : digitValue? c = some d) : isSpace c = false := by
  rw [isSpace, isBlank_of_digit h, Bool.false_and]

end Text

namespace Numeral

/-- Digits of any script, with one underscore at most between two of them, and their values. -/
inductive DigitRun : List Char → List Nat → Prop
  | last {c : Char} {d : Nat} (hc : Text.digitValue? c = some d) : DigitRun [c] [d]
  | next {c : Char} {d : Nat} {cs : List Char} {ds : List Nat} (hc : Text.digitValue? c = some d)
      (h : DigitRun cs ds) : DigitRun (c :: cs) (d :: ds)
  | separated {c : Char} {d : Nat} {cs : List Char} {ds : List Nat}
      (hc : Text.digitValue? c = some d) (h : DigitRun cs ds) :
      DigitRun (c :: '_' :: cs) (d :: ds)

/-- What stands in front of a number, and what it makes of it. -/
inductive SignedBy : List Char → Nat → Int → Prop
  | bare (n : Nat) : SignedBy [] n n
  | plus (n : Nat) : SignedBy ['+'] n n
  | minus (n : Nat) : SignedBy ['-'] n (-n)

/-- A text spells a whole number: in decimal digits, with a sign or without, and with nothing
    but blanks around it. -/
def IntegerText (s : String) (i : Int) : Prop :=
  ∃ before sign digits after ds, s.toList = before ++ (sign ++ digits ++ after) ∧
    (∀ c ∈ before, Text.isSpace c) ∧ (∀ c ∈ after, Text.isSpace c) ∧ DigitRun digits ds ∧
    ds.length ≤ digitLimit ∧ SignedBy sign (Nat.ofDigits 10 ds.reverse) i

namespace DigitRun

variable {cs : List Char} {ds : List Nat}

/-- A run begins with a digit. -/
theorem first (h : DigitRun cs ds) :
    ∃ c d rest, cs = c :: rest ∧ Text.digitValue? c = some d := by
  cases h with
  | last hc => exact ⟨_, _, _, rfl, hc⟩
  | next hc => exact ⟨_, _, _, rfl, hc⟩
  | separated hc => exact ⟨_, _, _, rfl, hc⟩

/-- It ends with one as well. -/
theorem last? (h : DigitRun cs ds) : ∃ c d, cs.getLast? = some c ∧ Text.digitValue? c = some d := by
  induction h with
  | last hc => exact ⟨_, _, rfl, hc⟩
  | next hc h ih =>
      rcases ih with ⟨c, d, hlast, hd⟩
      exact ⟨c, d, by rw [List.getLast?_cons, hlast]; rfl, hd⟩
  | separated hc h ih =>
      rcases ih with ⟨c, d, hlast, hd⟩
      exact ⟨c, d, by rw [List.getLast?_cons, List.getLast?_cons, hlast]; rfl, hd⟩

/-- Nothing but digits and underscores is in it. -/
theorem mem (h : DigitRun cs ds) : ∀ c ∈ cs, isDigitOrSeparator c := by
  have hdigit {c : Char} {d : Nat} (hc : Text.digitValue? c = some d) : isDigitOrSeparator c := by
    rw [isDigitOrSeparator, hc]
    exact Bool.or_true _
  induction h with
  | last hc => exact List.forall_mem_singleton.mpr (hdigit hc)
  | next hc h ih => exact List.forall_mem_cons.mpr ⟨hdigit hc, ih⟩
  | separated hc h ih =>
      exact List.forall_mem_cons.mpr ⟨hdigit hc, List.forall_mem_cons.mpr ⟨rfl, ih⟩⟩

end DigitRun

/-- The runs of digits that are read. -/
theorem separatedDigits?_iff {cs : List Char} {ds : List Nat} :
    separatedDigits? Text.digitValue? cs = some ds ↔ DigitRun cs ds := by
  constructor
  · intro h
    fun_induction separatedDigits? Text.digitValue? cs generalizing ds with
    | case1 => cases h
    | case2 c =>
        rcases Option.map_eq_some_iff.mp h with ⟨d, hd, rfl⟩
        exact .last hd
    | case3 c rest ih =>
        rcases Option.bind_eq_some_iff.mp h with ⟨d, hd, h⟩
        rcases Option.map_eq_some_iff.mp h with ⟨ds', hds, rfl⟩
        exact .separated hd (ih hds)
    | case4 c rest _ _ ih =>
        rcases Option.bind_eq_some_iff.mp h with ⟨d, hd, h⟩
        rcases Option.map_eq_some_iff.mp h with ⟨ds', hds, rfl⟩
        exact .next hd (ih hds)
  · intro h
    induction h with
    | last hc =>
        rw [separatedDigits?, hc]
        rfl
    | next hc h ih =>
        rcases h.first with ⟨c, d, rest, rfl, hd⟩
        -- What comes after a digit is no underscore, for that is no digit.
        have hne : c ≠ '_' := by
          rintro rfl
          have hnone : Text.digitValue? '_' = none := by decide
          rw [hnone] at hd
          cases hd
        rw [separatedDigits?, hc, ih]
        · rfl
        · exact fun h => nomatch h
        · rintro rest' heq
          exact hne (List.cons.inj heq).1
    | separated hc h ih =>
        rw [separatedDigits?, hc, ih]
        rfl

/-- The value of digits, added up from the first one or from the last one. -/
theorem foldl_digits (ds : List Nat) :
    ds.foldl (fun n d => 10 * n + d) 0 = Nat.ofDigits 10 ds.reverse := by
  rw [Nat.ofDigits_eq_foldr, List.foldr_reverse]
  simp only [Nat.cast_id, Nat.add_comm]

/-- Behind the sign there has to be a run of digits, and nothing else. -/
theorem readInteger_signed {s : String} {negative : Bool} {rest : List Char} {i : Int}
    (hsign : readSign (Text.trim Text.isSpace s.toList) = (negative, rest)) :
    readInteger s = .ok i ↔ ∃ ds, DigitRun rest ds ∧ ds.length ≤ digitLimit ∧
      i = if negative then -((Nat.ofDigits 10 ds.reverse : Nat) : Int)
        else (Nat.ofDigits 10 ds.reverse : Nat) := by
  unfold readInteger
  rw [hsign]
  dsimp only
  constructor
  · intro h
    split at h
    · cases h
    · next ds hds =>
        split at h
        · cases h
        · next hlength =>
            split at h
            · cases h
            · next hrest =>
                have hnil : rest.dropWhile isDigitOrSeparator = [] := by simpa using hrest
                have hall : rest.takeWhile isDigitOrSeparator = rest := by
                  have hsplit := rest.takeWhile_append_dropWhile (p := isDigitOrSeparator)
                  rwa [hnil, List.append_nil] at hsplit
                rw [hall] at hds
                refine ⟨ds, separatedDigits?_iff.mp hds, Nat.le_of_not_lt hlength, ?_⟩
                rw [← foldl_digits]
                exact (Except.ok.inj h).symm
  · rintro ⟨ds, hrun, hlength, rfl⟩
    have hall : rest.takeWhile isDigitOrSeparator = rest :=
      List.takeWhile_eq_self_iff.mpr hrun.mem
    have hnil : rest.dropWhile isDigitOrSeparator = [] :=
      List.dropWhile_eq_nil_iff.mpr hrun.mem
    rw [hall, hnil, separatedDigits?_iff.mpr hrun]
    dsimp only
    rw [if_neg (Nat.not_lt.mpr hlength), if_neg (by decide), foldl_digits]

/-- A sign is looked for in front of the digits. -/
theorem readSign_spec (cs : List Char) :
    (∃ rest, cs = '-' :: rest ∧ readSign cs = (true, rest)) ∨
    (∃ rest, cs = '+' :: rest ∧ readSign cs = (false, rest)) ∨ readSign cs = (false, cs) := by
  unfold readSign
  split
  · exact Or.inl ⟨_, rfl, rfl⟩
  · exact Or.inr (Or.inl ⟨_, rfl, rfl⟩)
  · exact Or.inr (Or.inr rfl)

/-- A digit is no sign. -/
theorem DigitRun.readSign_eq {cs : List Char} {ds : List Nat} (h : DigitRun cs ds) :
    readSign cs = (false, cs) := by
  rcases h.first with ⟨c, d, rest, rfl, hd⟩
  have hminus : Text.digitValue? '-' = none := by decide
  have hplus : Text.digitValue? '+' = none := by decide
  unfold readSign
  split
  · next heq =>
      rw [(List.cons.inj heq).1, hminus] at hd
      cases hd
  · next heq =>
      rw [(List.cons.inj heq).1, hplus] at hd
      cases hd
  · rfl

/-- Neither end of a number is a blank. -/
theorem SignedBy.endsOutside {sign digits : List Char} {ds : List Nat} {n : Nat} {i : Int}
    (hsign : SignedBy sign n i) (hrun : DigitRun digits ds) :
    Text.EndsOutside Text.isSpace (sign ++ digits) := by
  rcases hrun.first with ⟨c, d, rest, hdigits, hd⟩
  rcases hrun.last? with ⟨c', d', hlast, hd'⟩
  constructor
  · intro first hfirst
    cases hsign with
    | bare =>
        rw [hdigits] at hfirst
        cases hfirst
        exact Text.isSpace_of_digit hd
    | plus =>
        cases hfirst
        decide
    | minus =>
        cases hfirst
        decide
  · intro last hmem
    rw [List.getLast?_append, hlast] at hmem
    cases hmem
    exact Text.isSpace_of_digit hd'

/-- A text is read as a whole number if it spells that number, and not otherwise. -/
theorem readInteger_eq_ok_iff {s : String} {i : Int} :
    readInteger s = .ok i ↔ IntegerText s i := by
  constructor
  · intro h
    rcases Text.exists_trim Text.isSpace s.toList with ⟨before, after, hsplit, hbefore, hafter⟩
    generalize hcore : Text.trim Text.isSpace s.toList = core at hsplit
    rcases readSign_spec core with ⟨rest, rfl, hsign⟩ | ⟨rest, rfl, hsign⟩ | hsign
    · rw [← hcore] at hsign
      rcases (readInteger_signed hsign).mp h with ⟨ds, hrun, hlength, rfl⟩
      exact ⟨before, ['-'], rest, after, ds, hsplit, hbefore, hafter, hrun, hlength, .minus _⟩
    · rw [← hcore] at hsign
      rcases (readInteger_signed hsign).mp h with ⟨ds, hrun, hlength, rfl⟩
      exact ⟨before, ['+'], rest, after, ds, hsplit, hbefore, hafter, hrun, hlength, .plus _⟩
    · rw [← hcore] at hsign
      rcases (readInteger_signed hsign).mp h with ⟨ds, hrun, hlength, rfl⟩
      rw [hcore] at hrun
      exact ⟨before, [], core, after, ds, hsplit, hbefore, hafter, hrun, hlength, .bare _⟩
  · rintro ⟨before, sign, digits, after, ds, hsplit, hbefore, hafter, hrun, hlength, hsigned⟩
    have hne : sign ++ digits ≠ [] := by
      rcases hrun.first with ⟨c, d, rest, rfl, _⟩
      exact List.append_ne_nil_of_right_ne_nil _ (List.cons_ne_nil c rest)
    have hcore : Text.trim Text.isSpace s.toList = sign ++ digits := by
      rw [hsplit]
      exact Text.trim_append hbefore hafter hne (hsigned.endsOutside hrun)
    cases hsigned with
    | bare =>
        have hsign : readSign (Text.trim Text.isSpace s.toList) = (false, digits) := by
          rw [hcore]
          exact hrun.readSign_eq
        exact (readInteger_signed hsign).mpr ⟨ds, hrun, hlength, rfl⟩
    | plus =>
        have hsign : readSign (Text.trim Text.isSpace s.toList) = (false, digits) := by
          rw [hcore]
          rfl
        exact (readInteger_signed hsign).mpr ⟨ds, hrun, hlength, rfl⟩
    | minus =>
        have hsign : readSign (Text.trim Text.isSpace s.toList) = (true, digits) := by
          rw [hcore]
          rfl
        exact (readInteger_signed hsign).mpr ⟨ds, hrun, hlength, rfl⟩

/-- Blanks and a sign are around the digits, and the digits are those of any script. -/
example : (readInteger " +1_٢3\n").toOption = some 123 := by decide

end Numeral

end ServerLaunch
