import ServerLaunch.Text.LetterCase

/-!
# Lower Case Once More

When a text that is put in lower case a second time becomes an ASCII word.

Names of variables are put in lower case as wholes, and the parts into which they are cut are
compared with the names of fields in lower case once more. The second time makes no difference
to the comparison. What becomes an ASCII character in lower case is that character itself or
one of its capitals, and the sign for Kelvin is one of those; but there is no such capital
in a text that is in lower case. Both are read off the table of letters, segment by segment.

## Main definitions

* `Text.isAsciiCapital`: The characters, other than itself, of which an ASCII one is the lower
  case.
* `Text.isLowerAscii`: Texts of ASCII characters without capitals.

## Theorems

* `Text.not_isAsciiCapital_of_mem_lower`: There are none in lower case.
* `Text.lower_of_isLowerAscii`: Such a text is its own lower case.
* `Text.eq_of_lower_eq`: Without them, only an ASCII word itself becomes it.
-/

namespace ServerLaunch

namespace Text

/-- Whether a character is a capital of an ASCII letter. -/
def isAsciiCapital (c : Char) : Bool :=
  (0x41 ≤ c.toNat && c.toNat ≤ 0x5A) || c.toNat == 0x212A

theorem toNat_charOfNat (n : Nat) : (Char.ofNat n).toNat = if n.isValidChar then n else 0 := by
  by_cases h : n.isValidChar
  · rw [Char.ofNat, dif_pos h, if_pos h]
    rfl
  · rw [Char.ofNat, dif_neg h, if_neg h]
    rfl

/-- The lower case of a character is the character, or it comes from a segment. -/
theorem lowerChar_cases (c : Char) :
    (lowerChar c = c ∧ isAsciiCapital c = false) ∨
      ∃ first last step distance, (first, last, step, distance) ∈ lowerSegments ∧
        first ≤ c.toNat ∧ c.toNat ≤ last ∧
        lowerChar c = Char.ofNat (Int.toNat (c.toNat + distance)) := by
  unfold lowerChar
  dsimp only
  split
  · next first last step distance hfind =>
      have hin := List.find?_some hfind
      simp only [Bool.and_eq_true, decide_eq_true_eq] at hin
      exact Or.inr ⟨first, last, step, distance, List.mem_of_find?_eq_some hfind, hin.1.1,
        hin.1.2, rfl⟩
  · next hfind =>
      refine Or.inl ⟨rfl, ?_⟩
      -- A capital of an ASCII letter is in one of two segments.
      have hnone := List.find?_eq_none.mp hfind
      have hlatin := hnone (0x41, 0x5A, 1, 32) (by decide)
      have hkelvin := hnone (0x212A, 0x212A, 1, -8383) (by decide)
      simp only [Bool.and_eq_true, decide_eq_true_eq, beq_iff_eq, Nat.mod_one, and_true,
        not_and, Nat.not_le] at hlatin hkelvin
      simp only [isAsciiCapital, Bool.or_eq_false_iff, Bool.and_eq_false_iff,
        decide_eq_false_iff_not, beq_eq_false_iff_ne]
      omega

/-- No letter of a segment becomes a capital of an ASCII letter; those that become ASCII are
    such capitals, and the others become something. -/
theorem segments_apart : ∀ segment ∈ lowerSegments,
    (segment.2.1 + segment.2.2.2 < 0x41 ∨ 0x5A < segment.1 + segment.2.2.2) ∧
    (segment.2.1 + segment.2.2.2 < 0x212A ∨ 0x212A < segment.1 + segment.2.2.2) ∧
    ((128 ≤ segment.1 + segment.2.2.2 ∧ (segment.2.1 + segment.2.2.2 < 0xD800 ∨
        0xDFFF < segment.1 + segment.2.2.2 ∧ segment.2.1 + segment.2.2.2 < 0x110000)) ∨
      (segment.1, segment.2.1) = (0x41, 0x5A) ∨ (segment.1, segment.2.1) = (0x212A, 0x212A)) := by
  decide +kernel

theorem not_isAsciiCapital_lowerChar (c : Char) : isAsciiCapital (lowerChar c) = false := by
  rcases lowerChar_cases c with ⟨hsame, hnone⟩ | ⟨first, last, step, distance, hmem, hle, hge, hc⟩
  · rw [hsame, hnone]
  · rcases segments_apart _ hmem with ⟨hlatin, hkelvin, _⟩
    dsimp only at hlatin hkelvin
    simp only [isAsciiCapital, hc, toNat_charOfNat, Bool.or_eq_false_iff, Bool.and_eq_false_iff,
      decide_eq_false_iff_not, beq_eq_false_iff_ne]
    split <;> omega

/-- Only a capital becomes an ASCII character that it is not. -/
theorem eq_of_lowerChar_ascii {c : Char} (hc : isAsciiCapital c = false)
    (hascii : (lowerChar c).toNat < 128) : lowerChar c = c := by
  rcases lowerChar_cases c with ⟨hsame, _⟩ | ⟨first, last, step, distance, hmem, hle, hge, hlower⟩
  · exact hsame
  · exfalso
    simp only [isAsciiCapital, Bool.or_eq_false_iff, Bool.and_eq_false_iff,
      decide_eq_false_iff_not, beq_eq_false_iff_ne] at hc
    rcases segments_apart _ hmem with ⟨_, _, hbeyond | hlatin | hkelvin⟩
    · dsimp only at hbeyond
      have hvalid : (Int.toNat (c.toNat + distance)).isValidChar := by
        unfold Nat.isValidChar
        omega
      rw [hlower, toNat_charOfNat, if_pos hvalid] at hascii
      omega
    · simp only [Prod.mk.injEq] at hlatin
      omega
    · simp only [Prod.mk.injEq] at hkelvin
      omega

/-- There are no capitals of ASCII letters in lower case. -/
theorem not_isAsciiCapital_of_mem_lowerFrom {before cs : List Char} {c : Char}
    (h : c ∈ lowerFrom before cs) : isAsciiCapital c = false := by
  induction cs generalizing before with
  | nil => exact absurd h List.not_mem_nil
  | cons d rest ih =>
      rcases List.mem_append.mp h with hhere | hrest
      · split at hhere
        · rcases List.mem_cons.mp hhere with rfl | hhere
          · rfl
          · rw [List.mem_singleton.mp hhere]
            rfl
        · split at hhere
          · rw [List.mem_singleton.mp hhere]
            split <;> rfl
          · rw [List.mem_singleton.mp hhere]
            exact not_isAsciiCapital_lowerChar d
      · exact ih hrest

theorem not_isAsciiCapital_of_mem_lower {s : String} {c : Char} (h : c ∈ (lower s).toList) :
    isAsciiCapital c = false := by
  rw [lower, String.toList_ofList] at h
  exact not_isAsciiCapital_of_mem_lowerFrom h

/-- What becomes an ASCII word without having capitals of ASCII letters is the word. The two
    letters that do not come from the table become something else. -/
theorem eq_of_lowerFrom_ascii {before cs : List Char}
    (hcs : ∀ c ∈ cs, isAsciiCapital c = false)
    (hascii : ∀ c ∈ lowerFrom before cs, c.toNat < 128) : lowerFrom before cs = cs := by
  induction cs generalizing before with
  | nil => rfl
  | cons d rest ih =>
      rw [lowerFrom] at hascii ⊢
      rcases List.forall_mem_append.mp hascii with ⟨hhere, hrest⟩
      rw [ih (fun c hc => hcs c (List.mem_cons_of_mem d hc)) hrest]
      -- A dotted capital leaves its dot behind, and a sigma stays Greek; neither is ASCII.
      split
      · next hdotted =>
          rw [if_pos hdotted] at hhere
          exact absurd (hhere '\u0307' (by decide)) (by decide)
      · next hdotted =>
          rw [if_neg hdotted] at hhere
          split
          · next hsigma =>
              rw [if_pos hsigma] at hhere
              have hsmall := hhere _ List.mem_cons_self
              split at hsmall <;> exact absurd hsmall (by decide)
          · next hsigma =>
              rw [if_neg hsigma] at hhere
              have hlower := eq_of_lowerChar_ascii (hcs d List.mem_cons_self)
                (hhere _ List.mem_cons_self)
              rw [hlower, List.singleton_append]

/-- Whether a text has ASCII characters only, and no capitals. -/
def isLowerAscii (s : String) : Bool :=
  s.toList.all fun c => c.toNat < 128 && !isAsciiCapital c

theorem of_mem_of_isLowerAscii {s : String} (h : isLowerAscii s) {c : Char} (hc : c ∈ s.toList) :
    c.toNat < 128 ∧ isAsciiCapital c = false := by
  simpa using List.all_eq_true.mp h c hc

/-- Among the ASCII characters only the capitals are in a segment. -/
theorem segments_beyond : ∀ segment ∈ lowerSegments,
    128 ≤ segment.1 ∨ (segment.1, segment.2.1) = (0x41, 0x5A) := by
  decide +kernel

theorem lowerChar_of_ascii {c : Char} (hascii : c.toNat < 128) (hc : isAsciiCapital c = false) :
    lowerChar c = c := by
  rcases lowerChar_cases c with ⟨hsame, _⟩ | ⟨first, last, step, distance, hmem, hle, hge, _⟩
  · exact hsame
  · exfalso
    simp only [isAsciiCapital, Bool.or_eq_false_iff, Bool.and_eq_false_iff,
      decide_eq_false_iff_not] at hc
    rcases segments_beyond _ hmem with hbeyond | hlatin
    · dsimp only at hbeyond
      omega
    · simp only [Prod.mk.injEq] at hlatin
      omega

theorem lowerFrom_of_ascii {before cs : List Char}
    (h : ∀ c ∈ cs, c.toNat < 128 ∧ isAsciiCapital c = false) : lowerFrom before cs = cs := by
  induction cs generalizing before with
  | nil => rfl
  | cons d rest ih =>
      rcases h d List.mem_cons_self with ⟨hascii, hd⟩
      have hdotted : ¬ (d == '\u0130') := by
        rw [beq_iff_eq]
        rintro rfl
        exact absurd hascii (by decide)
      have hsigma : ¬ (d == '\u03a3') := by
        rw [beq_iff_eq]
        rintro rfl
        exact absurd hascii (by decide)
      rw [lowerFrom, if_neg hdotted, if_neg hsigma, lowerChar_of_ascii hascii hd,
        ih fun c hc => h c (List.mem_cons_of_mem d hc)]
      rfl

/-- Such a text is its own lower case. -/
theorem lower_of_isLowerAscii {s : String} (h : isLowerAscii s) : lower s = s := by
  rw [lower, lowerFrom_of_ascii fun c => of_mem_of_isLowerAscii h, String.ofList_toList]

/-- A text without capitals of ASCII letters is an ASCII word that it becomes. -/
theorem eq_of_lower_eq {s word : String} (hs : ∀ c ∈ s.toList, isAsciiCapital c = false)
    (hword : isLowerAscii word) (h : lower s = word) : s = word := by
  have hlower : lowerFrom [] s.toList = word.toList := by
    rw [← h, lower, String.toList_ofList]
  have hascii : ∀ c ∈ lowerFrom [] s.toList, c.toNat < 128 := by
    rw [hlower]
    exact fun c hc => (of_mem_of_isLowerAscii hword hc).1
  have hsame := eq_of_lowerFrom_ascii hs hascii
  rw [hlower] at hsame
  exact String.toList_inj.mp hsame.symm

end Text

end ServerLaunch
