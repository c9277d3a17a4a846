import Mathlib.Algebra.Group.Nat.Defs
import ServerLaunch.Json.Reader
import ServerLaunch.Json.Writer

/-!
# Texts in JSON

That a text between quotes is read as it was written, in the compact form and in ASCII.

Both writers go through a text character by character, and so does the reader, but the reader
knows code units and not characters: what it collects is joined to characters at the end. So a
character may be written as itself, as a backslash and a letter, as one code unit or as two
halves. `Spells` says of a run of characters that it is read as one character, whatever was
read before it and whatever comes behind. Each way of writing a character is shown to spell it
once, and a whole text is read back as soon as every character is spelled.

The reader looks one character past the digits of a code unit, so there has to be one. In a
text that is closed there is, be it the quote.

## Main definitions

* `Json.Spells`: A run of characters that is read as one character.

## Theorems

* `Text.hexValue?_hex`: Hexadecimal digits read back.
* `Json.spells_escapeChar`, `Json.spells_asciiEscapeChar`: What the writers write is read.
* `Json.readText_of_spells`: A text of which every character is spelled reads back.
-/

namespace ServerLaunch

namespace Text

theorem hexValueFrom_append (acc : Nat) (cs ds : List Char) :
    hexValueFrom acc (cs ++ ds) = (hexValueFrom acc cs).bind fun n => hexValueFrom n ds := by
  induction cs generalizing acc with
  | nil => rfl
  | cons c cs ih =>
      simp only [List.cons_append, hexValueFrom]
      cases hexDigitValue? c with
      | none => rfl
      | some d => exact ih _

/-- Digits that are read behind others count as much as their number of places says. -/
theorem hexValueFrom_hex (acc width n : Nat) :
    hexValueFrom acc (hex width n) = some (acc * 16 ^ width + n % 16 ^ width) := by
  induction width generalizing acc n with
  | zero => simp only [hex, hexValueFrom, Nat.pow_zero, Nat.mul_one, Nat.mod_one, Nat.add_zero]
  | succ width ih =>
      have hdigit := hexDigitValue?_hexDigit (n % 16) (Nat.mod_lt n (by decide))
      rw [hex, hexValueFrom_append, ih, Option.bind_some, hexValueFrom, hdigit, Option.bind_some,
        hexValueFrom, Nat.pow_succ', Nat.mod_mul]
      rw [Nat.mul_left_comm]
      congr 1
      omega

/-- A number that has room in the digits reads back. -/
theorem hexValue?_hex {width n : Nat} (h : n < 16 ^ width) : hexValue? (hex width n) = some n := by
  rw [hexValue?, hexValueFrom_hex, Nat.zero_mul, Nat.zero_add, Nat.mod_eq_of_lt h]

end Text

namespace Json

/-! ## Code units -/

/-- The numbers of characters leave out those of halves. -/
theorem toNat_range (c : Char) : c.toNat < 0xD800 ∨ 0xDFFF < c.toNat ∧ c.toNat < 0x110000 :=
  c.valid

/-- No character is one half of another. -/
theorem isHighHalf_toNat (c : Char) : isHighHalf c.toNat = false := by
  have hrange := toNat_range c
  simp only [isHighHalf, Bool.and_eq_false_iff, decide_eq_false_iff_not]
  omega

theorem isLowHalf_toNat (c : Char) : isLowHalf c.toNat = false := by
  have hrange := toNat_range c
  simp only [isLowHalf, Bool.and_eq_false_iff, decide_eq_false_iff_not]
  omega

/-- The number of a character is joined to nothing and stands for the character. -/
theorem joinUnits_toNat (c : Char) (ms : List Nat) :
    joinUnits (c.toNat :: ms) = c :: joinUnits ms := by
  have hchar : unitChar c.toNat = c := by
    rw [unitChar, isHighHalf_toNat, isLowHalf_toNat]
    exact Char.ofNat_toNat c
  cases ms with
  | nil => simp only [joinUnits, hchar]
  | cons m ms =>
      simp only [joinUnits, isHighHalf_toNat, Bool.false_and, Bool.false_eq_true, if_false, hchar]

/-- Two halves are joined to the character that they are the halves of. -/
theorem joinUnits_halves {c : Char} (h : 0x10000 ≤ c.toNat) (ms : List Nat) :
    joinUnits ((0xD800 + (c.toNat - 0x10000) / 0x400) ::
      (0xDC00 + (c.toNat - 0x10000) % 0x400) :: ms) = c :: joinUnits ms := by
  have hrange := toNat_range c
  have hhigh : isHighHalf (0xD800 + (c.toNat - 0x10000) / 0x400) = true := by
    simp only [isHighHalf, Bool.and_eq_true, decide_eq_true_eq]
    omega
  have hlow : isLowHalf (0xDC00 + (c.toNat - 0x10000) % 0x400) = true := by
    simp only [isLowHalf, Bool.and_eq_true, decide_eq_true_eq]
    omega
  have hsum : 0x10000 + (0xD800 + (c.toNat - 0x10000) / 0x400 - 0xD800) * 0x400 +
      (0xDC00 + (c.toNat - 0x10000) % 0x400 - 0xDC00) = c.toNat := by omega
  simp only [joinUnits, hhigh, hlow, Bool.and_self, if_true, hsum, Char.ofNat_toNat]

/-! ## Characters -/

variable {opening : Nat}

/-- A character that needs no backslash is read as itself. -/
theorem readUnits_literal {c : Char} (hquote : c ≠ '"') (hslash : c ≠ '\\') (hsize : 32 ≤ c.toNat)
    (rest : List Char) :
    readUnits opening (c :: rest)
      = (readUnits opening rest).map fun p => (c.toNat :: p.1, p.2) := by
  rw [readUnits]
  · rw [if_neg (by omega)]
  all_goals simp_all

/-- A letter behind a backslash is read as the character that it is short for. -/
theorem readUnits_escape {e : Char} {n : Nat} (h : simpleEscape? e = some n) (rest : List Char) :
    readUnits opening ('\\' :: e :: rest)
      = (readUnits opening rest).map fun p => (n :: p.1, p.2) := by
  have hu : e ≠ 'u' := by
    rintro rfl
    cases h
  rw [readUnits]
  · rw [h]
  all_goals simp_all

/-- Four digits are read as a code unit, if something follows them. -/
theorem readUnits_unit {n : Nat} (h : n < 0x10000) {rest : List Char} (hrest : rest ≠ []) :
    readUnits opening (unitEscape n ++ rest)
      = (readUnits opening rest).map fun p => (n :: p.1, p.2) := by
  rcases rest with _ | ⟨e, rest⟩
  · exact absurd rfl hrest
  · have hvalue := @Text.hexValue?_hex 4 n h
    simp only [Text.hex, List.nil_append, List.cons_append] at hvalue
    simp only [unitEscape, Text.hex, List.nil_append, List.cons_append]
    rw [readUnits, unit?, hvalue]

/-- Characters that are read as one character of a text, if something follows them. -/
def Spells (cs : List Char) (c : Char) : Prop :=
  ∃ ns, (∀ opening rest, rest ≠ [] →
      readUnits opening (cs ++ rest) = (readUnits opening rest).map fun p => (ns ++ p.1, p.2)) ∧
    ∀ ms, joinUnits (ns ++ ms) = c :: joinUnits ms

theorem spells_literal {c : Char} (hquote : c ≠ '"') (hslash : c ≠ '\\') (hsize : 32 ≤ c.toNat) :
    Spells [c] c :=
  ⟨[c.toNat], fun _ rest _ => readUnits_literal hquote hslash hsize rest, joinUnits_toNat c⟩

theorem spells_escape {c e : Char} (h : simpleEscape? e = some c.toNat) : Spells ['\\', e] c :=
  ⟨[c.toNat], fun _ rest _ => readUnits_escape h rest, joinUnits_toNat c⟩

/-- One code unit spells the character that has its number. -/
theorem spells_unit {c : Char} (h : c.toNat < 0x10000) : Spells (unitEscape c.toNat) c :=
  ⟨[c.toNat], fun _ _ hrest => readUnits_unit h hrest, joinUnits_toNat c⟩

/-- A character is spelled by its code units, of which there are one or two. -/
theorem spells_codeUnits (c : Char) : Spells (codeUnits c) c := by
  unfold codeUnits
  by_cases h : c.toNat < 0x10000
  · rw [if_pos h]
    exact spells_unit h
  · rw [if_neg h]
    have hrange := toNat_range c
    refine ⟨[0xD800 + (c.toNat - 0x10000) / 0x400, 0xDC00 + (c.toNat - 0x10000) % 0x400],
      fun opening rest hrest => ?_, joinUnits_halves (by omega)⟩
    rw [List.append_assoc, readUnits_unit (by omega) (by
        intro hnil
        exact hrest (List.append_eq_nil_iff.mp hnil).2), readUnits_unit (by omega) hrest]
    cases readUnits opening rest with
    | error e => rfl
    | ok p => rfl

/-- A control character is spelled by a letter that is short for it, or else by its number. -/
theorem spells_controlEscape {c : Char} (h : c.toNat < 32) : Spells (controlEscape c) c := by
  unfold controlEscape
  split
  · exact spells_escape rfl
  · exact spells_escape rfl
  · exact spells_escape rfl
  · exact spells_escape rfl
  · exact spells_escape rfl
  · exact spells_unit (by omega)

/-- A quote or a backslash is spelled by itself behind a backslash. -/
theorem spells_quoted {c : Char} (h : (c == '"' || c == '\\') = true) : Spells ['\\', c] c := by
  rcases Bool.or_eq_true_iff.mp h with h | h
  · rw [beq_iff_eq.mp h]
    exact spells_escape rfl
  · rw [beq_iff_eq.mp h]
    exact spells_escape rfl

theorem spells_escapeChar (c : Char) : Spells (escapeChar c) c := by
  unfold escapeChar
  split
  · next h => exact spells_quoted h
  · next hplain =>
      simp only [Bool.or_eq_true, beq_iff_eq, not_or] at hplain
      split
      · next h => exact spells_controlEscape h
      · exact spells_literal hplain.1 hplain.2 (by omega)

theorem spells_asciiEscapeChar (c : Char) : Spells (asciiEscapeChar c) c := by
  unfold asciiEscapeChar
  split
  · next h => exact spells_quoted h
  · next hplain =>
      simp only [Bool.or_eq_true, beq_iff_eq, not_or] at hplain
      split
      · next h => exact spells_controlEscape h
      · split
        · exact spells_literal hplain.1 hplain.2 (by omega)
        · exact spells_codeUnits c

/-! ## Whole texts -/

/-- A text of which every character is spelled is read up to its closing quote. -/
theorem readText_of_spells {escape : Char → List Char} (hescape : ∀ c, Spells (escape c) c)
    (cs rest : List Char) : readText (cs.flatMap escape ++ '"' :: rest) = .ok (cs, rest) := by
  have hunits : ∀ opening, ∃ ns,
      readUnits opening (cs.flatMap escape ++ '"' :: rest) = .ok (ns, rest) ∧
        joinUnits ns = cs := by
    intro opening
    induction cs with
    | nil => exact ⟨[], by rw [List.flatMap_nil, List.nil_append, readUnits], rfl⟩
    | cons c cs ih =>
        rcases ih with ⟨ns, hread, hjoin⟩
        rcases hescape c with ⟨ms, hspell, hfront⟩
        refine ⟨ms ++ ns, ?_, by rw [hfront, hjoin]⟩
        rw [List.flatMap_cons, List.append_assoc,
          hspell opening _ (List.append_ne_nil_of_right_ne_nil _ (List.cons_ne_nil _ _)), hread]
        rfl
  rcases hunits ((cs.flatMap escape ++ '"' :: rest).length + 1) with ⟨ns, hread, hjoin⟩
  simp only [readText, hread, Except.map, hjoin]

end Json

end ServerLaunch
