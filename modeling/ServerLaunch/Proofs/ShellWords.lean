import ServerLaunch.Text.ControlSequence
import ServerLaunch.Text.ShellWord

/-!
# Words Survive a Shell

That a line of quoted words is read as the words.

A reader of a line holds the word it is in. A quoted word takes it from where no word is begun
to where that word is, wherever the line goes on, so a line is read word by word.

The converse needs a look at what a line cannot say. A reader makes no characters of its own, so
a character that is missing from a line is missing from the words. Dropping control sequences
takes the escape away that begins each of them; so a line from which one is dropped is read as
other words.

## Main definitions

* `ControlSequence.Occurs`: There is a control sequence in a text.

## Theorems

* `readFrom_quoteWord`: A quoted word is read as the word.
* `splitWords?_joinChars`: A line of quoted words is read as the words.
* `count_splitWords?_le`: The words of a line have no more of a character than the line.
* `ControlSequence.count_dropSequences_lt`: With each control sequence goes an escape.
* `splitWords?_dropSequences_iff`: A line is read as its words if nothing is dropped from it.
-/

namespace ServerLaunch

namespace ShellWord

/-! ## Reading what was quoted -/

/-- A character that needs no quotes is neither a separator nor a quote nor a backslash. -/
theorem special_of_isSafe {c : Char} (h : isSafe c = true) :
    Rules.posix.isSeparator c = false ∧ c ≠ '\'' ∧ c ≠ '"' ∧ c ≠ '\\' := by
  have hne : ∀ d, isSafe d = false → c ≠ d := by
    rintro d hd rfl
    rw [h] at hd
    exact absurd hd (by decide)
  refine ⟨?_, hne _ (by decide), hne _ (by decide), hne _ (by decide)⟩
  simp only [Rules.posix, Bool.or_eq_false_iff, beq_eq_false_iff_ne]
  exact ⟨⟨hne _ (by decide), hne _ (by decide)⟩, hne _ (by decide)⟩

/-- A character that needs no quotes is added to the word, or begins one. -/
theorem readFrom_safe {c : Char} (h : isSafe c = true) (current : Option (List Char))
    (rest : List Char) :
    readFrom .posix .plain current (c :: rest) =
      readFrom .posix .plain (addChar current c) rest := by
  rcases special_of_isSafe h with ⟨hsep, hsingle, hdouble, hslash⟩
  rw [readFrom]
  simp only [hsep, beq_eq_false_iff_ne.mpr hsingle, beq_eq_false_iff_ne.mpr hdouble,
    beq_eq_false_iff_ne.mpr hslash, Bool.false_eq_true, if_false]

theorem readFrom_safeChars {word : List Char} (h : ∀ c ∈ word, isSafe c = true)
    (current rest : List Char) :
    readFrom .posix .plain (some current) (word ++ rest) =
      readFrom .posix .plain (some (word.reverse ++ current)) rest := by
  induction word generalizing current with
  | nil => rfl
  | cons c word ih =>
      rw [List.cons_append, readFrom_safe (h c List.mem_cons_self), addChar, Option.getD_some,
        ih fun d hd => h d (List.mem_cons_of_mem _ hd), List.reverse_cons, List.append_assoc]
      rfl

/-- Between single quotes a character is added to the word, a single quote by way of double
    ones. -/
theorem readFrom_quoteChar (c : Char) (current rest : List Char) :
    readFrom .posix .single (some current) (quoteChar c ++ rest) =
      readFrom .posix .single (some (c :: current)) rest := by
  unfold quoteChar
  split
  · next h =>
      rw [beq_iff_eq.mp h]
      rfl
  · next h =>
      rw [List.singleton_append, readFrom]
      simp only [h, Bool.false_eq_true, if_false, addChar, Option.getD_some]

theorem readFrom_quoteChars (word current rest : List Char) :
    readFrom .posix .single (some current) (word.flatMap quoteChar ++ rest) =
      readFrom .posix .single (some (word.reverse ++ current)) rest := by
  induction word generalizing current with
  | nil => rfl
  | cons c word ih =>
      rw [List.flatMap_cons, List.append_assoc, readFrom_quoteChar, ih, List.reverse_cons,
        List.append_assoc]
      rfl

/-- A quoted word is read as the word, from where no word is begun. -/
theorem readFrom_quoteWord (word rest : List Char) :
    readFrom .posix .plain none (quoteWord word ++ rest) =
      readFrom .posix .plain (some word.reverse) rest := by
  unfold quoteWord
  rcases word with _ | ⟨c, word⟩
  · rfl
  rw [List.isEmpty_cons, if_neg Bool.false_ne_true]
  split
  · next hsafe =>
      have hall := List.all_eq_true.mp hsafe
      rw [List.cons_append, readFrom_safe (hall c List.mem_cons_self), addChar, Option.getD_none,
        readFrom_safeChars fun d hd => hall d (List.mem_cons_of_mem _ hd), List.reverse_cons]
  · -- The opening quote begins an empty word and the closing one leaves it as it is.
    have hquoted := readFrom_quoteChars (c :: word) [] ('\'' :: rest)
    rw [List.append_nil] at hquoted
    rw [List.cons_append, List.append_assoc]
    exact hquoted

/-- Behind a word, a blank ends it. -/
theorem readFrom_separator {c : Char} (h : Rules.posix.isSeparator c = true)
    (word rest : List Char) :
    readFrom .posix .plain (some word.reverse) (c :: rest) =
      { readFrom .posix .plain none rest with
        words := word :: (readFrom .posix .plain none rest).words } := by
  rw [readFrom]
  simp only [h, if_true, Reading.after, endWord, List.reverse_reverse]

/-- A line of quoted words is read as the words. -/
theorem splitWords?_joinChars (words : List (List Char)) :
    splitWords? (joinChars words ++ ['\n']) = some words := by
  have hread : readFrom .posix .plain none (joinChars words ++ ['\n']) = ⟨words, true⟩ := by
    induction words using joinChars.induct with
    | case1 => rfl
    | case2 word =>
        rw [joinChars, readFrom_quoteWord, readFrom_separator rfl]
        rfl
    | case3 word rest hrest ih =>
        rw [joinChars, List.append_assoc, readFrom_quoteWord, List.cons_append,
          readFrom_separator rfl, ih]
        exact hrest
  rw [splitWords?, hread]
  rfl

/-! ## What a line cannot say -/

theorem count_addChar (current : Option (List Char)) (c e : Char) :
    ((addChar current c).getD []).count e = (current.getD []).count e + [c].count e := by
  rw [addChar, Option.getD_some, ← List.singleton_append, List.count_append, Nat.add_comm]

theorem count_endWord (current : Option (List Char)) (words : List (List Char)) (e : Char) :
    (endWord current words).flatten.count e =
      (current.getD []).count e + words.flatten.count e := by
  cases current with
  | none => exact (Nat.zero_add _).symm
  | some word =>
      rw [endWord, List.flatten_cons, List.count_append, List.count_reverse, Option.getD_some]

/-- A reader makes no characters of its own, apart from the backslash that it has passed over
    before it turns out to stand for itself. -/
theorem count_readFrom_le (rules : Rules) {e : Char} (he : e ≠ '\\') (mode : Mode)
    (current : Option (List Char)) (cs : List Char) :
    (readFrom rules mode current cs).words.flatten.count e ≤
      (current.getD []).count e + cs.count e := by
  induction cs generalizing mode current with
  | nil =>
      rw [readFrom, count_endWord]
      exact Nat.le_refl _
  | cons c cs ih =>
      rw [← List.singleton_append, List.count_append]
      -- Where the reader goes on, the word it is in has grown by this character at most.
      have hnext : ∀ mode next,
          (next.getD []).count e ≤ (current.getD []).count e + [c].count e →
          (readFrom rules mode next cs).words.flatten.count e ≤
            (current.getD []).count e + ([c].count e + cs.count e) := by
        intro mode next hword
        have hrest := ih mode next
        omega
      have hsame (mode : Mode) := hnext mode current (Nat.le_add_right _ _)
      have hbegun (mode : Mode) := hnext mode (some (current.getD [])) (Nat.le_add_right _ _)
      have hadded (mode : Mode) :=
        hnext mode (addChar current c) (Nat.le_of_eq (count_addChar _ _ _))
      cases mode with
      | plain =>
          simp only [List.singleton_append, readFrom]
          split
          · have hrest := ih .plain none
            rw [Reading.after, count_endWord]
            rw [Option.getD_none, List.count_nil] at hrest
            omega
          · repeat' split
            all_goals first | exact hbegun _ | exact hadded _
      | single =>
          simp only [List.singleton_append, readFrom]
          split
          · exact hsame _
          · exact hadded _
      | double =>
          simp only [List.singleton_append, readFrom]
          repeat' split
          all_goals first | exact hsame _ | exact hadded _
      | escape =>
          simp only [List.singleton_append, readFrom]
          split
          · exact hsame _
          · exact hadded _
      | doubleEscape =>
          simp only [List.singleton_append, readFrom]
          repeat' split
          · exact hsame _
          · exact hadded _
          · refine hnext _ _ ?_
            have hslash : ['\\'].count e = 0 :=
              List.count_eq_zero_of_not_mem fun h => he (List.mem_singleton.mp h)
            rw [count_addChar, count_addChar, hslash]
            exact Nat.le_refl _

/-- The words of a line have no more of a character than the line. -/
theorem count_splitWords?_le {line : List Char} {words : List (List Char)} {e : Char}
    (he : e ≠ '\\') (h : splitWords? line = some words) :
    words.flatten.count e ≤ line.count e := by
  have hcount := count_readFrom_le .posix he .plain none line
  unfold splitWords? at h
  simp only at h
  split at h
  · rw [← Option.some.inj h]
    rwa [Option.getD_none, List.count_nil, Nat.zero_add] at hcount
  · cases h

section Quotes

variable {e : Char} (hsingle : e ≠ '\'') (hdouble : e ≠ '"')
include hsingle hdouble

theorem count_quoteChar (c : Char) : (quoteChar c).count e = [c].count e := by
  unfold quoteChar
  split
  · next h =>
      rw [beq_iff_eq.mp h]
      simp only [List.count_cons_of_ne hsingle.symm, List.count_cons_of_ne hdouble.symm]
  · rfl

/-- Quoting adds nothing but quotes. -/
theorem count_quoteWord (word : List Char) : (quoteWord word).count e = word.count e := by
  have hquoted : (word.flatMap quoteChar).count e = word.count e := by
    induction word with
    | nil => rfl
    | cons c word ih =>
        rw [List.flatMap_cons, List.count_append, count_quoteChar hsingle hdouble, ih,
          ← List.count_append, List.singleton_append]
  unfold quoteWord
  split
  · next hempty =>
      rw [List.isEmpty_iff.mp hempty, List.count_cons_of_ne hsingle.symm,
        List.count_cons_of_ne hsingle.symm]
  · split
    · rfl
    · rw [List.count_cons_of_ne hsingle.symm, List.count_append, hquoted,
        List.count_cons_of_ne hsingle.symm, List.count_nil, Nat.add_zero]

/-- A line has the characters of its words, and nothing else but quotes and blanks. -/
theorem count_joinChars (words : List (List Char)) (hblank : e ≠ ' ') :
    (joinChars words).count e = words.flatten.count e := by
  induction words using joinChars.induct with
  | case1 => rfl
  | case2 word =>
      rw [joinChars, count_quoteWord hsingle hdouble, List.flatten_singleton]
  | case3 word rest hrest ih =>
      rw [joinChars, List.count_append, List.count_cons_of_ne hblank.symm, ih,
        count_quoteWord hsingle hdouble, List.flatten_cons, List.count_append]
      exact hrest

end Quotes

end ShellWord

namespace ControlSequence

/-- Nothing is added to a text by dropping characters from it. -/
theorem dropSequences_sublist (skipped : Nat) (cs : List Char) :
    List.Sublist (dropSequences skipped cs) cs := by
  induction cs generalizing skipped with
  | nil => exact .slnil
  | cons c cs ih =>
      rcases skipped with _ | skipped
      · rw [dropSequences]
        split
        · exact (ih 0).cons_cons c
        · exact (ih _).cons c
      · exact (ih skipped).cons c

/-- There is a control sequence in a text. -/
def Occurs (cs : List Char) : Prop :=
  ∃ behind, behind <:+ cs ∧ sequenceLength behind ≠ 0

/-- A text without control sequences stays as it is. -/
theorem dropSequences_of_not_occurs {cs : List Char} (h : ¬ Occurs cs) :
    dropSequences 0 cs = cs := by
  induction cs with
  | nil => rfl
  | cons c cs ih =>
      have hlength : sequenceLength (c :: cs) = 0 :=
        Decidable.byContradiction fun hne => h ⟨_, List.suffix_rfl, hne⟩
      have hrest : ¬ Occurs cs := by
        rintro ⟨behind, hsuffix, hne⟩
        exact h ⟨behind, hsuffix.trans (List.suffix_cons c cs), hne⟩
      rw [dropSequences, hlength]
      exact congrArg (c :: ·) (ih hrest)

/-- A control sequence begins with an escape. -/
theorem not_occurs_of_noEscape {cs : List Char} (h : escape ∉ cs) : ¬ Occurs cs := by
  rintro ⟨behind, hsuffix, hlength⟩
  rcases behind with _ | ⟨c, behind⟩
  · exact hlength rfl
  · refine hlength (sequenceLength_of_ne ?_ behind)
    rintro rfl
    exact h (hsuffix.subset List.mem_cons_self)

/-- With each control sequence goes an escape. -/
theorem count_dropSequences_lt {cs : List Char} (h : Occurs cs) :
    (dropSequences 0 cs).count escape < cs.count escape := by
  induction cs with
  | nil =>
      rcases h with ⟨behind, hsuffix, hlength⟩
      rw [List.suffix_nil.mp hsuffix] at hlength
      exact absurd rfl hlength
  | cons c cs ih =>
      rw [dropSequences]
      split
      · next hzero =>
          rcases h with ⟨behind, hsuffix, hlength⟩
          rcases List.suffix_cons_iff.mp hsuffix with rfl | hsuffix
          · exact absurd hzero hlength
          · rw [List.count_cons, List.count_cons]
            exact Nat.add_lt_add_right (ih ⟨behind, hsuffix, hlength⟩) _
      · next length hlength =>
          have hescape : c = escape := by
            refine Decidable.byContradiction fun hne => ?_
            rw [sequenceLength_of_ne hne] at hlength
            cases hlength
          rw [hescape, List.count_cons_self]
          exact Nat.lt_succ_of_le ((dropSequences_sublist _ _).count_le _)

end ControlSequence

namespace ShellWord

open ControlSequence

/-- A line of quoted words that control sequences are dropped from is still read as the words if
    there is none in it, and only then. -/
theorem splitWords?_dropSequences_iff (words : List (List Char)) :
    splitWords? (dropSequences 0 (joinChars words ++ ['\n'])) = some words ↔
      ¬ Occurs (joinChars words ++ ['\n']) := by
  refine ⟨fun hread hoccurs => ?_, fun hnone => ?_⟩
  · -- The words have all escapes of the line, but what is left of it has fewer.
    have hfewer := count_dropSequences_lt hoccurs
    have hwords := count_splitWords?_le (e := escape) (by decide) hread
    rw [List.count_append, count_joinChars (by decide) (by decide) words (by decide)] at hfewer
    have hend : ['\n'].count escape = 0 := rfl
    omega
  · rw [dropSequences_of_not_occurs hnone, splitWords?_joinChars]

/-- Words without escapes make a line without control sequences. -/
theorem not_occurs_joinChars {words : List (List Char)} (h : ∀ word ∈ words, escape ∉ word) :
    ¬ Occurs (joinChars words ++ ['\n']) := by
  have hcount : (joinChars words ++ ['\n']).count escape = 0 := by
    rw [List.count_append, count_joinChars (by decide) (by decide) words (by decide),
      List.count_eq_zero_of_not_mem (a := escape)]
    · rfl
    · intro hmem
      rcases List.mem_flatten.mp hmem with ⟨word, hword, hin⟩
      exact h word hword hin
  exact not_occurs_of_noEscape (List.count_eq_zero.mp hcount)

end ShellWord

end ServerLaunch
