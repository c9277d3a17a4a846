/-!
# Control Sequences

Texts without the sequences by which a terminal is controlled.

A control sequence starts with an escape and an opening bracket. Parameters may follow,
then intermediate characters, and a final character ends it; the three kinds are ranges of
ASCII that do not overlap. Where the final character is missing, all characters stand for
themselves, and a sequence may begin right after such a start.

What the program prints does not go to a terminal, so it is printed without them.

## Main definitions

* `sequenceLength`: How many characters the control sequence at the front has.
* `plain`: A text without control sequences.

## Theorems

* `dropSequences_of_noEscape`: A text without escapes stays as it is.
-/

namespace ServerLaunch

namespace ControlSequence

/-- The character that starts a control sequence. -/
def escape : Char := '\x1b'

/-- Whether a character is a parameter. -/
def isParameter (c : Char) : Bool :=
  '0' ≤ c && c ≤ '?'

/-- Whether a character may stand between the parameters and the final character. -/
def isIntermediate (c : Char) : Bool :=
  ' ' ≤ c && c ≤ '/'

/-- Whether a character ends a control sequence. -/
def isFinal (c : Char) : Bool :=
  '@' ≤ c && c ≤ '~'

/-- How many characters the control sequence at the front of a text has; zero if there is
    none. -/
def sequenceLength : List Char → Nat
  | first :: '[' :: rest =>
    let parameters := rest.takeWhile isParameter
    let behind := rest.dropWhile isParameter
    let intermediates := behind.takeWhile isIntermediate
    match behind.dropWhile isIntermediate with
    | last :: _ =>
      if first == escape && isFinal last then parameters.length + intermediates.length + 3 else 0
    | [] => 0
  | _ => 0

/-- A text without control sequences, and without so many characters at its front. -/
def dropSequences (skipped : Nat) : List Char → List Char
  | [] => []
  | c :: rest =>
    match skipped with
    | skipped + 1 => dropSequences skipped rest
    | 0 =>
      match sequenceLength (c :: rest) with
      | 0 => c :: dropSequences 0 rest
      | length + 1 => dropSequences length rest

/-- A text without control sequences. -/
def plain (s : String) : String :=
  String.ofList (dropSequences 0 s.toList)

/-- A control sequence starts with an escape. -/
theorem sequenceLength_of_ne {c : Char} (h : c ≠ escape) (rest : List Char) :
    sequenceLength (c :: rest) = 0 := by
  have hne : (c == escape) = false := by simpa using h
  unfold sequenceLength
  split <;> simp_all
  split <;> simp

/-- A text without escapes stays as it is. -/
theorem dropSequences_of_noEscape (cs : List Char) (h : escape ∉ cs) :
    dropSequences 0 cs = cs := by
  induction cs with
  | nil => rfl
  | cons c rest ih =>
    simp only [List.mem_cons, not_or] at h
    rw [dropSequences, sequenceLength_of_ne (Ne.symm h.1) rest]
    simp only [ih h.2]

example : plain "a\x1b[1;31mb\x1b[ \x1b[K" = "ab\x1b[ " := by decide +kernel

end ControlSequence

end ServerLaunch
