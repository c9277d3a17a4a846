/-!
# Similar Texts

Which of some known words somebody may have meant.

Two texts are alike as far as they share runs of characters. The longest run that both
have is taken first, then the longest to the left of it in both, and to the right of it in
both, and so on. The share of characters in such runs, among all characters of both texts,
is a number from zero to one.

Of several longest runs the first is taken, so the measure is not the same in both
directions.

## Main definitions

* `longestRun`: The longest run of two texts.
* `sharedLength`: How many characters of a text are in shared runs.
* `similarity`: The share of characters that are.
* `closeMatches`: The words that are most like a text.

## Theorems

* `commonStart_le`: A run is no longer than the texts.
-/

namespace ServerLaunch

namespace Similarity

/-- How many characters two texts have in common at their front. -/
def commonStart : List Char → List Char → Nat
  | a :: as, b :: bs => if a == b then commonStart as bs + 1 else 0
  | _, _ => 0

/-- A run that two texts share: where it starts in each, and its length. -/
structure Run where
  left : Nat
  right : Nat
  length : Nat
deriving DecidableEq, Repr, Inhabited

/-- The longer of two runs, and the first of two of one length. -/
def Run.longer (r s : Run) : Run :=
  if r.length < s.length then s else r

/-- The longest run that starts at the front of the first text and, from some place on,
    anywhere in the second. -/
def longestAtFront (left : Nat) (as : List Char) : Nat → List Char → Run → Run
  | _, [], best => best
  | right, b :: bs, best =>
    longestAtFront left as (right + 1) bs (best.longer ⟨left, right, commonStart as (b :: bs)⟩)

/-- The longest run from some place on in the first text. -/
def longestFrom (bs : List Char) : Nat → List Char → Run → Run
  | _, [], best => best
  | left, a :: as, best =>
    longestFrom bs (left + 1) as (longestAtFront left (a :: as) 0 bs best)

/-- The longest run of two texts; of several the one that starts first in the first text,
    and then in the second. -/
def longestRun (as bs : List Char) : Run :=
  longestFrom bs 0 as ⟨0, 0, 0⟩

/-- How many characters are in shared runs. The fuel bounds how often the texts are cut;
    every cut takes at least one character away. -/
def sharedLengthWithin : Nat → List Char → List Char → Nat
  | 0, _, _ => 0
  | fuel + 1, as, bs =>
    let run := longestRun as bs
    if run.length = 0 then 0
    else
      sharedLengthWithin fuel (as.take run.left) (bs.take run.right) + run.length +
        sharedLengthWithin fuel (as.drop (run.left + run.length))
          (bs.drop (run.right + run.length))

/-- How many characters of a text are in runs that it shares with another. -/
def sharedLength (as bs : List Char) : Nat :=
  sharedLengthWithin as.length as bs

/-- The share of characters that are in shared runs. -/
def similarity (as bs : List Char) : Rat :=
  mkRat (2 * sharedLength as bs) (as.length + bs.length)

/-- How alike a word has to be at least. -/
def leastSimilarity : Rat := 3 / 5

/-- How many words are given at most. -/
def mostMatches : Nat := 3

/-- Whether a word comes before another one among those that are alike: it is more alike,
    or just as much and later in the order of texts. -/
def precedes (a b : Rat × String) : Bool :=
  b.1 < a.1 || (a.1 == b.1 && b.2 ≤ a.2)

/-- The words that are most like a text, in the order of texts. -/
def closeMatches (text : String) (words : List String) : List String :=
  let rated := words.map fun word => (similarity word.toList text.toList, word)
  let close := (rated.filter fun r => leastSimilarity ≤ r.1).mergeSort precedes
  ((close.take mostMatches).map Prod.snd).mergeSort

/-- A run is no longer than the texts. -/
theorem commonStart_le (as bs : List Char) :
    commonStart as bs ≤ as.length ∧ commonStart as bs ≤ bs.length := by
  fun_induction commonStart as bs with
  | case1 a as b bs h ih => simpa only [List.length_cons, Nat.add_le_add_iff_right] using ih
  | _ => exact ⟨Nat.zero_le _, Nat.zero_le _⟩

example : sharedLength "strat".toList "start".toList = 4 := by decide +kernel

end Similarity

end ServerLaunch
