import Mathlib.Data.List.Basic
import Mathlib.Order.Lattice
import ServerLaunch.Text.Hex

/-!
# Outside the Quotes

Which characters of a text stand outside quoted texts, and how deep the brackets among them nest.

Brackets and letters mean something in JSON unless they stand in a quoted text, and whether they do
is decided by all the quotes and backslashes before. One pass through a text tells, with three
states: outside, inside, and behind a backslash inside. It needs no grammar, so it can be made for
any text, well formed or not.

What matters is how pieces of a text go together. A piece that is begun outside and ended outside
can be looked at on its own, wherever it stands; one that brings the brackets from one level to
another does so at whatever level it is met. `Shifts` says both of a piece, and `Passes` of what
lies between two places of a text, together with a number of characters that are there at least.

## Main definitions

* `Mode`, `bare`: Where a character stands, and the characters outside quoted texts.
* `enter`, `deepest`: How brackets change the level, and the greatest level that there is.
* `nesting`: How deep the brackets of a text nest.
* `IsPlain`: Neither a quote nor a bracket.
* `Closed`, `Shifts`: Pieces of a text that can be looked at on their own.
* `Finishes`: What finishes a quoted text.
* `Passes`: What lies between two places.

## Theorems

* `bare_append`, `deepest_append`: Texts one after the other.
* `nesting_le`: Brackets nest no deeper than there are brackets that open.
* `Shifts.append`, `Passes.trans`: Pieces one after the other.
* `Passes.deepest_le`: What is deep further on is deep in the whole.
-/

namespace ServerLaunch

namespace Json

/-- Where a character stands: outside quoted texts, inside one, or inside behind a backslash. -/
inductive Mode where
  | outside
  | inside
  | escaped
deriving DecidableEq, Repr

/-- Where the next character stands. -/
def Mode.next : Mode → Char → Mode
  | .outside, c => if c = '"' then .inside else .outside
  | .inside, c => if c = '"' then .outside else if c = '\\' then .escaped else .inside
  | .escaped, _ => .inside

/-- The characters outside quoted texts, with the quotes in front of these. -/
def bare (mode : Mode) : List Char → List Char
  | [] => []
  | c :: cs =>
    match mode with
    | .outside => c :: bare (mode.next c) cs
    | _ => bare (mode.next c) cs

/-- The level of brackets behind a character. -/
def enter (level : Nat) (c : Char) : Nat :=
  if c = '[' ∨ c = '\x7b' then level + 1
  else if c = ']' ∨ c = '\x7d' then level - 1
  else level

/-- The greatest level of brackets, from a level on. -/
def deepest (level : Nat) : List Char → Nat
  | [] => level
  | c :: cs => max level (deepest (enter level c) cs)

/-- A character that is neither a quote nor a bracket. -/
def IsPlain (c : Char) : Prop :=
  c ∉ ['"', '[', ']', '\x7b', '\x7d']

instance : DecidablePred IsPlain := fun c =>
  inferInstanceAs (Decidable (c ∉ ['"', '[', ']', '\x7b', '\x7d']))

theorem IsPlain.ne_quote {c : Char} (h : IsPlain c) : c ≠ '"' :=
  fun hc => h (hc ▸ List.mem_cons_self)

theorem IsPlain.enter {c : Char} (h : IsPlain c) (level : Nat) : enter level c = level := by
  simp only [IsPlain, List.mem_cons, List.not_mem_nil, or_false, not_or] at h
  rw [Json.enter, if_neg (not_or.mpr ⟨h.2.1, h.2.2.2.1⟩), if_neg (not_or.mpr ⟨h.2.2.1, h.2.2.2.2⟩)]

/-- How deep the brackets of a text nest outside quoted texts. -/
def nesting (cs : List Char) : Nat :=
  deepest 0 (bare .outside cs)

example : nesting "[[\"[[[\", 1], \x7b\"a\": []\x7d]".toList = 3 := by decide +kernel

variable {mode : Mode} {level : Nat} {cs xs ys zs : List Char} {a b c : Nat}

theorem bare_append (mode : Mode) (xs ys : List Char) :
    bare mode (xs ++ ys) = bare mode xs ++ bare (xs.foldl Mode.next mode) ys := by
  induction xs generalizing mode with
  | nil => rfl
  | cons x xs ih =>
      cases mode with
      | outside => exact congrArg (x :: ·) (ih _)
      | inside => exact ih _
      | escaped => exact ih _

theorem le_deepest (level : Nat) (cs : List Char) : level ≤ deepest level cs := by
  cases cs with
  | nil => exact le_refl _
  | cons c cs => exact le_max_left _ _

theorem deepest_append (level : Nat) (xs ys : List Char) :
    deepest level (xs ++ ys) = max (deepest level xs) (deepest (xs.foldl enter level) ys) := by
  induction xs generalizing level with
  | nil => exact (max_eq_right (le_deepest level ys)).symm
  | cons x xs ih => rw [List.cons_append, deepest, ih, deepest, max_assoc, List.foldl_cons]

theorem bare_sublist (mode : Mode) (cs : List Char) : (bare mode cs).Sublist cs := by
  induction cs generalizing mode with
  | nil => exact .refl _
  | cons c cs ih =>
      cases mode with
      | outside => exact (ih _).cons_cons c
      | inside => exact (ih _).cons c
      | escaped => exact (ih _).cons c

/-- Brackets nest no deeper than there are brackets that open. -/
theorem nesting_le (cs : List Char) :
    nesting cs ≤ cs.countP fun c => c = '[' ∨ c = '\x7b' := by
  have hdeepest : ∀ (xs : List Char) (level : Nat),
      deepest level xs ≤ level + xs.countP fun c => c = '[' ∨ c = '\x7b' := by
    intro xs
    induction xs with
    | nil => exact fun level => Nat.le_add_right _ _
    | cons x xs ih =>
        intro level
        have hrest := ih (enter level x)
        rw [deepest, List.countP_cons]
        by_cases hopen : x = '[' ∨ x = '\x7b'
        · rw [enter, if_pos hopen] at hrest ⊢
          rw [if_pos (decide_eq_true hopen)]
          omega
        · have hle : enter level x ≤ level := by
            rw [enter, if_neg hopen]
            split <;> omega
          omega
  have hbare := (bare_sublist .outside cs).countP_le (p := fun c => c = '[' ∨ c = '\x7b')
  have hlevel := hdeepest (bare .outside cs) 0
  rw [nesting]
  omega

/-- A piece that is ended outside if it is begun outside. -/
def Closed (cs : List Char) : Prop :=
  cs.foldl Mode.next .outside = .outside

theorem Closed.append (hxs : Closed xs) (hys : Closed ys) : Closed (xs ++ ys) := by
  rw [Closed, List.foldl_append, hxs, hys]

/-- Such a piece has nothing to do with what comes behind it. -/
theorem Closed.bare_append (hxs : Closed xs) (ys : List Char) :
    bare .outside (xs ++ ys) = bare .outside xs ++ bare .outside ys := by
  rw [Json.bare_append, hxs]

/-- Without quotes, all of a piece is outside. -/
theorem outside_of_noQuote (h : ∀ c ∈ cs, c ≠ '"') : Closed cs ∧ bare .outside cs = cs := by
  induction cs with
  | nil => exact ⟨rfl, rfl⟩
  | cons c cs ih =>
      rcases List.forall_mem_cons.mp h with ⟨hc, hcs⟩
      have hnext : Mode.outside.next c = .outside := if_neg hc
      rw [Closed, List.foldl_cons, bare, hnext]
      exact ⟨(ih hcs).1, congrArg _ (ih hcs).2⟩

/-- What finishes a quoted text, behind the quote that begins it. -/
structure Finishes (cs : List Char) : Prop where
  ends : cs.foldl Mode.next .inside = .outside
  hidden : bare .inside cs = []

namespace Finishes

variable {x : Char}

theorem quote : Finishes ['"'] :=
  ⟨rfl, rfl⟩

/-- A character that is neither a quote nor a backslash stays inside. -/
theorem cons (hquote : x ≠ '"') (hslash : x ≠ '\\') (h : Finishes cs) : Finishes (x :: cs) := by
  have hnext : Mode.inside.next x = .inside := by rw [Mode.next, if_neg hquote, if_neg hslash]
  constructor
  · rw [List.foldl_cons, hnext, h.ends]
  · change bare (Mode.inside.next x) cs = []
    rw [hnext, h.hidden]

/-- So does any character behind a backslash. -/
theorem escape (x : Char) (h : Finishes cs) : Finishes ('\\' :: x :: cs) :=
  ⟨h.ends, h.hidden⟩

/-- Hexadecimal digits are neither. -/
theorem hexDigits {digits : List Char} (hdigits : ∀ d ∈ digits, (Text.hexDigitValue? d).isSome)
    (h : Finishes cs) : Finishes (digits ++ cs) := by
  induction digits with
  | nil => exact h
  | cons d digits ih =>
      rcases List.forall_mem_cons.mp hdigits with ⟨hd, hdigits⟩
      refine cons ?_ ?_ (ih hdigits) <;> rintro rfl <;> revert hd <;> decide

/-- A quoted text has nothing outside but its first quote. -/
theorem quoted (h : Finishes cs) : Closed ('"' :: cs) ∧ bare .outside ('"' :: cs) = ['"'] :=
  ⟨h.ends, congrArg _ h.hidden⟩

end Finishes

/-- A piece that can be looked at on its own, and that brings the brackets from one level to
    another. -/
structure Shifts (a b : Nat) (cs : List Char) : Prop where
  closed : Closed cs
  level : ∀ level, (bare .outside cs).foldl enter (level + a) = level + b

namespace Shifts

theorem nil : Shifts a a [] :=
  ⟨rfl, fun _ => rfl⟩

theorem append (hxs : Shifts a b xs) (hys : Shifts b c ys) : Shifts a c (xs ++ ys) := by
  refine ⟨hxs.closed.append hys.closed, fun level => ?_⟩
  rw [hxs.closed.bare_append, List.foldl_append, hxs.level, hys.level]

/-- A piece that keeps the level keeps it further up. -/
theorem lift (hxs : Shifts 0 0 xs) : Shifts a a xs :=
  ⟨hxs.closed, fun level => hxs.level (level + a)⟩

/-- One character that is no quote. -/
theorem single {x : Char} (hx : x ≠ '"') (hlevel : ∀ level, enter (level + a) x = level + b) :
    Shifts a b [x] := by
  rcases outside_of_noQuote (List.forall_mem_singleton.mpr hx) with ⟨hclosed, hbare⟩
  refine ⟨hclosed, fun level => ?_⟩
  rw [hbare]
  exact hlevel level

theorem quoted (h : Finishes xs) : Shifts 0 0 ('"' :: xs) := by
  refine ⟨h.quoted.1, fun level => ?_⟩
  rw [h.quoted.2]
  rfl

theorem of_plain (h : ∀ x ∈ xs, IsPlain x) : Shifts a a xs := by
  induction xs with
  | nil => exact .nil
  | cons x xs ih =>
      rcases List.forall_mem_cons.mp h with ⟨hx, hxs⟩
      exact (single hx.ne_quote fun level => hx.enter (level + a)).append (ih hxs)

end Shifts

/-- Between two places of a text there are so many characters at least, and they bring the brackets
    from one level to another. -/
def Passes (n a b : Nat) (cs rest : List Char) : Prop :=
  ∃ piece, cs = piece ++ rest ∧ n ≤ piece.length ∧ Shifts a b piece

namespace Passes

variable {n m : Nat} {rest rest' : List Char}

theorem refl (cs : List Char) : Passes 0 a a cs cs :=
  ⟨[], rfl, Nat.le_refl 0, .nil⟩

theorem trans (h : Passes n a b cs rest) (h' : Passes m b c rest rest') :
    Passes (n + m) a c cs rest' := by
  rcases h with ⟨piece, rfl, hn, hpiece⟩
  rcases h' with ⟨piece', rfl, hm, hpiece'⟩
  refine ⟨piece ++ piece', (List.append_assoc _ _ _).symm, ?_, hpiece.append hpiece'⟩
  rw [List.length_append]
  exact Nat.add_le_add hn hm

theorem lift (h : Passes n 0 0 cs rest) : Passes n a a cs rest := by
  rcases h with ⟨piece, rfl, hn, hpiece⟩
  exact ⟨piece, rfl, hn, hpiece.lift⟩

theorem mono (h : Passes n a b cs rest) (hle : m ≤ n) : Passes m a b cs rest := by
  rcases h with ⟨piece, rfl, hn, hpiece⟩
  exact ⟨piece, rfl, hle.trans hn, hpiece⟩

theorem of_plain {piece : List Char} (h : ∀ x ∈ piece, IsPlain x) (rest : List Char) :
    Passes piece.length a a (piece ++ rest) rest :=
  ⟨piece, rfl, Nat.le_refl _, .of_plain h⟩

theorem single {x : Char} (hx : x ≠ '"') (hlevel : ∀ level, enter (level + a) x = level + b)
    (rest : List Char) : Passes 1 a b (x :: rest) rest :=
  ⟨[x], rfl, Nat.le_refl 1, .single hx hlevel⟩

theorem plain {x : Char} (hx : IsPlain x) (rest : List Char) : Passes 1 a a (x :: rest) rest :=
  .single hx.ne_quote (fun level => hx.enter (level + a)) rest

theorem length_add_le (h : Passes n a b cs rest) : rest.length + n ≤ cs.length := by
  rcases h with ⟨piece, rfl, hn, _⟩
  rw [List.length_append]
  omega

theorem isSuffix (h : Passes n a b cs rest) : rest <:+ cs := by
  rcases h with ⟨piece, rfl, _, _⟩
  exact List.suffix_append _ _

/-- What is deep further on is deep in the whole. -/
theorem deepest_le (h : Passes n a b cs rest) (level : Nat) :
    deepest (level + b) (bare .outside rest) ≤ deepest (level + a) (bare .outside cs) := by
  rcases h with ⟨piece, rfl, _, hpiece⟩
  rw [hpiece.closed.bare_append, deepest_append, hpiece.level]
  exact le_max_right _ _

end Passes

end Json

end ServerLaunch
