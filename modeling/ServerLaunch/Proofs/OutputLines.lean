import Mathlib.Data.List.TakeWhile
import ServerLaunch.Proofs.Utf8Reading
import ServerLaunch.Server.Handle

/-!
# Nothing of the Output Is Lost

The lines that are logged of the output of a server, however it is cut.

A reader keeps the line it is in, and of a character that is cut in two the part that it has.
What is logged from some point on depends on that and on the text to come, so it is stated for
any point: `rest` is what is logged of a text from a state on. Reading a piece and then the
rest is reading both, and from the start `rest` is a function of the text alone: the text is
split at every carriage return and line feed, each part is trimmed at its end, and parts with
nothing left are dropped. A line feed right after a carriage return is one more end of line
then, but what it ends is empty.

Only blanks are dropped by that, because both ends of line are blanks. The characters that are
no blanks are therefore the same, in the same order, in the text and in the lines, and one is
named by its place among them. `lineOf` is the line of such a character.

## Main definitions

* `isLineEnd`: The two characters that end a line.
* `linesOf`: The lines of a text.
* `ink`: The characters of a text that are no blanks.
* `lineOf`: The number of the line with a character, by its place among those with ink.

## Theorems

* `feedAll_eq`: Where the output is cut does not matter.
* `rest_eq`: What is logged of a text from a state on.
* `flatMap_ink_linesOf`: The lines have the ink of the text.
* `lineOf_eq`, `lineOf_ne`: Two characters are in one line if no line ends between them.
* `lines_faithful`: The lines for the pieces of the output of a server.
-/

namespace ServerLaunch

open Text

namespace Text

/-- Trimming the end drops characters of the set, and nothing else. -/
theorem exists_trimEnd_append (p : Char → Bool) (cs : List Char) :
    ∃ dropped, cs = trimEnd p cs ++ dropped ∧ ∀ c ∈ dropped, p c = true := by
  refine ⟨(cs.reverse.takeWhile p).reverse, ?_, ?_⟩
  · rw [trimEnd, ← List.reverse_append, List.takeWhile_append_dropWhile, List.reverse_reverse]
  · intro c hc
    exact List.mem_takeWhile_imp (List.mem_reverse.mp hc)

/-- What is left ends in a character that is not in the set. -/
theorem exists_last_trimEnd {p : Char → Bool} {cs : List Char} (h : trimEnd p cs ≠ []) :
    ∃ front c, trimEnd p cs = front ++ [c] ∧ p c = false := by
  unfold trimEnd at h ⊢
  cases hcs : cs.reverse.dropWhile p with
  | nil => exact absurd (congrArg List.reverse hcs) h
  | cons c kept =>
      refine ⟨kept.reverse, c, List.reverse_cons, ?_⟩
      have hhead := List.head?_dropWhile_not p cs.reverse
      rw [hcs] at hhead
      exact hhead

end Text

namespace OutputReader

/-- The two characters that end a line. -/
def isLineEnd (c : Char) : Bool :=
  c == '\n' || c == '\r'

/-- Parts of a text trimmed at their ends, as far as something is left of them. -/
def trimmedLines (parts : List (List Char)) : List (List Char) :=
  (parts.map (trimEnd isBlank)).filter fun line => !line.isEmpty

/-- The lines of a text: its parts between the ends of lines, trimmed. -/
def linesOf (text : List Char) : List (List Char) :=
  trimmedLines (text.splitOnP isLineEnd)

/-- The characters of a text that are no blanks. -/
def ink (text : List Char) : List Char :=
  text.filter fun c => !isBlank c

/-- The number of the line with a character, by its place among those that are no blanks. -/
def lineOf : List (List Char) → Nat → Nat
  | [], _ => 0
  | line :: lines, place =>
    if place < (ink line).length then 0 else lineOf lines (place - (ink line).length) + 1

/-! ## What is logged of a text -/

theorem trimmedLines_cons (part : List Char) (parts : List (List Char)) :
    trimmedLines (part :: parts) = logged part.reverse ++ trimmedLines parts := by
  unfold trimmedLines logged
  rw [List.map_cons, List.filter_cons, trimEnd]
  cases part.reverse.dropWhile isBlank with
  | nil => rfl
  | cons c kept =>
      have hkept : (c :: kept).reverse.isEmpty = false := by
        rw [List.isEmpty_reverse]
        rfl
      rw [hkept]
      rfl

theorem trimmedLines_empty (parts : List (List Char)) :
    trimmedLines ([] :: parts) = trimmedLines parts :=
  trimmedLines_cons [] parts

/-- What is logged of a text from a state on. -/
def rest (r : OutputReader) (text : List Char) : List (List Char) :=
  (r.characters text).2 ++ logged (r.characters text).1.line

/-- Right after a carriage return the line is empty. -/
def Fresh (r : OutputReader) : Prop :=
  r.afterReturn = true → r.line = []

theorem Fresh.withPending {r : OutputReader} (h : r.Fresh) (pending : Option Utf8.Pending) :
    Fresh { r with pending := pending } := h

/-- The line feed of a carriage return that came last. -/
theorem character_second {r : OutputReader} (h : r.afterReturn = true) :
    r.character '\n' = ({ r with afterReturn := false }, []) := by
  unfold character
  rw [h]
  rfl

theorem character_end {r : OutputReader} {c : Char} (hc : isLineEnd c = true)
    (h : ¬ (c = '\n' ∧ r.afterReturn = true)) :
    r.character c = ({ r with afterReturn := c == '\r', line := [] }, logged r.line) := by
  unfold character
  rw [if_neg (by rwa [Bool.and_eq_true, beq_iff_eq])]
  exact if_pos hc

theorem character_other {r : OutputReader} {c : Char} (hc : isLineEnd c = false) :
    r.character c = ({ r with afterReturn := false, line := c :: r.line }, []) := by
  have hnot : (c == '\n' && r.afterReturn) = false := by
    rw [(Bool.or_eq_false_iff.mp hc).1, Bool.false_and]
  unfold character
  rw [hnot, show (c == '\n' || c == '\r') = false from hc]
  rfl

/-- A character is the second half of an end of line, an end of line, or part of the line. -/
theorem character_cases (r : OutputReader) (c : Char) :
    (c = '\n' ∧ r.afterReturn = true) ∨
      (isLineEnd c = true ∧ ¬ (c = '\n' ∧ r.afterReturn = true)) ∨ isLineEnd c = false := by
  by_cases h : c = '\n' ∧ r.afterReturn = true
  · exact .inl h
  · cases hc : isLineEnd c with
    | true => exact .inr (.inl ⟨rfl, h⟩)
    | false => exact .inr (.inr rfl)

theorem fresh_character {r : OutputReader} (c : Char) : (r.character c).1.Fresh := by
  rcases character_cases r c with ⟨rfl, hreturn⟩ | ⟨hc, h⟩ | hc
  · rw [character_second hreturn]
    exact fun h => nomatch h
  · rw [character_end hc h]
    exact fun _ => rfl
  · rw [character_other hc]
    exact fun h => nomatch h

theorem fresh_characters {r : OutputReader} (h : r.Fresh) (cs : List Char) :
    (r.characters cs).1.Fresh := by
  induction cs generalizing r with
  | nil => exact h
  | cons c cs ih => exact ih (fresh_character c)

theorem rest_cons (r : OutputReader) (c : Char) (text : List Char) :
    r.rest (c :: text) = (r.character c).2 ++ (r.character c).1.rest text :=
  List.append_assoc _ _ _

theorem rest_append (r : OutputReader) (a b : List Char) :
    r.rest (a ++ b) = (r.characters a).2 ++ (r.characters a).1.rest b := by
  induction a generalizing r with
  | nil => rfl
  | cons c a ih =>
      rw [List.cons_append, rest_cons, ih, characters, List.append_assoc]

/-- What is logged depends on the line and on the text to come. -/
theorem rest_eq {r : OutputReader} (h : r.Fresh) (text : List Char) :
    r.rest text = trimmedLines (text.splitOnPPrepend isLineEnd r.line) := by
  induction text generalizing r with
  | nil =>
      rw [List.splitOnPPrepend_nil, trimmedLines_cons, List.reverse_reverse]
      exact (List.append_nil _).symm
  | cons c text ih =>
      rw [rest_cons, ih (fresh_character c)]
      rcases character_cases r c with ⟨rfl, hreturn⟩ | ⟨hc, hnot⟩ | hc
      · -- What the line feed ends is empty.
        rw [character_second hreturn, List.splitOnPPrepend_cons_pos rfl, h hreturn]
        exact (trimmedLines_empty _).symm
      · rw [character_end hc hnot, List.splitOnPPrepend_cons_pos hc, trimmedLines_cons,
          List.reverse_reverse]
        rfl
      · rw [character_other hc, List.splitOnPPrepend_cons_neg hc]
        rfl

/-! ## Reading in pieces -/

theorem pending_character (r : OutputReader) (c : Char) :
    (r.character c).1.pending = r.pending := by
  rcases character_cases r c with ⟨rfl, hreturn⟩ | ⟨hc, h⟩ | hc
  · rw [character_second hreturn]
  · rw [character_end hc h]
  · rw [character_other hc]

theorem pending_characters (r : OutputReader) (cs : List Char) :
    (r.characters cs).1.pending = r.pending := by
  induction cs generalizing r with
  | nil => rfl
  | cons c cs ih => exact (ih _).trans (pending_character r c)

theorem feed_append (r : OutputReader) (a b : List UInt8) :
    r.feed (a ++ b) = (((r.feed a).1.feed b).1, (r.feed a).2 ++ ((r.feed a).1.feed b).2) := by
  induction a generalizing r with
  | nil => rfl
  | cons o a ih => simp only [List.cons_append, feed, ih, List.append_assoc]

/-- Where the output is cut does not matter. -/
theorem feedAll_eq (r : OutputReader) (chunks : List (List UInt8)) :
    r.feedAll chunks = r.feed chunks.flatten := by
  induction chunks generalizing r with
  | nil => rfl
  | cons chunk chunks ih =>
      rw [List.flatten_cons, feed_append, ← ih]
      rfl

/-- What is logged of octets up to the end, from a state on, is what is logged of the text that
    they are read as. -/
theorem feed_finish {r : OutputReader} (h : r.Fresh) (bs : List UInt8) :
    (r.feed bs).2 ++ (r.feed bs).1.finish =
      r.rest ((Utf8.decodeFrom r.pending bs).map Utf8.shown) := by
  induction bs generalizing r with
  | nil => rfl
  | cons b bs ih =>
      have hfresh : (r.octet b).1.Fresh := fresh_characters (h.withPending _) _
      have hpending : (r.octet b).1.pending = (Utf8.step r.pending b).2 := pending_characters _ _
      calc (r.feed (b :: bs)).2 ++ (r.feed (b :: bs)).1.finish
          = (r.octet b).2 ++ (((r.octet b).1.feed bs).2 ++ ((r.octet b).1.feed bs).1.finish) :=
            List.append_assoc _ _ _
        _ = (r.octet b).2 ++ (r.octet b).1.rest
              ((Utf8.decodeFrom (Utf8.step r.pending b).2 bs).map Utf8.shown) := by
            rw [ih hfresh, hpending]
        _ = rest { r with pending := (Utf8.step r.pending b).2 }
              ((Utf8.decodeFrom r.pending (b :: bs)).map Utf8.shown) := by
            rw [Utf8.decodeFrom, List.map_append, rest_append]
            rfl
        _ = r.rest ((Utf8.decodeFrom r.pending (b :: bs)).map Utf8.shown) := by
            rw [rest_eq h, rest_eq (h.withPending _)]

/-- The lines of the output are those of the text that it is read as. -/
theorem lines_eq (chunks : List (List UInt8)) :
    lines chunks = (linesOf (Utf8.decodeLossy chunks.flatten)).map String.ofList := by
  have hfresh : start.Fresh := fun h => nomatch h
  have hall := feed_finish hfresh chunks.flatten
  rw [← feedAll_eq, rest_eq hfresh] at hall
  exact congrArg (List.map String.ofList) hall

/-! ## The lines of a text -/

theorem isBlank_of_isLineEnd {c : Char} (h : isLineEnd c = true) : isBlank c = true := by
  rcases Bool.or_eq_true_iff.mp h with h | h
  · rw [beq_iff_eq.mp h]
    decide
  · rw [beq_iff_eq.mp h]
    decide

theorem isLineEnd_of_ink {c : Char} (h : isBlank c = false) : isLineEnd c = false := by
  cases hc : isLineEnd c with
  | false => rfl
  | true => rw [isBlank_of_isLineEnd hc] at h; cases h

/-- A text with no end of line in it, or a line in front of the others. -/
theorem exists_line (text : List Char) :
    (∀ c ∈ text, isLineEnd c = false) ∨
      ∃ line c others, text = line ++ c :: others ∧ (∀ c ∈ line, isLineEnd c = false) ∧
        isLineEnd c = true := by
  have hline : ∀ c ∈ text.takeWhile fun c => !isLineEnd c, isLineEnd c = false :=
    fun c hc => by simpa only [Bool.not_eq_true'] using List.mem_takeWhile_imp hc
  have htext := List.takeWhile_append_dropWhile (p := fun c => !isLineEnd c) (l := text)
  cases hrest : text.dropWhile fun c => !isLineEnd c with
  | nil =>
      rw [hrest, List.append_nil] at htext
      exact .inl (htext ▸ hline)
  | cons c others =>
      have hhead := List.head?_dropWhile_not (fun c => !isLineEnd c) text
      rw [hrest] at htext hhead
      have hend : (!isLineEnd c) = false := hhead
      exact .inr ⟨_, c, others, htext.symm, hline, by rwa [Bool.not_eq_false'] at hend⟩

/-- Induction over the lines of a text. -/
theorem lineInduction {motive : List Char → Prop}
    (last : ∀ line, (∀ c ∈ line, isLineEnd c = false) → motive line)
    (more : ∀ line c others, (∀ c ∈ line, isLineEnd c = false) → isLineEnd c = true →
      motive others → motive (line ++ c :: others)) (text : List Char) : motive text := by
  induction hn : text.length using Nat.strongRecOn generalizing text with
  | _ n ih =>
      rcases exists_line text with hline | ⟨line, c, others, rfl, hline, hc⟩
      · exact last text hline
      · rw [List.length_append, List.length_cons] at hn
        exact more line c others hline hc (ih others.length (by omega) others rfl)

theorem linesOf_single {line : List Char} (h : ∀ c ∈ line, isLineEnd c = false) :
    linesOf line = trimmedLines [line] := by
  rw [linesOf, List.splitOnP_eq_singleton h]

theorem linesOf_append {c : Char} (hc : isLineEnd c = true) (a b : List Char) :
    linesOf (a ++ c :: b) = linesOf a ++ linesOf b := by
  unfold linesOf trimmedLines
  rw [List.splitOnP_append_cons a b hc, List.map_append, List.filter_append]

theorem ink_append (a b : List Char) : ink (a ++ b) = ink a ++ ink b :=
  List.filter_append _ _

theorem ink_cons_blank {c : Char} (h : isBlank c = true) (text : List Char) :
    ink (c :: text) = ink text :=
  List.filter_cons_of_neg (by rw [h]; decide)

theorem ink_cons {c : Char} (h : isBlank c = false) (text : List Char) :
    ink (c :: text) = c :: ink text :=
  List.filter_cons_of_pos (by rw [h]; rfl)

theorem ink_eq_nil {text : List Char} (h : ∀ c ∈ text, isBlank c = true) : ink text = [] :=
  List.filter_eq_nil_iff.mpr fun c hc => by rw [h c hc]; decide

theorem ink_trimEnd (line : List Char) : ink (trimEnd isBlank line) = ink line := by
  rcases exists_trimEnd_append isBlank line with ⟨dropped, hline, hdropped⟩
  conv_rhs => rw [hline]
  rw [ink_append, ink_eq_nil hdropped, List.append_nil]

/-- A line with ink is kept. -/
theorem trimmedLines_single {line : List Char} (h : ink line ≠ []) :
    trimmedLines [line] = [trimEnd isBlank line] := by
  unfold trimmedLines
  rw [List.map_singleton]
  refine List.filter_cons_of_pos ?_
  rw [Bool.not_eq_true', List.isEmpty_eq_false_iff]
  intro hnil
  rw [← ink_trimEnd, hnil] at h
  exact h rfl

theorem mem_trimmedLines {parts : List (List Char)} {row : List Char}
    (h : row ∈ trimmedLines parts) : row ≠ [] ∧ ∃ part ∈ parts, trimEnd isBlank part = row := by
  rcases List.mem_filter.mp h with ⟨hmem, hne⟩
  rw [Bool.not_eq_true', List.isEmpty_eq_false_iff] at hne
  exact ⟨hne, List.mem_map.mp hmem⟩

theorem flatMap_ink_trimmedLines (line : List Char) :
    (trimmedLines [line]).flatMap ink = ink line := by
  by_cases h : ink line = []
  · rw [h, List.flatMap_eq_nil_iff]
    intro row hrow
    rcases mem_trimmedLines hrow with ⟨-, part, hpart, rfl⟩
    rw [ink_trimEnd, List.mem_singleton.mp hpart, h]
  · rw [trimmedLines_single h, List.flatMap_singleton, ink_trimEnd]

/-- The lines have the ink of the text. -/
theorem flatMap_ink_linesOf (text : List Char) : (linesOf text).flatMap ink = ink text := by
  induction text using lineInduction with
  | last line hline => rw [linesOf_single hline, flatMap_ink_trimmedLines]
  | more line c others hline hc ih =>
      rw [linesOf_append hc, List.flatMap_append, linesOf_single hline, flatMap_ink_trimmedLines,
        ih, ink_append, ink_cons_blank (isBlank_of_isLineEnd hc)]

/-- What is left of a line ends in ink and has no end of line in it. -/
theorem mem_trimmedLines_single {line row : List Char} (hline : ∀ c ∈ line, isLineEnd c = false)
    (h : row ∈ trimmedLines [line]) :
    (∃ front c, row = front ++ [c] ∧ isBlank c = false) ∧ ∀ c ∈ row, isLineEnd c = false := by
  rcases mem_trimmedLines h with ⟨hne, part, hpart, rfl⟩
  obtain rfl := List.mem_singleton.mp hpart
  rcases exists_trimEnd_append isBlank part with ⟨dropped, hdropped, -⟩
  refine ⟨exists_last_trimEnd hne, fun c hc => hline c ?_⟩
  rw [hdropped]
  exact List.mem_append_left _ hc

theorem mem_linesOf {text row : List Char} (h : row ∈ linesOf text) :
    (∃ front c, row = front ++ [c] ∧ isBlank c = false) ∧ ∀ c ∈ row, isLineEnd c = false := by
  induction text using lineInduction with
  | last line hline => exact mem_trimmedLines_single hline (linesOf_single hline ▸ h)
  | more line c others hline hc ih =>
      rw [linesOf_append hc, linesOf_single hline, List.mem_append] at h
      exact h.elim (mem_trimmedLines_single hline) ih

/-! ## The line of a character -/

theorem lineOf_lt {rows : List (List Char)} {place : Nat}
    (h : place < (rows.flatMap ink).length) : lineOf rows place < rows.length := by
  induction rows generalizing place with
  | nil => exact absurd h (Nat.not_lt_zero _)
  | cons row rows ih =>
      rw [List.flatMap_cons, List.length_append] at h
      rw [lineOf, List.length_cons]
      split
      · exact Nat.succ_pos _
      · exact Nat.succ_lt_succ (ih (by omega))

theorem lineOf_append_left {rows others : List (List Char)} {place : Nat}
    (h : place < (rows.flatMap ink).length) :
    lineOf (rows ++ others) place = lineOf rows place := by
  induction rows generalizing place with
  | nil => exact absurd h (Nat.not_lt_zero _)
  | cons row rows ih =>
      rw [List.flatMap_cons, List.length_append] at h
      rw [List.cons_append, lineOf, lineOf]
      split
      · rfl
      · rw [ih (by omega)]

theorem lineOf_append_right (rows others : List (List Char)) (place : Nat) :
    lineOf (rows ++ others) ((rows.flatMap ink).length + place) =
      rows.length + lineOf others place := by
  induction rows with
  | nil =>
      rw [List.nil_append, List.flatMap_nil, List.length_nil, List.length_nil, Nat.zero_add,
        Nat.zero_add]
  | cons row rows ih =>
      rw [List.cons_append, lineOf, List.flatMap_cons, List.length_append, if_neg (by omega),
        Nat.add_assoc, Nat.add_sub_cancel_left, ih, List.length_cons]
      omega

/-- A text that begins with ink on one line has that ink on its first line. -/
theorem exists_first_line {front : List Char} (hfront : ∀ c ∈ front, isLineEnd c = false)
    (hink : ink front ≠ []) (b : List Char) :
    ∃ row rows more, linesOf (front ++ b) = row :: rows ∧ ink row = ink front ++ more := by
  have hrow : ∀ tail, (∀ c ∈ tail, isLineEnd c = false) →
      linesOf (front ++ tail) = [trimEnd isBlank (front ++ tail)] := by
    intro tail htail
    have hinks : ink (front ++ tail) ≠ [] := by
      rw [ink_append]
      exact List.append_ne_nil_of_left_ne_nil hink _
    rw [linesOf_single, trimmedLines_single hinks]
    intro c hc
    exact (List.mem_append.mp hc).elim (hfront c) (htail c)
  rcases exists_line b with hb | ⟨line, c, others, rfl, hline, hc⟩
  · exact ⟨_, [], ink b, hrow b hb, by rw [ink_trimEnd, ink_append]⟩
  · refine ⟨_, linesOf others, ink line, ?_, (ink_trimEnd _).trans (ink_append front line)⟩
    rw [← List.append_assoc, linesOf_append hc, hrow line hline]
    rfl

theorem lineOf_first {row : List Char} {rows : List (List Char)} {place : Nat}
    (h : place < (ink row).length) : lineOf (row :: rows) place = 0 :=
  if_pos h

section SameLine

variable {a m b : List Char} {x y : Char}

/-- With no end of line between them two characters are in one line. -/
theorem lineOf_eq (hx : isBlank x = false) (hy : isBlank y = false)
    (hm : ∀ c ∈ m, isLineEnd c = false) :
    lineOf (linesOf (a ++ x :: (m ++ y :: b))) (ink a).length =
      lineOf (linesOf (a ++ x :: (m ++ y :: b))) (ink (a ++ x :: m)).length := by
  -- By induction over the lines in front: on the line itself both places are within its ink.
  induction a using lineInduction with
  | last line hline =>
      have hfront : ∀ c ∈ line ++ x :: (m ++ [y]), isLineEnd c = false := by
        simp only [List.mem_append, List.mem_cons, List.not_mem_nil, or_false]
        rintro c (hc | rfl | hc | rfl)
        exacts [hline c hc, isLineEnd_of_ink hx, hm c hc, isLineEnd_of_ink hy]
      have hink : ink (line ++ x :: (m ++ [y])) = ink line ++ x :: (ink m ++ [y]) := by
        rw [ink_append, ink_cons hx, ink_append, ink_cons hy]
        rfl
      rcases exists_first_line hfront (hink ▸ by simp) b with ⟨row, rows, more, hrows, hrow⟩
      have htext : line ++ x :: (m ++ y :: b) = line ++ x :: (m ++ [y]) ++ b := by
        simp only [List.append_assoc, List.cons_append, List.nil_append]
      rw [hink] at hrow
      rw [htext, hrows, lineOf_first, lineOf_first]
      · rw [hrow, ink_append, ink_cons hx]
        simp only [List.length_append, List.length_cons]
        omega
      · rw [hrow]
        simp only [List.length_append, List.length_cons]
        omega
  | more line c others hline hc ih =>
      have hplace : ∀ cs, (ink (line ++ c :: cs)).length =
          ((linesOf line).flatMap ink).length + (ink cs).length := fun cs => by
        rw [ink_append, ink_cons_blank (isBlank_of_isLineEnd hc), List.length_append,
          flatMap_ink_linesOf]
      simp only [List.append_assoc, List.cons_append] at ih ⊢
      rw [linesOf_append hc, hplace, hplace, lineOf_append_right, lineOf_append_right, ih]

/-- With an end of line between them two characters are in different lines. -/
theorem lineOf_ne (hx : isBlank x = false) {c : Char} (hc : c ∈ m) (hend : isLineEnd c = true) :
    lineOf (linesOf (a ++ x :: (m ++ y :: b))) (ink a).length ≠
      lineOf (linesOf (a ++ x :: (m ++ y :: b))) (ink (a ++ x :: m)).length := by
  rcases List.append_of_mem hc with ⟨m₁, m₂, rfl⟩
  -- The first place is among the lines in front of that end, and the second one behind them.
  have htext : a ++ x :: (m₁ ++ c :: m₂ ++ y :: b) = (a ++ x :: m₁) ++ c :: (m₂ ++ y :: b) := by
    simp only [List.append_assoc, List.cons_append]
  have hfirst : (ink a).length < ((linesOf (a ++ x :: m₁)).flatMap ink).length := by
    rw [flatMap_ink_linesOf, ink_append, ink_cons hx, List.length_append, List.length_cons]
    omega
  have hsecond : (ink (a ++ x :: (m₁ ++ c :: m₂))).length =
      ((linesOf (a ++ x :: m₁)).flatMap ink).length + (ink m₂).length := by
    have hplace : a ++ x :: (m₁ ++ c :: m₂) = (a ++ x :: m₁) ++ c :: m₂ := by
      simp only [List.append_assoc, List.cons_append]
    rw [flatMap_ink_linesOf, hplace, ink_append, ink_cons_blank (isBlank_of_isLineEnd hend),
      List.length_append]
  rw [htext, linesOf_append hend, lineOf_append_left hfirst, hsecond, lineOf_append_right]
  have hlt := lineOf_lt hfirst
  omega

end SameLine

/-! ## The lines of the output -/

theorem isLineEnd_eq_false_iff {c : Char} : isLineEnd c = false ↔ c ≠ '\n' ∧ c ≠ '\r' := by
  rw [isLineEnd, Bool.or_eq_false_iff, beq_eq_false_iff_ne, beq_eq_false_iff_ne]

theorem forall_isLineEnd_iff {text : List Char} :
    (∀ c ∈ text, isLineEnd c = false) ↔ '\n' ∉ text ∧ '\r' ∉ text := by
  constructor
  · exact fun h => ⟨fun hc => absurd (h _ hc) (by decide), fun hc => absurd (h _ hc) (by decide)⟩
  · rintro ⟨hfeed, hreturn⟩ c hc
    refine isLineEnd_eq_false_iff.mpr ⟨?_, ?_⟩
    · rintro rfl
      exact hfeed hc
    · rintro rfl
      exact hreturn hc

/-- What the journal has of the output: one message for each line, in order. -/
theorem past_logOutput (lines : List String) (w : World) :
    (Handle.logOutput .journal lines w).2.past =
      (lines.map fun line => Event.noted .reader .debug (labelled defaultLabel line)).reverse ++
        w.past := by
  induction lines generalizing w with
  | nil => rfl
  | cons line lines ih =>
      have hstep : Handle.logOutput .journal (line :: lines) w =
          Handle.logOutput .journal lines
            (w.record (.noted .reader .debug (labelled defaultLabel line))) := rfl
      rw [hstep, ih, List.map_cons, List.reverse_cons, List.append_assoc]
      rfl

/-- However the output is cut, it is logged as the lines of the one text that it stands for: what
    is no blank is all there and in order, and two characters are in one line exactly if no line
    ends between them. A line ends in a character that is no blank, and no line ends in it. -/
theorem lines_faithful (chunks : List (List UInt8)) :
    (∀ others : List (List UInt8), others.flatten = chunks.flatten →
        lines others = lines chunks) ∧
      ∃ text rows, (∀ t, Utf8.Reads chunks.flatten t ↔ t = text) ∧
        (∀ s : String, chunks.flatten = s.toUTF8.data.toList → text = s.toList) ∧
        lines chunks = rows.map String.ofList ∧ rows.flatMap ink = ink text ∧
        (∀ row ∈ rows, (∃ front c, row = front ++ [c] ∧ isBlank c = false) ∧
          '\n' ∉ row ∧ '\r' ∉ row) ∧
        (∀ a x m y b, text = a ++ x :: (m ++ y :: b) → isBlank x = false → isBlank y = false →
          (lineOf rows (ink a).length = lineOf rows (ink (a ++ x :: m)).length ↔
            '\n' ∉ m ∧ '\r' ∉ m)) ∧
        ∀ w : World, (Handle.logOutput .journal (lines chunks) w).2.past =
          (rows.map fun row => Event.noted .reader .debug
            ("[appium] " ++ String.ofList row)).reverse ++ w.past := by
  refine ⟨fun others h => by rw [lines_eq, lines_eq, h], Utf8.decodeLossy chunks.flatten,
    linesOf (Utf8.decodeLossy chunks.flatten), ?_, ?_, lines_eq chunks, flatMap_ink_linesOf _,
    ?_, ?_, ?_⟩
  · exact fun t => Utf8.reads_iff.trans eq_comm
  · intro s hs
    exact Utf8.reads_iff.mp (hs ▸ Utf8.reads_toUTF8 s)
  · intro row hrow
    rcases mem_linesOf hrow with ⟨hlast, hends⟩
    exact ⟨hlast, forall_isLineEnd_iff.mp hends⟩
  · rintro a x m y b htext hx hy
    rw [← forall_isLineEnd_iff, htext]
    constructor
    · intro hsame c hc
      by_contra hend
      exact lineOf_ne hx hc (by simpa using hend) hsame
    · exact lineOf_eq hx hy
  · intro w
    rw [past_logOutput, lines_eq, List.map_map]
    rfl

/-- A character and an end of line that are cut in two. -/
theorem lines_faithful_cut :
    lines [[0x61, 0x0D, 0x0A, 0xC3, 0xA9, 0x20]] =
        lines [[0x61, 0x0D], [0x0A, 0xC3], [0xA9, 0x20]] ∧
      ∃ rows, lines [[0x61, 0x0D], [0x0A, 0xC3], [0xA9, 0x20]] = rows.map String.ofList ∧
        rows.flatMap ink = ['a', 'é'] ∧ lineOf rows 0 ≠ lineOf rows 1 := by
  rcases lines_faithful [[0x61, 0x0D], [0x0A, 0xC3], [0xA9, 0x20]] with
    ⟨hcut, text, rows, -, htext, hlines, hink, -, hsame, -⟩
  have hwritten : text = ['a', '\r', '\n', 'é', ' '] := htext "a\r\né " (by decide +kernel)
  refine ⟨hcut [[0x61, 0x0D, 0x0A, 0xC3, 0xA9, 0x20]] rfl, rows, hlines, ?_, ?_⟩
  · rw [hink, hwritten]
    decide
  · intro h
    have hnone := (hsame [] 'a' ['\r', '\n'] 'é' [' '] hwritten (by decide) (by decide)).mp h
    exact hnone.1 (by decide)

end OutputReader

end ServerLaunch
