import ServerLaunch.Proofs.Numeral
import ServerLaunch.Proofs.OutsideQuotes
import ServerLaunch.Text.Digit
import ServerLaunch.Text.Hex

/-!
# The Grammar of JSON

Which texts are JSON, by the grammar of the standard and by nothing else.

The grammar is one of texts, without values: `IsJson` has a rule for every way in which the standard
makes a text, and it knows neither a reader nor a writer. White space may stand around every value,
so a value with white space is of the same kind as one without, and the whole text is no special
case. The standard has three words. Numbers have an optional minus sign, a whole part without a
superfluous zero, and an optional fraction and exponent.

To show that a text is not JSON one would have to look at all the ways in which it may be made. But
most of a text that is JSON is in quotes, and outside them there is little choice. In particular the
capital letters that the words for infinities and for the not-a-number begin with are nowhere in the
grammar but in quotes.

## Main definitions

* `IsNumber`, `IsText`: Numbers and texts in quotes.
* `IsJson`: The texts that are JSON.
* `Without`: A piece that has some characters nowhere but in quotes.

## Theorems

* `IsJson.without`: What is JSON has no `N` and no `I` outside quotes.
-/

namespace ServerLaunch

namespace Json

/-- White space: blanks, tabs, and the ends of lines. -/
def IsGap (cs : List Char) : Prop :=
  ∀ c ∈ cs, c ∈ [' ', '\t', '\n', '\r']

/-- A run of decimal digits. -/
def IsDigits (cs : List Char) : Prop :=
  ∀ c ∈ cs, Text.isAsciiDigit c = true

/-- The whole part of a number: zero, or digits that do not begin with it. -/
inductive IsWhole : List Char → Prop
  | zero : IsWhole ['0']
  | digits {ds : List Char} (hsome : ds ≠ []) (hzero : ds.head? ≠ some '0') (h : IsDigits ds) :
      IsWhole ds

/-- The fraction of a number, which may be missing. -/
inductive IsFraction : List Char → Prop
  | none : IsFraction []
  | digits {ds : List Char} (hsome : ds ≠ []) (h : IsDigits ds) : IsFraction ('.' :: ds)

/-- The exponent of a number, which may be missing. -/
inductive IsExponent : List Char → Prop
  | none : IsExponent []
  | digits {mark : Char} {sign ds : List Char} (hmark : mark ∈ ['e', 'E'])
      (hsign : sign ∈ [[], ['+'], ['-']]) (hsome : ds ≠ []) (h : IsDigits ds) :
      IsExponent (mark :: (sign ++ ds))

/-- A number without its sign. -/
inductive IsUnsigned : List Char → Prop
  | mk {whole fraction exponent : List Char} (hwhole : IsWhole whole)
      (hfraction : IsFraction fraction) (hexponent : IsExponent exponent) :
      IsUnsigned (whole ++ (fraction ++ exponent))

/-- A number, which may have a minus sign. -/
inductive IsNumber : List Char → Prop
  | plain {cs : List Char} (h : IsUnsigned cs) : IsNumber cs
  | minus {cs : List Char} (h : IsUnsigned cs) : IsNumber ('-' :: cs)

/-- The characters of a text between its quotes. -/
inductive IsContent : List Char → Prop
  | nil : IsContent []
  | literal {c : Char} {cs : List Char} (hcontrol : 0x20 ≤ c.toNat) (hquote : c ≠ '"')
      (hslash : c ≠ '\\') (h : IsContent cs) : IsContent (c :: cs)
  | escape {c : Char} {cs : List Char} (hc : c ∈ ['"', '\\', '/', 'b', 'f', 'n', 'r', 't'])
      (h : IsContent cs) : IsContent ('\\' :: c :: cs)
  | unit {digits cs : List Char} (hlength : digits.length = 4)
      (hdigits : ∀ c ∈ digits, (Text.hexDigitValue? c).isSome) (h : IsContent cs) :
      IsContent ('\\' :: 'u' :: (digits ++ cs))

/-- A text in quotes. -/
inductive IsText : List Char → Prop
  | mk {cs : List Char} (h : IsContent cs) : IsText ('"' :: (cs ++ ['"']))

/-- Pieces with commas between them. -/
def separated (pieces : List (List Char)) : List Char :=
  [','].intercalate pieces

/-- A name and a value with a colon between them. -/
def named (name value : List Char) : List Char :=
  name ++ ':' :: value

/-- The texts that are JSON: a value, with white space around it. -/
inductive IsJson : List Char → Prop
  | word {cs : List Char} (h : cs ∈ ["null".toList, "true".toList, "false".toList]) : IsJson cs
  | number {cs : List Char} (h : IsNumber cs) : IsJson cs
  | text {cs : List Char} (h : IsText cs) : IsJson cs
  | emptyList {gap : List Char} (h : IsGap gap) : IsJson ('[' :: (gap ++ [']']))
  | list {members : List (List Char)} (hsome : members ≠ []) (h : ∀ m ∈ members, IsJson m) :
      IsJson ('[' :: (separated members ++ [']']))
  | emptyObject {gap : List Char} (h : IsGap gap) : IsJson ('\x7b' :: (gap ++ ['\x7d']))
  | object {entries : List (List Char × List Char)} (hsome : entries ≠ [])
      (hnames : ∀ e ∈ entries, ∃ front text back, IsGap front ∧ IsText text ∧ IsGap back ∧
        e.1 = front ++ (text ++ back))
      (hvalues : ∀ e ∈ entries, IsJson e.2) :
      IsJson ('\x7b' :: (separated (entries.map fun e => named e.1 e.2) ++ ['\x7d']))
  | padded {front cs back : List Char} (hfront : IsGap front) (hback : IsGap back) (h : IsJson cs) :
      IsJson (front ++ (cs ++ back))

theorem separated_cons_cons (piece next : List Char) (pieces : List (List Char)) :
    separated (piece :: next :: pieces) = piece ++ ([','] ++ separated (next :: pieces)) := by
  rw [separated, List.intercalate_cons_cons, List.append_assoc]
  rfl

/-- A piece that can be looked at on its own, and in which some characters are nowhere but in
    quotes. -/
structure Without (letters : List Char) (cs : List Char) : Prop where
  closed : Closed cs
  bare : ∀ c ∈ bare .outside cs, c ∉ letters

namespace Without

variable {letters xs ys : List Char}

theorem append (hxs : Without letters xs) (hys : Without letters ys) :
    Without letters (xs ++ ys) := by
  refine ⟨hxs.closed.append hys.closed, ?_⟩
  rw [hxs.closed.bare_append]
  exact List.forall_mem_append.mpr ⟨hxs.bare, hys.bare⟩

theorem of_noQuote (h : ∀ c ∈ xs, c ≠ '"' ∧ c ∉ letters) : Without letters xs := by
  rcases outside_of_noQuote fun c hc => (h c hc).1 with ⟨hclosed, hbare⟩
  refine ⟨hclosed, ?_⟩
  rw [hbare]
  exact fun c hc => (h c hc).2

/-- A piece of which all characters are among some others. -/
theorem of_among {others : List Char}
    (hothers : (others.all fun c => decide (c ≠ '"' ∧ c ∉ letters)) = true)
    (h : ∀ c ∈ xs, c ∈ others) : Without letters xs :=
  of_noQuote fun c hc => of_decide_eq_true (List.all_eq_true.mp hothers c (h c hc))

theorem of_all (h : (xs.all fun c => decide (c ≠ '"' ∧ c ∉ letters)) = true) :
    Without letters xs :=
  of_among h fun _ hc => hc

theorem cons {c : Char} (hc : c ≠ '"' ∧ c ∉ letters) (hxs : Without letters xs) :
    Without letters (c :: xs) :=
  (of_noQuote (List.forall_mem_singleton.mpr hc)).append hxs

theorem separated {pieces : List (List Char)} (hcomma : ',' ∉ letters)
    (h : ∀ piece ∈ pieces, Without letters piece) : Without letters (separated pieces) := by
  induction pieces with
  | nil => exact .of_noQuote (List.forall_mem_nil _)
  | cons piece pieces ih =>
      rcases List.forall_mem_cons.mp h with ⟨hpiece, hpieces⟩
      rcases pieces with _ | ⟨next, pieces⟩
      · rw [Json.separated, List.intercalate_singleton]
        exact hpiece
      · rw [separated_cons_cons]
        exact hpiece.append (.cons ⟨by decide, hcomma⟩ (ih hpieces))

end Without

/-- The letters that the words for infinities and for the not-a-number begin with. -/
def specialLetters : List Char :=
  ['N', 'I']

section Special

variable {cs : List Char}

theorem IsGap.without (h : IsGap cs) : Without specialLetters cs :=
  .of_among (by decide) h

theorem IsDigits.without (h : IsDigits cs) : Without specialLetters cs := by
  have hletters : (('"' :: specialLetters).all fun d => !Text.isAsciiDigit d) = true := by decide
  refine .of_noQuote fun c hc => not_or.mp fun hletter => ?_
  have hnot := List.all_eq_true.mp hletters c (List.mem_cons.mpr hletter)
  rw [h c hc] at hnot
  cases hnot

theorem IsWhole.without (h : IsWhole cs) : Without specialLetters cs := by
  cases h with
  | zero => exact .of_all (by decide)
  | digits _ _ h => exact h.without

theorem IsFraction.without (h : IsFraction cs) : Without specialLetters cs := by
  cases h with
  | none => exact .of_all (by decide)
  | digits _ h => exact .cons (by decide) h.without

theorem IsExponent.without (h : IsExponent cs) : Without specialLetters cs := by
  cases h with
  | none => exact .of_all (by decide)
  | @digits mark sign ds hmark hsign _ h =>
      have hsigns : ∀ cs ∈ [[], ['+'], ['-']],
          (cs.all fun c => decide (c ≠ '"' ∧ c ∉ specialLetters)) = true := by decide
      have hmarked : Without specialLetters [mark] :=
        .of_among (by decide) (List.forall_mem_singleton.mpr hmark)
      exact hmarked.append (.append (.of_all (hsigns _ hsign)) h.without)

theorem IsUnsigned.without (h : IsUnsigned cs) : Without specialLetters cs := by
  rcases h with ⟨hwhole, hfraction, hexponent⟩
  exact hwhole.without.append (hfraction.without.append hexponent.without)

theorem IsNumber.without (h : IsNumber cs) : Without specialLetters cs := by
  cases h with
  | plain h => exact h.without
  | minus h => exact .cons (by decide) h.without

/-- What is in quotes stays there. -/
theorem IsContent.finishes (h : IsContent cs) : Finishes (cs ++ ['"']) := by
  induction h with
  | nil => exact .quote
  | literal _ hquote hslash _ ih => exact .cons hquote hslash ih
  | escape _ _ ih => exact .escape _ ih
  | @unit digits cs _ hdigits _ ih =>
      rw [List.cons_append, List.cons_append, List.append_assoc]
      exact .escape 'u' (.hexDigits hdigits ih)

theorem IsText.without (h : IsText cs) : Without specialLetters cs := by
  rcases h with ⟨h⟩
  rcases h.finishes.quoted with ⟨hclosed, hbare⟩
  refine ⟨hclosed, ?_⟩
  rw [hbare]
  exact List.forall_mem_singleton.mpr (by decide)

/-- What is JSON has no such letter but in quotes. -/
theorem IsJson.without (h : IsJson cs) : Without specialLetters cs := by
  induction h with
  | word h =>
      have hwords : ∀ cs ∈ ["null".toList, "true".toList, "false".toList],
          (cs.all fun c => decide (c ≠ '"' ∧ c ∉ specialLetters)) = true := by decide
      exact .of_all (hwords _ h)
  | number h => exact h.without
  | text h => exact h.without
  | emptyList h => exact .cons (by decide) (h.without.append (.of_all (by decide)))
  | list _ _ ih =>
      exact .cons (by decide) ((Without.separated (by decide) ih).append (.of_all (by decide)))
  | emptyObject h => exact .cons (by decide) (h.without.append (.of_all (by decide)))
  | object _ hnames _ ih =>
      refine .cons (by decide) ((Without.separated (by decide) ?_).append (.of_all (by decide)))
      refine List.forall_mem_map.mpr fun e he => ?_
      rcases hnames e he with ⟨front, text, back, hfront, htext, hback, hname⟩
      rw [named, hname]
      exact (hfront.without.append (htext.without.append hback.without)).append
        (.cons (by decide) (ih e he))
  | padded hfront hback _ ih => exact hfront.without.append (ih.append hback.without)

end Special

end Json

end ServerLaunch
