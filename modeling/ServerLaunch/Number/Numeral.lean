import ServerLaunch.Number.Binary64
import ServerLaunch.Text.Blank
import ServerLaunch.Text.Digit

/-!
# Numerals

Reading numbers that a user typed.

Whole numbers on the command line may have blanks around them, a sign, digits of
any script, and single underscores between digits. They may not have more than
4300 digits, a bound that keeps reading and writing fast. Floating point numbers follow the
same habits, with a point, an exponent, and the words for the special values.

The settings follow a second, stricter tradition, with ASCII digits only, but are
generous about a whole number written with zeros behind a point.

## Main definitions

* `IntegerFault`, `readInteger`: Whole numbers on the command line.
* `readFloat?`: Floating point numbers on the command line.
* `settingInteger`, `settingFloat?`: Numbers among the settings.
* `intChars`: A whole number in decimal.

## Theorems

* `natOfDigits_append_singleton`: The value of one more digit.
-/

namespace ServerLaunch

namespace Numeral

/-- The most digits a whole number may be typed with. -/
def digitLimit : Nat := 4300

/-- Why a text is no whole number. -/
inductive IntegerFault where
  | malformed
  | tooLong (digits : Nat)
deriving DecidableEq, Repr

/-- The explanation of a number with too many digits. -/
def tooLongMessage (digits : Nat) : String :=
  "Exceeds the limit (4300 digits) for integer string conversion: value has " ++ toString digits ++
    " digits; use sys.set_int_max_str_digits() to increase the limit"

/-- The explanation of a number that has too many digits to be written. -/
def tooLongToWriteMessage : String :=
  "Exceeds the limit (4300 digits) for integer string conversion; " ++
    "use sys.set_int_max_str_digits() to increase the limit"

/-- Whether a whole number has too many digits to be written. -/
def isTooLong (i : Int) : Bool :=
  decide (Nat.pow 10 digitLimit ≤ i.natAbs)

/-- A whole number in decimal, with a minus sign below zero. -/
def intChars (i : Int) : List Char :=
  if i < 0 then '-' :: Nat.toDigits 10 i.natAbs else Nat.toDigits 10 i.natAbs

/-- A whole number in decimal. -/
def intText (i : Int) : String :=
  String.ofList (intChars i)

/-- The value of a run of ASCII digits. -/
def natOfDigits (ds : List Char) : Nat :=
  ds.foldl (fun n d => 10 * n + Text.asciiDigitValue d) 0

/-- One more digit multiplies by ten and adds its value. -/
theorem natOfDigits_append_singleton (ds : List Char) (d : Char) :
    natOfDigits (ds ++ [d]) = 10 * natOfDigits ds + Text.asciiDigitValue d := by
  simp only [natOfDigits, List.foldl_append, List.foldl_cons, List.foldl_nil]

/-- A sign in front of a numeral: whether it is a minus, and the rest. -/
def readSign : List Char → Bool × List Char
  | '-' :: rest => (true, rest)
  | '+' :: rest => (false, rest)
  | cs => (false, cs)

/-- The digits of a numeral with single underscores between them; `none` where an
    underscore stands elsewhere or a character is no digit. -/
def separatedDigits? (digit? : Char → Option Nat) : List Char → Option (List Nat)
  | [] => none
  | [c] => (digit? c).map ([·])
  | c :: '_' :: rest =>
    (digit? c).bind fun d => (separatedDigits? digit? rest).map (d :: ·)
  | c :: rest => (digit? c).bind fun d => (separatedDigits? digit? rest).map (d :: ·)

/-- Whether a character can stand in a run of separated digits. -/
def isDigitOrSeparator (c : Char) : Bool :=
  c == '_' || (Text.digitValue? c).isSome

/-- A whole number as the command line takes it. The run of digits is looked at first: one
    that is too long is reported even if something else stands behind it. -/
def readInteger (s : String) : Except IntegerFault Int :=
  let (negative, rest) := readSign (Text.trim Text.isSpace s.toList)
  match separatedDigits? Text.digitValue? (rest.takeWhile isDigitOrSeparator) with
  | none => .error .malformed
  | some ds =>
    if ds.length > digitLimit then .error (.tooLong ds.length)
    else if !(rest.dropWhile isDigitOrSeparator).isEmpty then .error .malformed
    else
      let n : Nat := ds.foldl (fun n d => 10 * n + d) 0
      .ok (if negative then -(n : Int) else n)

/-- A run of ASCII digits at the front, and the rest. -/
def spanDigits (cs : List Char) : List Char × List Char :=
  cs.span Text.isAsciiDigit

/-- The exponent at the end of a floating point numeral; nothing is zero. -/
def readExponent? : List Char → Option Int
  | [] => some 0
  | c :: rest =>
    if c == 'e' || c == 'E' then
      let (negative, ds) := readSign rest
      if ds.isEmpty || !ds.all Text.isAsciiDigit then none
      else some (if negative then -(natOfDigits ds : Int) else natOfDigits ds)
    else none

/-- Digits with an optional point and exponent. A digit has to stand on one side
    of the point at least. -/
def readDecimal? (negative : Bool) (cs : List Char) : Option Binary64 :=
  let (whole, rest) := spanDigits cs
  let (fraction, rest) := match rest with
    | '.' :: more => spanDigits more
    | _ => ([], rest)
  if whole.isEmpty && fraction.isEmpty then none
  else (readExponent? rest).map fun e =>
    Binary64.ofDecimal negative (natOfDigits (whole ++ fraction)) (e - fraction.length)

/-- A floating point numeral in ASCII, the words for the special values included. -/
def readFloatChars? (cs : List Char) : Option Binary64 :=
  let (negative, rest) := readSign cs
  let word := String.ofList (rest.map Char.toLower)
  if word == "inf" || word == "infinity" then some (.infinite negative)
  else if word == "nan" then some (.nan 0)
  else readDecimal? negative rest

/-- Drops underscores that stand between two digits; `none` if one stands elsewhere. -/
def dropUnderscores? (isDigit : Char → Bool) (previous : Bool) : List Char → Option (List Char)
  | [] => some []
  | '_' :: rest =>
    if previous && rest.head?.any isDigit then dropUnderscores? isDigit false rest else none
  | c :: rest => (dropUnderscores? isDigit (isDigit c) rest).map (c :: ·)

/-- Writes the digits of other scripts in ASCII. -/
def asciiDigits (cs : List Char) : List Char :=
  cs.map fun c => match Text.digitValue? c with
    | some d => Char.ofNat (48 + d)
    | none => c

/-- A floating point number as the command line takes it. -/
def readFloat? (s : String) : Option Binary64 :=
  (dropUnderscores? Text.isAsciiDigit false (asciiDigits (Text.trim Text.isSpace s.toList))).bind
    readFloatChars?

/-- An ASCII numeral without superfluous zeros in front. -/
def plainInteger? (cs : List Char) : Option Int :=
  let (negative, ds) := match cs with
    | '-' :: rest => (true, rest)
    | _ => (false, cs)
  if ds.isEmpty || !ds.all Text.isAsciiDigit || (ds.length > 1 && ds.head? == some '0') then none
  else some (if negative then -(natOfDigits ds : Int) else natOfDigits ds)

/-- How many digits the numeral at the front of a text has, which may have a minus sign. A
    zero in front is a numeral of its own. -/
def frontDigits (cs : List Char) : Nat :=
  let rest := match cs with
    | '-' :: rest => rest
    | _ => cs
  if rest.head? == some '0' then 1 else (rest.takeWhile Text.isAsciiDigit).length

/-- Drops zeros, and underscores among them, in front of a number; `last` is the character
    passed over. A minus sign behind the zeros belongs to the number. -/
def dropZeros? (last : Char) : List Char → Option (List Char)
  | [] => some [last]
  | c :: rest =>
    if c == '0' || c == '_' then dropZeros? c rest
    else if ('1' ≤ c && c ≤ '9') || c == '-' then some (c :: rest)
    else if c == '.' then some (last :: c :: rest)
    else none

/-- A number without superfluous zeros in front. It has to start with a digit. -/
def dropLeadingZeros? : List Char → Option (List Char)
  | [] => none
  | c :: rest =>
    if c == '0' then dropZeros? c rest
    else if '1' ≤ c && c ≤ '9' then some (c :: rest)
    else none

/-- Drops a point with nothing but zeros behind it. -/
def dropZeroFraction (cs : List Char) : List Char :=
  let whole := cs.takeWhile (· != '.')
  match cs.dropWhile (· != '.') with
  | '.' :: zeros => if !zeros.isEmpty && zeros.all (· == '0') then whole else cs
  | _ => cs

/-- Whether underscores stand only inside a text and never two in a row. -/
def underscoresInside : List Char → Bool
  | [] => true
  | ['_'] => false
  | '_' :: '_' :: _ => false
  | _ :: rest => underscoresInside rest

/-- Drops underscores if they stand inside the text and apart. -/
def dropInnerUnderscores (cs : List Char) : List Char :=
  if cs.head? != some '_' && underscoresInside cs then cs.filter (· != '_') else cs

/-- A number of the settings without what may be dropped: white space around it, a plus
    sign, zeros in front, zeros behind a point, and underscores inside. -/
def cleanedInteger? (cs : List Char) : Option (List Char) :=
  let (negative, rest) := readSign (Text.trim Text.isSpace cs)
  (dropLeadingZeros? rest).map fun digits =>
    let kept := dropInnerUnderscores (dropZeroFraction digits)
    if negative then '-' :: kept else kept

/-- A whole number as the settings take it. A plain one may be too long; one of which
    something has to be dropped is malformed if it is too long without that. -/
def settingInteger (s : String) : Except IntegerFault Int :=
  let cs := s.toList
  if frontDigits cs > digitLimit then .error (.tooLong (frontDigits cs))
  else match plainInteger? cs with
  | some i => .ok i
  | none =>
    match (cleanedInteger? cs).filter fun cs => frontDigits cs ≤ digitLimit with
    | none => .error .malformed
    | some cs =>
      match plainInteger? cs with
      | some i => .ok i
      | none => .error .malformed

/-- A floating point number as the settings take it: with white space around it, or with
    underscores inside, but not with both. -/
def settingFloat? (s : String) : Option Binary64 :=
  let cs := s.toList
  match readFloatChars? (Text.trim Text.isSpace cs) with
  | some x => some x
  | none =>
    if cs.contains '_' && cs.head? != some '_' && underscoresInside cs then
      readFloatChars? (cs.filter (· != '_'))
    else none

example : (readInteger " +1_000 ").toOption = some 1000 ∧
    (readInteger "1__0").toOption = none := by
  decide +kernel
example : (settingInteger "4723.00").toOption = some 4723 ∧
    (settingInteger "65535.").toOption = none := by
  decide +kernel
example : (settingInteger " -0_7").toOption = some (-7) ∧
    (settingInteger "-_7").toOption = none := by
  decide +kernel

end Numeral

end ServerLaunch
