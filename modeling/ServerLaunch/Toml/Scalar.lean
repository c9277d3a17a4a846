import ServerLaunch.Number
import ServerLaunch.Moment
import ServerLaunch.Text.Hex

/-!
# TOML Texts, Numbers and Moments

The smallest parts of a TOML document.

Every reader takes the front of what is left of a text and gives what it read there
together with the rest. Some parts end where they cannot go on, such as a number before
a letter; whether the rest makes sense there is for the reader of the statement to say.

Texts come in four forms: with escapes or without, on one line or on several. Control
characters are allowed in none of them, apart from tabs and, in the longer forms, line
feeds. Whole numbers have the usual limit of digits if they are decimal.

## Main definitions

* `Fault`: Why a document is not read.
* `readText?`: A text in any of its forms.
* `readNumber?`: A number.
* `readMoment?`: A date, a time of day, or both.
-/

namespace ServerLaunch

namespace Toml

/-- Why a document is not read: it is no TOML, it has a number with too many digits,
    or its brackets nest too deep. -/
inductive Fault where
  | malformed
  | longNumeral (digits : Nat)
  | tooDeep
deriving DecidableEq, Repr

/-- What is read at the front of a text, and the rest. -/
abbrev Reading (α : Type) := Except Fault (α × List Char)

/-- Blanks between the parts of a statement. -/
def isBlank (c : Char) : Bool :=
  c == ' ' || c == '\t'

/-- Drops blanks. -/
def skipBlanks (cs : List Char) : List Char :=
  cs.dropWhile isBlank

/-- Characters that no text may hold as they are; line feeds are for longer forms to
    allow. -/
def isControl (c : Char) : Bool :=
  (c.toNat < 32 && c != '\t') || c.toNat == 127

/-- Control characters of a form on one line, or on several. -/
def isIllegal (long : Bool) (c : Char) : Bool :=
  isControl c && !(long && c == '\n')

/-- The character of an escape of one letter. -/
def shortEscape? : Char → Option Char
  | 'b' => some '\x08'
  | 't' => some '\t'
  | 'n' => some '\n'
  | 'f' => some '\x0c'
  | 'r' => some '\r'
  | '"' => some '"'
  | '\\' => some '\\'
  | _ => none

/-- The character of an escape by its code, if it is one. -/
def codeEscape? (digits : List Char) : Option Char :=
  (Text.hexValue? digits).bind fun n =>
    if n < 0xD800 || (0xDFFF < n && n < 0x110000) then some (Char.ofNat n) else none

/-- Where a reader of a text is: among its characters, behind a backslash that joins
    two lines but before the end of the first, or before the text of the second. -/
inductive Place where
  | characters
  | lineEnd
  | nextLine
deriving DecidableEq, Repr

/-- Puts a character in front of a text that was read. -/
def prepend (c : Char) (r : Reading (List Char)) : Reading (List Char) :=
  r.map fun (cs, rest) => (c :: cs, rest)

/-- An escaped character in front of a text; without one the escape is a fault. -/
def prependEscape (c? : Option Char) (r : Reading (List Char)) : Reading (List Char) :=
  match c? with
  | some c => prepend c r
  | none => .error .malformed

/-- The rest of a text with escapes, up to its closing quotes. -/
def readEscaped (long : Bool) (place : Place) (text : List Char) : Reading (List Char) :=
  match place, text with
  | _, [] => .error .malformed
  | .lineEnd, c :: rest =>
    if c == '\n' then readEscaped long .nextLine rest
    else if isBlank c then readEscaped long .lineEnd rest
    else .error .malformed
  | .nextLine, ' ' :: rest => readEscaped long .nextLine rest
  | .nextLine, '\t' :: rest => readEscaped long .nextLine rest
  | .nextLine, '\n' :: rest => readEscaped long .nextLine rest
  | _, '"' :: rest =>
    if long then
      match rest with
      | '"' :: '"' :: after => .ok ([], after)
      | _ => prepend '"' (readEscaped long .characters rest)
    else .ok ([], rest)
  | _, '\\' :: 'u' :: a :: b :: c :: d :: rest =>
    prependEscape (codeEscape? [a, b, c, d]) (readEscaped long .characters rest)
  | _, '\\' :: 'U' :: a :: b :: c :: d :: e :: f :: g :: h :: rest =>
    prependEscape (codeEscape? [a, b, c, d, e, f, g, h]) (readEscaped long .characters rest)
  | _, '\\' :: c :: rest =>
    if long && c == '\n' then readEscaped long .nextLine rest
    else if long && isBlank c then readEscaped long .lineEnd rest
    else prependEscape (shortEscape? c) (readEscaped long .characters rest)
  | _, c :: rest =>
    if isIllegal long c then .error .malformed
    else prepend c (readEscaped long .characters rest)

/-- The rest of a text without escapes, up to its closing quotes. -/
def readPlain (long : Bool) : List Char → Reading (List Char)
  | [] => .error .malformed
  | '\'' :: rest =>
    if long then
      match rest with
      | '\'' :: '\'' :: after => .ok ([], after)
      | _ => prepend '\'' (readPlain long rest)
    else .ok ([], rest)
  | c :: rest =>
    if isIllegal long c then .error .malformed else prepend c (readPlain long rest)

/-- Up to two quotes right behind the closing ones of a longer form belong to the text. -/
def extraQuotes (quote : Char) : List Char × List Char → List Char × List Char
  | (cs, rest) =>
    if rest.head? == some quote then
      let rest := rest.drop 1
      if rest.head? == some quote then (cs ++ [quote, quote], rest.drop 1)
      else (cs ++ [quote], rest)
    else (cs, rest)

/-- Drops a line feed right behind the opening quotes of a longer form. -/
def skipFirstLineEnd : List Char → List Char
  | '\n' :: rest => rest
  | cs => cs

/-- A text in any of its forms; `none` where there is no quote. -/
def readText? : List Char → Option (Reading (List Char))
  | '"' :: '"' :: '"' :: rest =>
    some ((readEscaped true .characters (skipFirstLineEnd rest)).map (extraQuotes '"'))
  | '"' :: rest => some (readEscaped false .characters rest)
  | '\'' :: '\'' :: '\'' :: rest =>
    some ((readPlain true (skipFirstLineEnd rest)).map (extraQuotes '\''))
  | '\'' :: rest => some (readPlain false rest)
  | _ => none

/-- The rest of a run of digits, in which single underscores may stand between two
    digits; they are dropped. -/
def readDigitsFrom (isDigit : Char → Bool) (afterDigit : Bool) :
    List Char → List Char × List Char
  | [] => ([], [])
  | c :: rest =>
    if isDigit c then
      let (ds, after) := readDigitsFrom isDigit true rest
      (c :: ds, after)
    else if c == '_' && afterDigit && rest.head?.any isDigit then
      readDigitsFrom isDigit false rest
    else ([], c :: rest)

/-- A run of digits without the underscores in it, and the rest. -/
def readDigits (isDigit : Char → Bool) (cs : List Char) : List Char × List Char :=
  readDigitsFrom isDigit false cs

/-- The value of digits in a base. -/
def valueOf (base : Nat) (ds : List Char) : Nat :=
  ds.foldl (fun n d => base * n + (Text.hexDigitValue? d).getD 0) 0

/-- Whether a character is a digit of a base up to sixteen. -/
def isDigitOf (base : Nat) (c : Char) : Bool :=
  (Text.hexDigitValue? c).any (· < base)

/-- A number with the mark of its base in front. -/
def readBased? : List Char → Option (Number × List Char)
  | '0' :: mark :: rest =>
    let base? := [('x', 16), ('o', 8), ('b', 2)].lookup mark
    base?.bind fun base =>
      match readDigits (isDigitOf base) rest with
      | ([], _) => none
      | (ds, after) => some (.int (valueOf base ds), after)
  | _ => none

/-- The digits of a whole number: zero, or digits of which the first is none. -/
def readWhole? (cs : List Char) : Option (List Char × List Char) :=
  match cs with
  | '0' :: rest => some (['0'], rest)
  | c :: _ => if Text.isAsciiDigit c then some (readDigits Text.isAsciiDigit cs) else none
  | [] => none

/-- The digits behind a point, if there are any. -/
def readFraction : List Char → List Char × List Char
  | '.' :: rest =>
    match readDigits Text.isAsciiDigit rest with
    | ([], _) => ([], '.' :: rest)
    | (ds, after) => (ds, after)
  | cs => ([], cs)

/-- The exponent of a number, if there is one. -/
def readExponent? : List Char → Option (Int × List Char)
  | c :: rest =>
    if c == 'e' || c == 'E' then
      let (negative, digits) := Numeral.readSign rest
      match readDigits Text.isAsciiDigit digits with
      | ([], _) => none
      | (ds, after) =>
        let n : Int := Numeral.natOfDigits ds
        some (if negative then -n else n, after)
    else none
  | [] => none

/-- A decimal number. -/
def readDecimal? (cs : List Char) : Option (Reading Number) :=
  let (negative, cs) := Numeral.readSign cs
  (readWhole? cs).map fun (whole, rest) =>
    let (fraction, rest) := readFraction rest
    match fraction, readExponent? rest with
    | [], none =>
      if whole.length > Numeral.digitLimit then .error (.longNumeral whole.length)
      else
        let n : Int := Numeral.natOfDigits whole
        .ok (.int (if negative then -n else n), rest)
    | fraction, exponent? =>
      let (exponent, rest) := exponent?.getD (0, rest)
      .ok (.float (Binary64.ofDecimal negative (Numeral.natOfDigits (whole ++ fraction))
        (exponent - fraction.length)), rest)

/-- The words for special numbers. -/
def specialNumbers : List (List Char × Binary64) :=
  [(['i', 'n', 'f'], .infinite false), (['n', 'a', 'n'], .nan 0),
    (['+', 'i', 'n', 'f'], .infinite false), (['-', 'i', 'n', 'f'], .infinite true),
    (['+', 'n', 'a', 'n'], .nan 0), (['-', 'n', 'a', 'n'], .nan 0)]

/-- A number; `none` where there is none. -/
def readNumber? (cs : List Char) : Option (Reading Number) :=
  match readBased? cs with
  | some result => some (.ok result)
  | none =>
    match readDecimal? cs with
    | some result => some result
    | none =>
      (specialNumbers.find? fun e => e.1.isPrefixOf cs).map fun (word, x) =>
        .ok (.float x, cs.drop word.length)

/-- A number of exactly two digits up to a greatest one. -/
def twoDigits? (most : Nat) (a b : Char) : Option Nat :=
  if Text.isAsciiDigit a && Text.isAsciiDigit b then
    let n := Numeral.natOfDigits [a, b]
    if n ≤ most then some n else none
  else none

/-- The microseconds that digits behind a point stand for; digits beyond the sixth
    count nothing. -/
def microseconds (ds : List Char) : Nat :=
  let kept := ds.take 6
  Numeral.natOfDigits kept * Nat.pow 10 (6 - kept.length)

/-- A time of day. -/
def readClock? : List Char → Option (ClockTime × List Char)
  | a :: b :: ':' :: c :: d :: ':' :: e :: f :: rest => do
    let hour ← twoDigits? 23 a b
    let minute ← twoDigits? 59 c d
    let second ← twoDigits? 59 e f
    let (micros, rest) := match rest with
      | '.' :: more =>
        match more.span Text.isAsciiDigit with
        | ([], _) => (0, rest)
        | (ds, after) => (microseconds ds, after)
      | _ => (0, rest)
    return (⟨hour, minute, second, micros⟩, rest)
  | _ => none

/-- A distance from universal time, in minutes, if there is one. -/
def readOffset : List Char → Option Int × List Char
  | 'Z' :: rest => (some 0, rest)
  | 'z' :: rest => (some 0, rest)
  | sign :: a :: b :: ':' :: c :: d :: rest =>
    let cs := sign :: a :: b :: ':' :: c :: d :: rest
    if sign == '+' || sign == '-' then
      match twoDigits? 23 a b, twoDigits? 59 c d with
      | some hours, some minutes =>
        let n : Int := 60 * hours + minutes
        (some (if sign == '-' then -n else n), rest)
      | _, _ => (none, cs)
    else (none, cs)
  | cs => (none, cs)

/-- The time behind a date, if there is one. -/
def readTimeOf (date : Date) : List Char → Moment × List Char
  | c :: rest =>
    if c == 'T' || c == 't' || c == ' ' then
      match readClock? rest with
      | some (clock, after) =>
        let (offset, after) := readOffset after
        (.dateTime date clock offset, after)
      | none => (.date date, c :: rest)
    else (.date date, c :: rest)
  | [] => (.date date, [])

/-- A date, possibly with a time. A day that the calendar does not have is a fault. -/
def readDate? : List Char → Option (Reading Moment)
  | a :: b :: c :: d :: '-' :: e :: f :: '-' :: g :: h :: rest => do
    let century ← twoDigits? 99 a b
    let year ← twoDigits? 99 c d
    let month ← twoDigits? 12 e f
    let day ← twoDigits? 31 g h
    if month = 0 || day = 0 then none
    else
      let date : Date := ⟨100 * century + year, month, day⟩
      let (moment, after) := readTimeOf date rest
      some (if date.isReal then .ok (moment, after) else .error .malformed)
  | _ => none

/-- A date, a time of day, or both; `none` where there is none. -/
def readMoment? (cs : List Char) : Option (Reading Moment) :=
  match readDate? cs with
  | some result => some result
  | none => (readClock? cs).map fun (clock, rest) => .ok (.time clock, rest)

end Toml

end ServerLaunch
