import ServerLaunch.Number.Rounded
import ServerLaunch.Text.LetterCase
import ServerLaunch.Value.Entries

/-!
# Message Templates

Messages with places for values.

A place is a percent sign, an optional name in parentheses, flags, a width, a
precision and a letter that tells how the value is written. Width and precision may be
asterisks, which take a value each. Two percent signs stand for one.

A single value that is a mapping is asked for named places, and is itself the value of
a place without a name. Otherwise the places take the values in order, and there have
to be as many of one as of the other.

A template without values is a text like any other, percent signs included.

## Main definitions

* `Place`, `Piece`: A place, and what a template consists of.
* `readPieces`: The pieces of a template.
* `Supply`: Where the values come from.
* `formatMessage`: A template with its values.
-/

namespace ServerLaunch

namespace Template

/-- A width or a precision: none, a number, or one that is asked of the values. -/
inductive Extent where
  | absent
  | given (n : Nat)
  | asked
deriving DecidableEq, Repr

/-- A place for a value. -/
structure Place where
  name : Option String := none
  leftAligned : Bool := false
  zeroPadded : Bool := false
  plusSign : Bool := false
  blankSign : Bool := false
  alternative : Bool := false
  width : Extent := .absent
  precision : Extent := .absent
  letter : Char
deriving DecidableEq, Repr

/-- What a template consists of. -/
inductive Piece where
  | char (c : Char)
  | place (p : Place)
deriving DecidableEq, Repr

/-- A name up to the parenthesis that closes it, and the rest. Parentheses inside a name
    are balanced; `depth` of them are open. -/
def readName? (depth : Nat) : List Char → Option (List Char × List Char)
  | [] => none
  | ')' :: rest =>
    match depth with
    | 0 => some ([], rest)
    | depth + 1 => (readName? depth rest).map fun (name, rest) => (')' :: name, rest)
  | '(' :: rest => (readName? (depth + 1) rest).map fun (name, rest) => ('(' :: name, rest)
  | c :: rest => (readName? depth rest).map fun (name, rest) => (c :: name, rest)

/-- The flags of a place, and the rest. -/
def readFlags (p : Place) : List Char → Place × List Char
  | '-' :: rest => readFlags { p with leftAligned := true } rest
  | '0' :: rest => readFlags { p with zeroPadded := true } rest
  | '+' :: rest => readFlags { p with plusSign := true } rest
  | ' ' :: rest => readFlags { p with blankSign := true } rest
  | '#' :: rest => readFlags { p with alternative := true } rest
  | cs => (p, cs)

/-- A width or a precision, and the rest. -/
def readExtent (instead : Extent) (cs : List Char) : Extent × List Char :=
  match cs with
  | '*' :: rest => (.asked, rest)
  | cs =>
    match Numeral.spanDigits cs with
    | ([], rest) => (instead, rest)
    | (digits, rest) => (.given (Numeral.natOfDigits digits), rest)

/-- The letters that tell the size of a number elsewhere and nothing here. -/
def sizeLetters : List Char := ['h', 'l', 'L']

/-- The letter of a place, and the rest. A letter of size may stand before it. -/
def readLetter? : List Char → Option (Char × List Char)
  | [] => none
  | c :: rest =>
    if sizeLetters.contains c then
      match rest with
      | [] => none
      | letter :: rest => some (letter, rest)
    else some (c, rest)

/-- A place behind its percent sign and its name, and the rest. -/
def readBody? (name : Option String) (cs : List Char) : Option (Place × List Char) :=
  let (p, cs) := readFlags { name, letter := 's' } cs
  let (width, cs) := readExtent .absent cs
  let (precision, cs) := match cs with
    | '.' :: rest => readExtent (.given 0) rest
    | cs => (.absent, cs)
  (readLetter? cs).map fun (letter, rest) => ({ p with width, precision, letter }, rest)

/-- A place behind its percent sign, and the rest. -/
def readPlace? : List Char → Option (Place × List Char)
  | '(' :: rest =>
    (readName? 0 rest).bind fun (name, rest) => readBody? (some (String.ofList name)) rest
  | cs => readBody? none cs

/-- The pieces of a template; `none` if a place is not finished. The fuel is the
    length of the text, of which every step takes a character. -/
def readPieces (fuel : Nat) (cs : List Char) : Option (List Piece) :=
  match fuel, cs with
  | _, [] => some []
  | 0, _ :: _ => none
  | fuel + 1, '%' :: '%' :: rest => (readPieces fuel rest).map (Piece.char '%' :: ·)
  | fuel + 1, '%' :: rest =>
    (readPlace? rest).bind fun (p, rest) =>
      (readPieces fuel rest).map (Piece.place p :: ·)
  | fuel + 1, c :: rest => (readPieces fuel rest).map (Piece.char c :: ·)

/-- Where the values of places come from: a list that is used up in order, or a mapping,
    of which at most one value is at hand. -/
inductive Supply where
  | inOrder (values : List Value)
  | byName (es : Entries) (atHand : Option Value)

namespace Supply

/-- The next value, and what is left. -/
def next? : Supply → Option (Value × Supply)
  | .inOrder (v :: vs) => some (v, .inOrder vs)
  | .byName es (some v) => some (v, .byName es none)
  | .inOrder [] | .byName _ none => none

/-- The supply with the value of a name at hand. -/
def select? (name : String) : Supply → Option Supply
  | .byName es _ => (Entries.getText? es name).map fun v => .byName es (some v)
  | .inOrder _ => none

/-- Whether no value is left that should have had a place. -/
def isSpent : Supply → Bool
  | .inOrder vs => vs.isEmpty
  | .byName .. => true

/-- The supply of the values of a message: a mapping that is not empty and alone is asked
    by name. -/
def ofValues (vs : List Value) : Supply :=
  match vs with
  | [v] =>
    match v.entries? with
    | some (e :: es) => .byName (e :: es) (some v)
    | _ => .inOrder vs
  | vs => .inOrder vs

end Supply

/-- A place whose sizes are settled. -/
structure Setting where
  place : Place
  leftAligned : Bool
  width : Nat
  precision : Option Nat
deriving Repr

/-- The whole number that a value is, if it is one. -/
def integer? (v : Value) : Option Int :=
  match v.number? with
  | some (.int i) => some i
  | _ => none

/-- The largest size that a place can have. -/
def sizeLimit : Nat := Nat.pow 2 31 - 1

/-- A size, which must not be too large in either direction. -/
def boundedSize? (i : Int) : Option Int :=
  if i.natAbs ≤ sizeLimit then some i else none

/-- A size as a number, and the values that are left. -/
def Extent.settle? (s : Supply) : Extent → Option (Option Int × Supply)
  | .absent => some (none, s)
  | .given n => (boundedSize? n).map fun i => (some i, s)
  | .asked => do
    let (v, s) ← s.next?
    let i ← integer? v >>= boundedSize?
    return (some i, s)

/-- Settles the sizes of a place. A width below zero means its opposite, with the text at
    the left; a precision below zero is zero. -/
def Place.settle? (p : Place) (s : Supply) : Option (Setting × Supply) := do
  let (width, s) ← p.width.settle? s
  let (precision, s) ← p.precision.settle? s
  let width := width.getD 0
  return (⟨p, p.leftAligned || width < 0, width.natAbs, precision.map Int.toNat⟩, s)

/-- Fills up to the width of a place. -/
def Setting.fill (p : Setting) (cs : List Char) : List Char :=
  let blanks := List.replicate (p.width - cs.length) ' '
  if p.leftAligned then cs ++ blanks else blanks ++ cs

/-- Fills a number up to the width of a place, with zeros behind the sign and the mark of
    its base if the place asks for them. -/
def Setting.fillNumber (p : Setting) (negative : Bool) (mark digits : List Char) : List Char :=
  let sign := if negative then ['-'] else if p.place.plusSign then ['+'] else
    if p.place.blankSign then [' '] else []
  let front := sign ++ mark
  if p.place.zeroPadded && !p.leftAligned then
    front ++ List.replicate (p.width - front.length - digits.length) '0' ++ digits
  else p.fill (front ++ digits)

/-- A text cut to the precision of a place. -/
def Setting.cut (p : Setting) (cs : List Char) : List Char :=
  match p.precision with
  | some n => cs.take n
  | none => cs

/-- A whole number in a base, with at least as many digits as the precision asks for. -/
def Setting.writeInteger (p : Setting) (base : Nat) (mark : List Char) (i : Int) : List Char :=
  let mark := if p.place.alternative then mark else []
  p.fillNumber (i < 0) mark (Binary64.padZeros (p.precision.getD 0) (Nat.toDigits base i.natAbs))

/-- The whole number that a value is, its fraction cut off. A number that is too long to be
    read is too long to be written. -/
def wholeNumber? (v : Value) : Option Int :=
  let whole : Option Int := match v.number? with
    | some (.int i) => some i
    | some (.float x) => x.toRat?.map fun q => q.num.tdiv q.den
    | none => none
  whole.filter fun i => Binary64.digitCount i.natAbs ≤ Numeral.digitLimit

/-- The precision of a real number unless told otherwise. -/
def defaultPrecision : Nat := 6

/-- The style of a real number that a letter of lower case stands for. -/
def realStyle? : Char → Option RealStyle
  | 'f' => some .fixed
  | 'e' => some .scientific
  | 'g' => some .general
  | _ => none

/-- Letters of ASCII in upper case. -/
def raised (upper : Bool) (cs : List Char) : List Char :=
  if upper then cs.map Char.toUpper else cs

/-- A value as a real number. -/
def Setting.writeReal? (p : Setting) (v : Value) : Option (List Char) :=
  (realStyle? p.place.letter.toLower).bind fun style =>
    (v.number?.bind Number.toBinary64?).map fun x =>
      let (negative, cs) :=
        Binary64.rounded style p.place.alternative (p.precision.getD defaultPrecision) x
      p.fillNumber negative [] (raised p.place.letter.isUpper cs)

/-- A value as one character: a text of one, or the number of one. -/
def character? (v : Value) : Option Char :=
  match v with
  | .text s =>
    match s.toList with
    | [c] => some c
    | _ => none
  | v => (integer? v).bind fun i =>
    if h : 0 ≤ i ∧ i.toNat.isValidChar then some (Char.ofNatAux i.toNat h.2) else none

/-- A character in ASCII, or its code behind a backslash. -/
def asciiChar (c : Char) : List Char :=
  if c.toNat < 128 then [c] else Text.codeEscape c.toNat

/-- A value in a place; `none` if it is no value for the letter. -/
def Setting.write? (p : Setting) (v : Value) : Option (List Char) :=
  match p.place.letter with
  | 's' => some (p.fill (p.cut v.display))
  | 'r' => some (p.fill (p.cut v.literal))
  | 'a' => some (p.fill (p.cut (v.literal.flatMap asciiChar)))
  | 'c' => (character? v).map fun c => p.fill [c]
  | 'd' | 'i' | 'u' => (wholeNumber? v).map (p.writeInteger 10 [])
  | 'o' => (integer? v).map (p.writeInteger 8 ['0', 'o'])
  | 'x' => (integer? v).map (p.writeInteger 16 ['0', 'x'])
  | 'X' => (integer? v).map fun i => raised true (p.writeInteger 16 ['0', 'x'] i)
  | _ => p.writeReal? v

/-- A place with its value, and the values that are left. -/
def Place.fill? (p : Place) (s : Supply) : Option (List Char × Supply) := do
  let s ← match p.name with
    | some name => s.select? name
    | none => some s
  let (p, s) ← p.settle? s
  let (v, s) ← s.next?
  return (← p.write? v, s)

/-- The pieces with values in their places, one after the other. -/
def fillPieces (s : Supply) : List Piece → Option (List Char)
  | [] => if s.isSpent then some [] else none
  | .char c :: pieces => (fillPieces s pieces).map (c :: ·)
  | .place p :: pieces =>
    (p.fill? s).bind fun (cs, s) => (fillPieces s pieces).map (cs ++ ·)

end Template

/-- A template with its values; `none` if they do not fit. -/
def formatMessage (template : String) (values : List Value) : Option String :=
  match values with
  | [] => some template
  | vs =>
    ((Template.readPieces template.length template.toList).bind
      (Template.fillPieces (.ofValues vs))).map String.ofList

end ServerLaunch
