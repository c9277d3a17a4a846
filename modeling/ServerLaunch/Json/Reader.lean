import ServerLaunch.Text.Hex
import ServerLaunch.Value.Entries

/-!
# Reading JSON

A value from its JSON text, or the place and the kind of the first fault.

The reader goes through the text once and never backs up, so the place of a fault
is told by how much of the text was left there. White space is the four characters
that JSON allows. Beyond the standard, the words for infinities and the
not-a-number are read; whole numbers keep any size up to the common limit of
digits, and an object in which a name repeats keeps the first place and the last
value.

Texts are made of characters here, and half a character is none. Where an escape gives a half
that has no other half beside it, this reader goes on with U+FFFD, the replacement character,
and so it does not tell two such halves apart, in a text or in the name of an entry.

Brackets may nest to a fixed depth. The depth also bounds the recursion, together
with a fuel that counts steps and is always enough: every step takes a character.

## Main definitions

* `Problem`, `Fault`: What can be wrong.
* `readText`: The rest of a quoted text.
* `readNumber?`: A number.
* `readValue`, `readMembers`, `readEntries`: Values.
* `parse`: A whole text.
* `Fault.message`: A fault with its line and column.
-/

namespace ServerLaunch

namespace Json

/-- What can be wrong at a place of a text. -/
inductive Problem where
  | byteOrderMark
  | value
  | name
  | colon
  | comma
  | unterminated
  | controlCharacter
  | escape
  | unicodeEscape
  | extraData
deriving DecidableEq, Repr

/-- The wording of a problem. -/
def Problem.text : Problem → String
  | .byteOrderMark => "Unexpected UTF-8 BOM (decode using utf-8-sig)"
  | .value => "Expecting value"
  | .name => "Expecting property name enclosed in double quotes"
  | .colon => "Expecting ':' delimiter"
  | .comma => "Expecting ',' delimiter"
  | .unterminated => "Unterminated string starting at"
  | .controlCharacter => "Invalid control character at"
  | .escape => "Invalid \\escape"
  | .unicodeEscape => "Invalid \\uXXXX escape"
  | .extraData => "Extra data"

/-- Why a text is not read: a problem where `left` characters were left, a number
    with too many digits, or brackets that nest too deep. -/
inductive Fault where
  | malformed (problem : Problem) (left : Nat)
  | tooLong (digits : Nat)
  | tooDeep
deriving DecidableEq, Repr

/-- How deep brackets may nest. -/
def depthLimit : Nat := 985

/-- The four characters of white space. -/
def isBlank (c : Char) : Bool :=
  c == ' ' || c == '\t' || c == '\n' || c == '\r'

/-- Drops white space at the front. -/
def skipBlanks (cs : List Char) : List Char :=
  cs.dropWhile isBlank

/-- The code unit of four hexadecimal digits. -/
def unit? (a b c d : Char) : Option Nat :=
  Text.hexValue? [a, b, c, d]

/-- The character behind a backslash, other than a code unit. -/
def simpleEscape? : Char → Option Nat
  | '"' => some 0x22
  | '\\' => some 0x5C
  | '/' => some 0x2F
  | 'b' => some 0x08
  | 'f' => some 0x0C
  | 'n' => some 0x0A
  | 'r' => some 0x0D
  | 't' => some 0x09
  | _ => none

/-- The code units of a quoted text up to the closing quote, and the rest. The
    opening quote stood where `opening` characters were left. -/
def readUnits (opening : Nat) : List Char → Except Fault (List Nat × List Char)
  | [] => .error (.malformed .unterminated opening)
  | '"' :: rest => .ok ([], rest)
  | ['\\'] => .error (.malformed .unterminated opening)
  | '\\' :: 'u' :: a :: b :: c :: d :: e :: rest =>
    match unit? a b c d with
    | none => .error (.malformed .unicodeEscape (rest.length + 6))
    | some n => (readUnits opening (e :: rest)).map fun (ns, rest) => (n :: ns, rest)
  | '\\' :: 'u' :: rest => .error (.malformed .unicodeEscape (rest.length + 1))
  | '\\' :: c :: rest =>
    match simpleEscape? c with
    | none => .error (.malformed .escape (rest.length + 2))
    | some n => (readUnits opening rest).map fun (ns, rest) => (n :: ns, rest)
  | c :: rest =>
    if c.toNat < 32 then .error (.malformed .controlCharacter (rest.length + 1))
    else (readUnits opening rest).map fun (ns, rest) => (c.toNat :: ns, rest)

/-- The first half of a character above U+FFFF. -/
def isHighHalf (n : Nat) : Bool :=
  0xD800 ≤ n && n < 0xDC00

/-- The second half of a character above U+FFFF. -/
def isLowHalf (n : Nat) : Bool :=
  0xDC00 ≤ n && n < 0xE000

/-- The character of a code unit that stands alone; half a character has none and
    is read as U+FFFD. -/
def unitChar (n : Nat) : Char :=
  if isHighHalf n || isLowHalf n then '\uFFFD' else Char.ofNat n

/-- Joins code units to characters. -/
def joinUnits : List Nat → List Char
  | [] => []
  | [n] => [unitChar n]
  | n :: m :: rest =>
    if isHighHalf n && isLowHalf m then
      Char.ofNat (0x10000 + (n - 0xD800) * 0x400 + (m - 0xDC00)) :: joinUnits rest
    else unitChar n :: joinUnits (m :: rest)

/-- The characters of a quoted text behind its opening quote, and the rest. -/
def readText (cs : List Char) : Except Fault (List Char × List Char) :=
  (readUnits (cs.length + 1) cs).map fun (ns, rest) => (joinUnits ns, rest)

/-- The whole part of a number: zero alone, or digits that do not begin with it. -/
def wholePart? : List Char → Option (List Char × List Char)
  | '0' :: rest => some (['0'], rest)
  | cs =>
    let (ds, rest) := Numeral.spanDigits cs
    if ds.isEmpty then none else some (ds, rest)

/-- The digits behind a point, if a digit follows it. -/
def fractionPart (cs : List Char) : List Char × List Char :=
  match cs with
  | '.' :: rest =>
    let (ds, after) := Numeral.spanDigits rest
    if ds.isEmpty then ([], cs) else (ds, after)
  | _ => ([], cs)

/-- The exponent, if it has a digit. -/
def exponentPart (cs : List Char) : Option Int × List Char :=
  match cs with
  | c :: rest =>
    if c == 'e' || c == 'E' then
      let (negative, unsigned) := Numeral.readSign rest
      let (ds, after) := Numeral.spanDigits unsigned
      if ds.isEmpty then (none, cs)
      else
        let n : Int := Numeral.natOfDigits ds
        (some (if negative then -n else n), after)
    else (none, cs)
  | [] => (none, cs)

/-- A number at the front of a text, if there is one. A point or an exponent makes
    it a floating point number. -/
def readNumber? (cs : List Char) : Option (Except Fault (Number × List Char)) :=
  let (negative, unsigned) := match cs with
    | '-' :: rest => (true, rest)
    | _ => (false, cs)
  (wholePart? unsigned).map fun (whole, rest) =>
    let (fraction, rest) := fractionPart rest
    let (exponent, rest) := exponentPart rest
    if fraction.isEmpty && exponent.isNone then
      if whole.length > Numeral.digitLimit then .error (.tooLong whole.length)
      else
        let n : Int := Numeral.natOfDigits whole
        .ok (.int (if negative then -n else n), rest)
    else
      .ok (.float (Binary64.ofDecimal negative (Numeral.natOfDigits (whole ++ fraction))
        (exponent.getD 0 - fraction.length)), rest)

/-- The words that stand for values. -/
def words : List (List Char × Value) :=
  [(['n', 'u', 'l', 'l'], .null),
   (['t', 'r', 'u', 'e'], .bool true),
   (['f', 'a', 'l', 's', 'e'], .bool false),
   (['N', 'a', 'N'], .float (.nan 0)),
   (['I', 'n', 'f', 'i', 'n', 'i', 't', 'y'], .float (.infinite false)),
   (['-', 'I', 'n', 'f', 'i', 'n', 'i', 't', 'y'], .float (.infinite true))]

/-- A value at the front of a text that is neither a text nor a collection. -/
def readScalar (cs : List Char) : Except Fault (Value × List Char) :=
  match words.find? fun (word, _) => word.isPrefixOf cs with
  | some (word, v) => .ok (v, cs.drop word.length)
  | none =>
    match readNumber? cs with
    | some result => result.map fun (n, rest) => (.number n, rest)
    | none => .error (.malformed .value cs.length)

mutual

/-- A value at the front of a text. -/
def readValue (fuel depth : Nat) (cs : List Char) : Except Fault (Value × List Char) :=
  match fuel with
  | 0 => .error .tooDeep
  | fuel + 1 =>
    match cs with
    | '"' :: rest => (readText rest).map fun (s, rest) => (.text (String.ofList s), rest)
    | '[' :: rest =>
      match depth with
      | 0 => .error .tooDeep
      | depth + 1 =>
        match skipBlanks rest with
        | ']' :: rest => .ok (.list [], rest)
        | rest => (readMembers fuel depth rest).map fun (vs, rest) => (.list vs, rest)
    | '\x7b' :: rest =>
      match depth with
      | 0 => .error .tooDeep
      | depth + 1 =>
        match skipBlanks rest with
        | '\x7d' :: rest => .ok (.dict [], rest)
        | rest =>
          (readEntries fuel depth rest).map fun (es, rest) => (.dict (Entries.ofPairs es), rest)
    | cs => readScalar cs

/-- The members of a list, of which there is one at least, up to its end. -/
def readMembers (fuel depth : Nat) (cs : List Char) : Except Fault (List Value × List Char) :=
  match fuel with
  | 0 => .error .tooDeep
  | fuel + 1 => do
    let (v, rest) ← readValue fuel depth cs
    match skipBlanks rest with
    | ']' :: rest => .ok ([v], rest)
    | ',' :: rest =>
      let (vs, rest) ← readMembers fuel depth (skipBlanks rest)
      .ok (v :: vs, rest)
    | rest => .error (.malformed .comma rest.length)

/-- The entries of an object, of which there is one at least, up to its end. -/
def readEntries (fuel depth : Nat) (cs : List Char) :
    Except Fault (List (Value × Value) × List Char) :=
  match fuel with
  | 0 => .error .tooDeep
  | fuel + 1 =>
    match cs with
    | '"' :: rest => do
      let (name, rest) ← readText rest
      match skipBlanks rest with
      | ':' :: rest =>
        let (v, rest) ← readValue fuel depth (skipBlanks rest)
        let entry := (Value.text (String.ofList name), v)
        match skipBlanks rest with
        | '\x7d' :: rest => .ok ([entry], rest)
        | ',' :: rest =>
          let (es, rest) ← readEntries fuel depth (skipBlanks rest)
          .ok (entry :: es, rest)
        | rest => .error (.malformed .comma rest.length)
      | rest => .error (.malformed .colon rest.length)
    | cs => .error (.malformed .name cs.length)

end

/-- The value of a whole text. -/
def parseChars (cs : List Char) : Except Fault Value :=
  match cs with
  | '\uFEFF' :: _ => .error (.malformed .byteOrderMark cs.length)
  | _ => do
    let (v, rest) ← readValue (2 * cs.length + 2) depthLimit (skipBlanks cs)
    match skipBlanks rest with
    | [] => .ok v
    | rest => .error (.malformed .extraData rest.length)

/-- The value of a whole text. -/
def parse (s : String) : Except Fault Value :=
  parseChars s.toList

/-- The line and column of a place, both counted from one. -/
def lineAndColumn (before : List Char) : Nat × Nat :=
  (before.count '\n' + 1, (before.reverse.takeWhile (· != '\n')).length + 1)

/-- A problem with its place in the text. -/
def Problem.message (problem : Problem) (text : String) (left : Nat) : String :=
  let cs := text.toList
  let position := cs.length - left
  let (line, column) := lineAndColumn (cs.take position)
  problem.text ++ ": line " ++ toString line ++ " column " ++ toString column ++
    " (char " ++ toString position ++ ")"

end Json

end ServerLaunch
