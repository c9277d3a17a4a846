import ServerLaunch.Text.Hex
import ServerLaunch.Value

/-!
# Writing JSON

Values as JSON in two forms.

The compact form keeps every character that JSON allows in a text and puts no
blank anywhere; it is meant for one argument of a command line. Names of an object
are texts: the names of other simple values are written as the text of the value,
and any other name is refused. A value that JSON has no form for is written as the
text it has in a message.

The ASCII form is for lists of texts alone. It is one line of printable ASCII, with
everything else as code units.

## Main definitions

* `escapeChar`, `textToken`: Texts in the compact form.
* `write`: A value in the compact form.
* `asciiTextToken`, `asciiList`: Lists of texts in the ASCII form.
-/

namespace ServerLaunch

namespace Json

/-- Why a value is not written: there is none, or an object has a name that cannot
    be written as a text. -/
inductive WriteFault where
  | nothing
  | name (key : Value)
deriving Repr

/-- A control character behind a backslash. -/
def controlEscape (c : Char) : List Char :=
  match c with
  | '\n' => ['\\', 'n']
  | '\r' => ['\\', 'r']
  | '\t' => ['\\', 't']
  | '\x0c' => ['\\', 'f']
  | '\x08' => ['\\', 'b']
  | _ => '\\' :: 'u' :: Text.hex 4 c.toNat

/-- One character of a text in the compact form. -/
def escapeChar (c : Char) : List Char :=
  if c == '"' || c == '\\' then ['\\', c]
  else if c.toNat < 32 then controlEscape c
  else [c]

/-- A text in the compact form. -/
def textToken (cs : List Char) : List Char :=
  '"' :: (cs.flatMap escapeChar ++ ['"'])

/-- Floating point numbers are written as in messages, but with the words that a
    reader of JSON knows for the special values. -/
def tokenLayout : Binary64.Layout :=
  { Binary64.messageLayout with infinityText := "Infinity", nanText := "NaN" }

/-- A number. -/
def numberToken : Number → List Char
  | .int i => Numeral.intChars i
  | .float x => tokenLayout.write x

/-- A truth value. -/
def boolToken (b : Bool) : List Char :=
  if b then ['t', 'r', 'u', 'e'] else ['f', 'a', 'l', 's', 'e']

/-- The null value. -/
def nullToken : List Char :=
  ['n', 'u', 'l', 'l']

/-- A name of an object. -/
def nameToken : Value → Except WriteFault (List Char)
  | .text s => .ok (textToken s.toList)
  | .number n => .ok (textToken (numberToken n))
  | .bool b => .ok (textToken (boolToken b))
  | .null => .ok (textToken nullToken)
  | key => .error (.name key)

/-- Tokens with commas between them. -/
def commaTokens (tokens : List (List Char)) : List Char :=
  [','].intercalate tokens

mutual

/-- A value in the compact form. -/
def write : Value → Except WriteFault (List Char)
  | .null => .ok nullToken
  | .bool b => .ok (boolToken b)
  | .number n => .ok (numberToken n)
  | .text s => .ok (textToken s.toList)
  | .list vs => (writeMembers vs).map fun ts => '[' :: (commaTokens ts ++ [']'])
  | .tuple vs => (writeMembers vs).map fun ts => '[' :: (commaTokens ts ++ [']'])
  | .dict es => (writeEntries es).map fun ts => '\x7b' :: (commaTokens ts ++ ['\x7d'])
  | .set vs => .ok (textToken (Value.set vs).display)
  | .caps es => .ok (textToken (Value.caps es).display)
  | .path p => .ok (textToken (Value.path p).display)
  | .octets bs => .ok (textToken (Value.octets bs).display)
  | .moment m => .ok (textToken (Value.moment m).display)
termination_by structural v => v

/-- The members of a list in the compact form. -/
def writeMembers : List Value → Except WriteFault (List (List Char))
  | [] => .ok []
  | v :: vs => do
    let t ← write v
    let ts ← writeMembers vs
    .ok (t :: ts)
termination_by structural vs => vs

/-- The entries of an object in the compact form. -/
def writeEntries : List (Value × Value) → Except WriteFault (List (List Char))
  | [] => .ok []
  | (k, v) :: es => do
    let name ← nameToken k
    let t ← write v
    let ts ← writeEntries es
    .ok ((name ++ ':' :: t) :: ts)
termination_by structural es => es

end

/-- A code unit behind a backslash. -/
def unitEscape (n : Nat) : List Char :=
  '\\' :: 'u' :: Text.hex 4 n

/-- A character that ASCII has no printable form for, as one or two code units. -/
def codeUnits (c : Char) : List Char :=
  let n := c.toNat
  if n < 0x10000 then unitEscape n
  else unitEscape (0xD800 + (n - 0x10000) / 0x400) ++ unitEscape (0xDC00 + (n - 0x10000) % 0x400)

/-- One character of a text in the ASCII form. -/
def asciiEscapeChar (c : Char) : List Char :=
  if c == '"' || c == '\\' then ['\\', c]
  else if c.toNat < 32 then controlEscape c
  else if c.toNat < 127 then [c]
  else codeUnits c

/-- A text in the ASCII form. -/
def asciiTextToken (cs : List Char) : List Char :=
  '"' :: (cs.flatMap asciiEscapeChar ++ ['"'])

/-- A list of texts in the ASCII form, with a blank behind each comma. -/
def asciiListChars (texts : List (List Char)) : List Char :=
  '[' :: ([',', ' '].intercalate (texts.map asciiTextToken) ++ [']'])

/-- A list of texts in the ASCII form. -/
def asciiList (texts : List String) : String :=
  String.ofList (asciiListChars (texts.map String.toList))

end Json

end ServerLaunch
