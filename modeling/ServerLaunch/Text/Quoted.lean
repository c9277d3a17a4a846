import ServerLaunch.Text.Hex
import ServerLaunch.Text.Printable

/-!
# Quoted Texts

The form in which a message shows a text that a user supplied: between quotes,
with everything escaped that would not be seen on a screen.

Single quotes are used unless the text has a single quote and no double quote, so
that at most one of the two ever needs a backslash. Octets are shown by the same
rule, except that everything outside ASCII is escaped.

## Main definitions

* `quoteFor`: The quote a text is put between.
* `escaped`: One character as it stands inside the quotes.
* `quoted`: A text between quotes.
* `quotedOctets`: A run of octets between quotes, marked by a leading `b`.
-/

namespace ServerLaunch

namespace Text

/-- The quote a text is put between: a double quote only where it saves escaping
    a single one. -/
def quoteFor (cs : List Char) : Char :=
  if cs.contains '\'' && !cs.contains '"' then '"' else '\''

/-- The code of a character behind a backslash, in the shortest of three widths. -/
def codeEscape (n : Nat) : List Char :=
  if n < 0x100 then '\\' :: 'x' :: hex 2 n
  else if n < 0x10000 then '\\' :: 'u' :: hex 4 n
  else '\\' :: 'U' :: hex 8 n

/-- One character inside quotes of the given kind. -/
def escaped (quote : Char) (c : Char) : List Char :=
  if c == quote || c == '\\' then ['\\', c]
  else if c == '\t' then ['\\', 't']
  else if c == '\n' then ['\\', 'n']
  else if c == '\r' then ['\\', 'r']
  else if isPrintable c then [c]
  else codeEscape c.toNat

/-- A list of characters between quotes. -/
def quotedChars (cs : List Char) : List Char :=
  let quote := quoteFor cs
  quote :: (cs.flatMap (escaped quote) ++ [quote])

/-- A text between quotes. -/
def quoted (s : String) : String :=
  String.ofList (quotedChars s.toList)

/-- One octet inside quotes of the given kind. -/
def escapedOctet (quote : Char) (b : UInt8) : List Char :=
  let c := Char.ofNat b.toNat
  if c == quote || c == '\\' then ['\\', c]
  else if c == '\t' then ['\\', 't']
  else if c == '\n' then ['\\', 'n']
  else if c == '\r' then ['\\', 'r']
  else if 32 ≤ b.toNat && b.toNat < 127 then [c]
  else codeEscape b.toNat

/-- A run of octets between quotes. -/
def quotedOctets (bs : List UInt8) : String :=
  let quote := quoteFor (bs.map fun b => Char.ofNat b.toNat)
  String.ofList ('b' :: quote :: (bs.flatMap (escapedOctet quote) ++ [quote]))

end Text

end ServerLaunch
