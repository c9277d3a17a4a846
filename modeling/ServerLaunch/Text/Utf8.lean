/-!
# Reading UTF-8

The octets of a text, read one at a time.

An octet string need not be well formed. The reader then reports one fault for
each longest run of octets that could have begun a character, and goes on with
the octet that broke the run. Whoever tolerates faults puts a replacement
character for each; whoever does not refuses the whole.

The state between two octets is what is still missing of a character, so a text
may be cut anywhere and be read in pieces.

## Main definitions

* `Pending`: A character of which some octets are missing.
* `Reading`: The state between two octets, and one step of it.
* `decode`: The characters and faults of an octet string.
* `decodeLossy`: Faults become U+FFFD.
* `decode?`: Any fault refuses the text.
-/

namespace ServerLaunch

namespace Utf8

/-- A character of which `missing` octets are still to come. The next octet has to
    lie between `least` and `most`; the bits read so far are in `bits`. -/
structure Pending where
  missing : Nat
  least : Nat
  most : Nat
  bits : Nat
deriving DecidableEq, Repr

/-- What a piece of input amounts to: characters, and `none` for each fault. -/
abbrev Symbols := List (Option Char)

/-- An octet where a character has to begin. The bounds on the next octet rule out
    overlong forms, surrogates, and codes above U+10FFFF. -/
def start (b : UInt8) : Symbols × Option Pending :=
  let n := b.toNat
  if n < 0x80 then ([some (Char.ofNat n)], none)
  else if n < 0xC2 then ([none], none)
  else if n < 0xE0 then ([], some ⟨1, 0x80, 0xBF, n - 0xC0⟩)
  else if n < 0xF0 then
    ([], some ⟨2, if n == 0xE0 then 0xA0 else 0x80, if n == 0xED then 0x9F else 0xBF, n - 0xE0⟩)
  else if n < 0xF5 then
    ([], some ⟨3, if n == 0xF0 then 0x90 else 0x80, if n == 0xF4 then 0x8F else 0xBF, n - 0xF0⟩)
  else ([none], none)

/-- One octet: it continues the pending character, or ends it as a fault and
    begins anew. -/
def step (pending : Option Pending) (b : UInt8) : Symbols × Option Pending :=
  match pending with
  | none => start b
  | some p =>
    let n := b.toNat
    if p.least ≤ n && n ≤ p.most then
      let bits := 64 * p.bits + (n - 0x80)
      if p.missing ≤ 1 then ([some (Char.ofNat bits)], none)
      else ([], some ⟨p.missing - 1, 0x80, 0xBF, bits⟩)
    else
      let (symbols, next) := start b
      (none :: symbols, next)

/-- What the end of the input makes of the pending character: a fault. -/
def finish : Option Pending → Symbols
  | none => []
  | some _ => [none]

/-- The characters and faults of an octet string, read on from a state. -/
def decodeFrom (pending : Option Pending) : List UInt8 → Symbols
  | [] => finish pending
  | b :: rest => (step pending b).1 ++ decodeFrom (step pending b).2 rest

/-- The characters and faults of an octet string. -/
def decode (bs : List UInt8) : Symbols :=
  decodeFrom none bs

/-- The character shown for a symbol: U+FFFD for a fault. -/
def shown (symbol : Option Char) : Char :=
  symbol.getD '\uFFFD'

/-- The text of an octet string, with U+FFFD for each fault. -/
def decodeLossy (bs : List UInt8) : List Char :=
  (decode bs).map shown

/-- The characters, if there is no fault among the symbols. -/
def allChars : Symbols → Option (List Char)
  | [] => some []
  | none :: _ => none
  | some c :: rest => (allChars rest).map (c :: ·)

/-- The text of an octet string, if it is UTF-8 throughout. -/
def decode? (bs : List UInt8) : Option String :=
  (allChars (decode bs)).map String.ofList

example : decodeLossy [0x61, 0xE2, 0x82, 0x62, 0xFF] = ['a', '\uFFFD', 'b', '\uFFFD'] := by decide

end Utf8

end ServerLaunch
