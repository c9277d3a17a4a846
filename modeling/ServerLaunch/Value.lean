import ServerLaunch.Moment
import ServerLaunch.Number
import ServerLaunch.Path
import ServerLaunch.Text.Quoted

/-!
# Values

The values that capabilities and settings may have.

Capabilities are whatever a user wants the server to know, so their values are
open: numbers, texts, collections of every kind, and capability sets again. A
mapping keeps its entries in the order in which their keys first came in.

Two texts belong to each value. `literal` is the one a collection shows for its
members and tells a text from a number; `display` is the same except that a text,
a path or a moment stands for itself. Comparison follows the numbers: a truth value
is the number one or zero, and a whole and a floating point number with one value
are equal, as members and as keys.

## Main definitions

* `Value`: The values.
* `Value.same`: Equality, by which keys are compared too.
* `Value.isTruthy`: Values that count as present.
* `Value.literal`, `Value.display`: The two texts.
* `Value.hasLongNumber`: Values that cannot be written.
* `Value.isKey`: Values that can be keys.
-/

namespace ServerLaunch

/-- A value of a capability or of a setting. Sets have one member at most, and
    entries of mappings are in order of insertion. -/
inductive Value where
  | null
  | bool (b : Bool)
  | number (n : Number)
  | text (s : String)
  | list (vs : List Value)
  | tuple (vs : List Value)
  | set (vs : List Value)
  | dict (es : List (Value × Value))
  | caps (es : List (Value × Value))
  | path (p : Path)
  | octets (bs : List UInt8)
  | moment (m : Moment)
deriving Inhabited, Repr

/-- The entries of a mapping, in order. -/
abbrev Entries := List (Value × Value)

namespace Value

/-- A whole number. -/
def int (i : Int) : Value :=
  .number (.int i)

/-- A floating point number. -/
def float (x : Binary64) : Value :=
  .number (.float x)

/-- The number that a value is; truth values are one and zero. -/
def number? : Value → Option Number
  | .bool b => some (.int (if b then 1 else 0))
  | .number n => some n
  | _ => none

/-- The entries of a mapping of either kind. -/
def entries? : Value → Option Entries
  | .dict es => some es
  | .caps es => some es
  | _ => none

/-- Equality of numbers as members: an object is the same as itself even if it is
    no number. -/
def sameNumber (m n : Number) : Bool :=
  m.equals n || decide (m = n)

mutual

/-- Equality of values. Lists and tuples are equal member by member to their own
    kind, mappings of both kinds if they have equal entries in any order. -/
def same : Value → Value → Bool
  | .null, w => match w with | .null => true | _ => false
  | .bool b, w => match w.number? with
    | some n => sameNumber (.int (if b then 1 else 0)) n
    | none => false
  | .number m, w => match w.number? with
    | some n => sameNumber m n
    | none => false
  | .text s, w => match w with | .text t => s == t | _ => false
  | .list vs, w => match w with | .list ws => sameMembers vs ws | _ => false
  | .tuple vs, w => match w with | .tuple ws => sameMembers vs ws | _ => false
  | .set vs, w => match w with
    | .set ws => vs.length == ws.length && membersWithin vs ws
    | _ => false
  | .dict es, w => match w.entries? with
    | some fs => es.length == fs.length && entriesWithin es fs
    | none => false
  | .caps es, w => match w.entries? with
    | some fs => es.length == fs.length && entriesWithin es fs
    | none => false
  | .path p, w => match w with | .path q => p == q | _ => false
  | .octets bs, w => match w with | .octets cs => bs == cs | _ => false
  | .moment m, w => match w with | .moment n => m == n | _ => false
termination_by structural v => v

/-- Equality member by member. -/
def sameMembers : List Value → List Value → Bool
  | [], ws => ws.isEmpty
  | v :: vs, ws => match ws with
    | [] => false
    | w :: ws => v.same w && sameMembers vs ws
termination_by structural vs => vs

/-- Whether every member has an equal one in the other collection. -/
def membersWithin : List Value → List Value → Bool
  | [], _ => true
  | v :: vs, ws => ws.any (fun w => v.same w) && membersWithin vs ws
termination_by structural vs => vs

/-- Whether every entry has an equal one in the other mapping. -/
def entriesWithin : List (Value × Value) → List (Value × Value) → Bool
  | [], _ => true
  | (k, v) :: es, fs => fs.any (fun e => k.same e.1 && v.same e.2) && entriesWithin es fs
termination_by structural es => es

end

/-- Values that count as present: no null, zero, false, or empty collection. -/
def isTruthy : Value → Bool
  | .null => false
  | .bool b => b
  | .number n => !n.isZero
  | .text s => !s.toList.isEmpty
  | .list vs | .tuple vs | .set vs => !vs.isEmpty
  | .dict es | .caps es => !es.isEmpty
  | .path _ => true
  | .octets bs => !bs.isEmpty
  | .moment _ => true

/-- Pieces with a comma and a blank between two of them. -/
def commaJoin (pieces : List (List Char)) : List Char :=
  [',', ' '].intercalate pieces

/-- Pieces between two brackets. -/
def bracketed (opening closing : List Char) (pieces : List (List Char)) : List Char :=
  opening ++ commaJoin pieces ++ closing

mutual

/-- The text of a value as a collection shows it. -/
def literal : Value → List Char
  | .null => "None".toList
  | .bool b => if b then "True".toList else "False".toList
  | .number n => n.text.toList
  | .text s => Text.quotedChars s.toList
  | .list vs => bracketed ['['] [']'] (literals vs)
  | .tuple [v] => '(' :: (v.literal ++ [',', ')'])
  | .tuple vs => bracketed ['('] [')'] (literals vs)
  | .set [] => "set()".toList
  | .set vs => bracketed ['\x7b'] ['\x7d'] (literals vs)
  | .dict es => bracketed ['\x7b'] ['\x7d'] (entryLiterals es)
  | .caps es => "Capabilities(".toList ++ bracketed ['\x7b'] ['\x7d'] (entryLiterals es) ++ [')']
  | .path p => "PosixPath(".toList ++ Text.quotedChars p.toText.toList ++ [')']
  | .octets bs => (Text.quotedOctets bs).toList
  | .moment m => m.literal
termination_by structural v => v

/-- The texts of several values. -/
def literals : List Value → List (List Char)
  | [] => []
  | v :: vs => v.literal :: literals vs
termination_by structural vs => vs

/-- The texts of entries: the key, a colon, the value. -/
def entryLiterals : List (Value × Value) → List (List Char)
  | [] => []
  | (k, v) :: es => (k.literal ++ ':' :: ' ' :: v.literal) :: entryLiterals es
termination_by structural es => es

end

mutual

/-- Whether a value is a whole number that is too long to be written, or has one
    somewhere in it. -/
def hasLongNumber : Value → Bool
  | .number (.int i) => Numeral.isTooLong i
  | .list vs | .tuple vs | .set vs => membersHaveLongNumber vs
  | .dict es | .caps es => entriesHaveLongNumber es
  | _ => false
termination_by structural v => v

/-- The same for members. -/
def membersHaveLongNumber : List Value → Bool
  | [] => false
  | v :: vs => v.hasLongNumber || membersHaveLongNumber vs
termination_by structural vs => vs

/-- The same for entries. -/
def entriesHaveLongNumber : List (Value × Value) → Bool
  | [] => false
  | (k, v) :: es => k.hasLongNumber || v.hasLongNumber || entriesHaveLongNumber es
termination_by structural es => es

end

mutual

/-- Whether a value can be the key of an entry or the member of a set: one that cannot be
    changed, and is not made of any that can. -/
def isKey : Value → Bool
  | .list _ | .set _ | .dict _ | .caps _ => false
  | .tuple vs => areKeys vs
  | _ => true
termination_by structural v => v

/-- Whether all members can be keys. -/
def areKeys : List Value → Bool
  | [] => true
  | v :: vs => v.isKey && areKeys vs
termination_by structural vs => vs

end

/-- The text of a value in running text. -/
def display : Value → List Char
  | .text s => s.toList
  | .path p => p.toText.toList
  | .moment m => m.display
  | v => v.literal

/-- The text of a value in running text. -/
def displayText (v : Value) : String :=
  String.ofList v.display

end Value

end ServerLaunch
