import ServerLaunch.Text.Utf8
import ServerLaunch.Value

/-!
# Setting Fields

Reading a typed setting from a loosely typed value.

A setting may come from a file that has types of its own, or from an environment
in which everything is text. So a field takes what can be read as its type without
loss: a number or a switch may be written as text, a whole number may come as a
floating point number without a fraction, a truth value counts as one or zero.
Everything else is a fault of the field.

A report of faults says for each of them where it was found, what kind it has and
what it says.

## Main definitions

* `FieldFault`: Why a value does not suit a field, with its code and message.
* `FieldReport`: A fault and where it was found.
* `Field.integer`, `Field.real`, `Field.text`, `Field.switch`, `Field.path`: The
  readers of the types of fields.
-/

namespace ServerLaunch

/-- Why a value does not suit a field. -/
inductive FieldFault where
  | notInteger
  | integerText
  | fraction
  | notFinite
  | integerSize
  | below (bound : Nat)
  | above (bound : Nat)
  | notReal
  | realText
  | notPositive
  | notText
  | textEncoding
  | switchText
  | notSwitch
  | notLevel
  | notPath
  | notSection (model : String)
  | unknownName (name : String)
  | tooLongNumber
deriving DecidableEq, Repr, Inhabited

namespace FieldFault

/-- The code by which a program tells faults apart. -/
def code : FieldFault → String
  | .notInteger => "int_type"
  | .integerText => "int_parsing"
  | .fraction => "int_from_float"
  | .notFinite => "finite_number"
  | .integerSize => "int_parsing_size"
  | .below _ => "greater_than_equal"
  | .above _ => "less_than_equal"
  | .notReal => "float_type"
  | .realText => "float_parsing"
  | .notPositive => "greater_than"
  | .notText => "string_type"
  | .textEncoding => "string_unicode"
  | .switchText => "bool_parsing"
  | .notSwitch => "bool_type"
  | .notLevel => "literal_error"
  | .notPath => "path_type"
  | .notSection _ => "model_type"
  | .unknownName _ => "no_such_attribute"
  | .tooLongNumber => "value_error"

/-- The message for a reader. -/
def message : FieldFault → String
  | .notInteger => "Input should be a valid integer"
  | .integerText => "Input should be a valid integer, unable to parse string as an integer"
  | .fraction => "Input should be a valid integer, got a number with a fractional part"
  | .notFinite => "Input should be a finite number"
  | .integerSize => "Unable to parse input string as an integer, exceeded maximum size"
  | .below bound => "Input should be greater than or equal to " ++ toString bound
  | .above bound => "Input should be less than or equal to " ++ toString bound
  | .notReal => "Input should be a valid number"
  | .realText => "Input should be a valid number, unable to parse string as a number"
  | .notPositive => "Input should be greater than 0"
  | .notText => "Input should be a valid string"
  | .textEncoding => "Input should be a valid string, unable to parse raw data as a unicode string"
  | .switchText => "Input should be a valid boolean, unable to interpret input"
  | .notSwitch => "Input should be a valid boolean"
  | .notLevel => "Input should be 'debug', 'info', 'warning' or 'error'"
  | .notPath => "Input is not a valid path for <class 'pathlib.Path'>"
  | .notSection model => "Input should be a valid dictionary or instance of " ++ model
  | .unknownName name => "Object has no attribute '" ++ name ++ "'"
  | .tooLongNumber => "Value error, " ++ Numeral.tooLongToWriteMessage

end FieldFault

/-- A fault and the names that lead to where it was found. -/
structure FieldReport where
  location : List String
  fault : FieldFault
deriving DecidableEq, Repr, Inhabited

namespace Field

/-- The bound of whole numbers that a floating point number may stand for. It is excluded
    on both sides, although the least machine integer is its negative. -/
def integerBound : Int := Nat.pow 2 63

/-- A whole number from a floating point number without a fraction. -/
def integerOfReal (x : Binary64) : Except FieldFault Int :=
  match x with
  | .finite .. =>
    match x.toInt? with
    | none => .error .fraction
    | some i => if -integerBound < i ∧ i < integerBound then .ok i else .error .integerSize
  | _ => .error .notFinite

/-- A whole number from a text. -/
def integerOfText (s : String) : Except FieldFault Int :=
  match Numeral.settingInteger s with
  | .ok i => .ok i
  | .error .malformed => .error .integerText
  | .error (.tooLong _) => .error .integerSize

/-- A whole number. -/
def integer : Value → Except FieldFault Int
  | .number (.int i) => .ok i
  | .number (.float x) => integerOfReal x
  | .bool b => .ok (if b then 1 else 0)
  | .text s => integerOfText s
  | .octets bs =>
    match Utf8.decode? bs with
    | some s => integerOfText s
    | none => .error .integerText
  | _ => .error .notInteger

/-- A floating point number from a text. -/
def realOfText (s : String) : Except FieldFault Binary64 :=
  match Numeral.settingFloat? s with
  | some x => .ok x
  | none => .error .realText

/-- A floating point number. -/
def real : Value → Except FieldFault Binary64
  | .number n =>
    match n.toBinary64? with
    | some x => .ok x
    | none => .error .notReal
  | .bool b => .ok (Binary64.ofInt (if b then 1 else 0))
  | .text s => realOfText s
  | .octets bs =>
    match Utf8.decode? bs with
    | some s => realOfText s
    | none => .error .realText
  | _ => .error .notReal

/-- A floating point number above zero. -/
def positiveReal (v : Value) : Except FieldFault Binary64 :=
  match real v with
  | .ok x => if x.isPositive then .ok x else .error .notPositive
  | .error fault => .error fault

/-- A text. -/
def text : Value → Except FieldFault String
  | .text s => .ok s
  | .octets bs =>
    match Utf8.decode? bs with
    | some s => .ok s
    | none => .error .textEncoding
  | _ => .error .notText

/-- The words for a switch that is off, and for one that is on. -/
def switchWords : List (String × Bool) :=
  [("0", false), ("off", false), ("f", false), ("false", false), ("n", false), ("no", false),
    ("1", true), ("on", true), ("t", true), ("true", true), ("y", true), ("yes", true)]

/-- A switch from a word, whatever the case of its letters. -/
def switchOfText (s : String) : Except FieldFault Bool :=
  match switchWords.lookup (String.ofList (s.toList.map Char.toLower)) with
  | some b => .ok b
  | none => .error .switchText

/-- A switch from a whole number, which has to be one or zero. -/
def switchOfInteger (i : Int) : Except FieldFault Bool :=
  if i = 0 then .ok false
  else if i = 1 then .ok true
  else if -integerBound ≤ i ∧ i < integerBound then .error .switchText
  else .error .notSwitch

/-- A switch. -/
def switch : Value → Except FieldFault Bool
  | .bool b => .ok b
  | .text s => switchOfText s
  | .octets bs =>
    match Utf8.decode? bs with
    | some s => switchOfText s
    | none => .error .switchText
  | .number (.int i) => switchOfInteger i
  | .number (.float x) =>
    match integerOfReal x with
    | .ok i => switchOfInteger i
    | .error _ => .error .notSwitch
  | _ => .error .notSwitch

/-- A path, or null for none. -/
def path : Value → Except FieldFault (Option Path)
  | .null => .ok none
  | .text s => .ok (some (Path.ofString s))
  | .path p => .ok (some p)
  | _ => .error .notPath

/-- A text without the blanks around it; nothing but blanks is as good as nothing.
    Any value will do, by the text that stands for it, if it has one: a number that is too
    long cannot be written. -/
def trimmedText (v : Value) : Except FieldFault (Option String) :=
  match v with
  | .null => .ok none
  | v =>
    let s := Text.trimmed v.displayText
    if v.hasLongNumber then .error .tooLongNumber
    else .ok (if s.toList.isEmpty then none else some s)

end Field

end ServerLaunch
