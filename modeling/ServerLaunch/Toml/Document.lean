import ServerLaunch.Toml.Scalar
import ServerLaunch.Value.Entries

/-!
# TOML Documents

A table from the text of a TOML document.

A document is a sequence of statements: headers, which open a table or add one to a
list of tables, and assignments of a value to a key in the table that was opened last.
Keys with dots lead through tables, which come into being on the way; where the way
leads through a list of tables, it goes to the last of them.

Most rules of the format say what may not be done twice. They are kept as marks on
keys. A key marked as declared may not be opened by a header or be led through by an
assignment again. A key marked as closed may not be touched at all, nor anything below
it; lists and tables written in place are closed as soon as they are read. A table that
an assignment leads through counts as declared from the next header on.

## Main definitions

* `readKey`: A key with its dots.
* `readValue`, `readItems`, `readFields`: Values.
* `Marks`: What may not be done again.
* `alterNest?`: A change of the table that a key leads to.
* `parse`: The table of a document.
-/

namespace ServerLaunch

namespace Toml

/-- The parts of a key. -/
abbrev Key := List String

/-- Characters that a part of a key may have without quotes. -/
def isBareKeyChar (c : Char) : Bool :=
  c.isAlphanum || c == '-' || c == '_'

/-- One part of a key. -/
def readKeyPart (cs : List Char) : Reading String :=
  match cs with
  | [] => .error .malformed
  | '"' :: rest =>
    (readEscaped false .characters rest).map fun (s, rest) => (String.ofList s, rest)
  | '\'' :: rest => (readPlain false rest).map fun (s, rest) => (String.ofList s, rest)
  | cs =>
    match cs.span isBareKeyChar with
    | ([], _) => .error .malformed
    | (part, rest) => .ok (String.ofList part, rest)

/-- A key with its dots, and with the blanks around them and behind it. The fuel is the
    length of the text. -/
def readKey (fuel : Nat) (cs : List Char) : Except Fault (Key × List Char) :=
  match fuel with
  | 0 => .error .malformed
  | fuel + 1 => do
    let (part, rest) ← readKeyPart cs
    match skipBlanks rest with
    | '.' :: rest =>
      let (parts, rest) ← readKey fuel (skipBlanks rest)
      .ok (part :: parts, rest)
    | rest => .ok ([part], rest)

/-- The comment at the front of a text, if there is one, is dropped up to the end of
    its line. -/
def skipComment (cs : List Char) : Except Fault (List Char) :=
  match cs with
  | '#' :: rest =>
    let (comment, rest) := rest.span (· != '\n')
    if comment.any isControl then .error .malformed else .ok rest
  | cs => .ok cs

/-- Drops blanks, ends of lines and comments, as they may stand inside a list. The fuel
    is the length of the text. -/
def skipLines (fuel : Nat) (cs : List Char) : Except Fault (List Char) :=
  match fuel with
  | 0 => .ok cs
  | fuel + 1 =>
    match cs.dropWhile fun c => isBlank c || c == '\n' with
    | '#' :: rest => do skipLines fuel (← skipComment ('#' :: rest))
    | rest => .ok rest

/-- Whether a value is a table or a list. -/
def isCollection : Value → Bool
  | .dict _ | .list _ => true
  | _ => false

/-- A mark on a key. -/
inductive Mark where
  | declared
  | closed
deriving DecidableEq, Repr

/-- Marked keys. A mark of the second kind holds for everything below its key too. -/
abbrev Marks := List (Key × Mark)

namespace Marks

/-- Whether a key is marked as declared. -/
def isDeclared (marks : Marks) (key : Key) : Bool :=
  marks.any fun (k, mark) => mark == .declared && k == key

/-- Whether a key is marked as closed, by itself or by one above it. -/
def isClosed (marks : Marks) (key : Key) : Bool :=
  marks.any fun (k, mark) => mark == .closed && k.isPrefixOf key

/-- Drops the marks of a key and of all below it. -/
def release (marks : Marks) (key : Key) : Marks :=
  marks.filter fun (k, _) => !key.isPrefixOf k

end Marks

/-- Puts something in place of the last member of a list. -/
def alterLast? (f : Value → Option Value) : List Value → Option (List Value)
  | [] => none
  | [v] => (f v).map ([·])
  | v :: vs => (alterLast? f vs).map (v :: ·)

/-- A change of the table that a key leads to. Tables that are missing on the way come
    into being; other values bar the way. Lists of tables are passed through by their
    last member, if that is asked for. -/
def alterNest? (throughLists : Bool) (f : Entries → Option Entries) :
    Key → Entries → Option Entries
  | [], es => f es
  | part :: parts, es =>
    let enter : Value → Option Value
      | .dict inner => (alterNest? throughLists f parts inner).map Value.dict
      | _ => none
    let next? := match Entries.getText? es part with
      | none => enter (.dict [])
      | some (.list vs) => if throughLists then (alterLast? enter vs).map Value.list else none
      | some v => enter v
    next?.map fun v => Entries.insert es (.text part) v

/-- Gives the last part of a key a value in the table that the others lead to, unless it
    has one. -/
def assign? (throughLists : Bool) (parents : Key) (stem : String) (v : Value) (es : Entries) :
    Option Entries :=
  alterNest? throughLists (fun inner =>
    if Entries.has inner (.text stem) then none
    else some (Entries.insert inner (.text stem) v)) parents es

/-- Adds a table to the list of tables that a key leads to. -/
def appendTable? (parents : Key) (stem : String) (es : Entries) : Option Entries :=
  alterNest? true (fun inner =>
    match Entries.getText? inner stem with
    | none => some (Entries.insert inner (.text stem) (.list [.dict []]))
    | some (.list vs) => some (Entries.insert inner (.text stem) (.list (vs ++ [.dict []])))
    | some _ => none) parents es

/-- Opens the table that a key leads to. -/
def openTable? (key : Key) (es : Entries) : Option Entries :=
  alterNest? true some key es

/-- What a rule allows, or else a fault. -/
def allowed {α : Type} : Option α → Except Fault α
  | some a => .ok a
  | none => .error .malformed

/-- How deep brackets may nest. -/
def depthLimit : Nat := 480

/-- A value that is neither a list nor a table. -/
def readScalar (cs : List Char) : Reading Value :=
  match readText? cs with
  | some result => result.map fun (s, rest) => (.text (String.ofList s), rest)
  | none =>
    if ['t', 'r', 'u', 'e'].isPrefixOf cs then .ok (.bool true, cs.drop 4)
    else if ['f', 'a', 'l', 's', 'e'].isPrefixOf cs then .ok (.bool false, cs.drop 5)
    else
      match readMoment? cs with
      | some result => result.map fun (m, rest) => (.moment m, rest)
      | none =>
        match readNumber? cs with
        | some result => result.map fun (n, rest) => (.number n, rest)
        | none => .error .malformed

mutual

/-- A value at the front of a text. -/
def readValue (fuel depth : Nat) (cs : List Char) : Reading Value :=
  match fuel with
  | 0 => .error .tooDeep
  | fuel + 1 =>
    match cs with
    | '[' :: rest =>
      match depth with
      | 0 => .error .tooDeep
      | depth + 1 => (readItems fuel depth rest).map fun (vs, rest) => (.list vs, rest)
    | '\x7b' :: rest =>
      match depth with
      | 0 => .error .tooDeep
      | depth + 1 =>
        match skipBlanks rest with
        | '\x7d' :: rest => .ok (.dict [], rest)
        | rest => (readFields fuel depth [] [] rest).map fun (es, rest) => (.dict es, rest)
    | cs => readScalar cs

/-- The members of a list, up to its end. -/
def readItems (fuel depth : Nat) (cs : List Char) : Except Fault (List Value × List Char) :=
  match fuel with
  | 0 => .error .tooDeep
  | fuel + 1 => do
    match ← skipLines cs.length cs with
    | ']' :: rest => .ok ([], rest)
    | cs =>
      let (v, rest) ← readValue fuel depth cs
      match ← skipLines rest.length rest with
      | ']' :: rest => .ok ([v], rest)
      | ',' :: rest =>
        let (vs, rest) ← readItems fuel depth rest
        .ok (v :: vs, rest)
      | _ => .error .malformed

/-- The entries of a table written in place, of which there is one at least, up to its
    end. -/
def readFields (fuel depth : Nat) (marks : Marks) (es : Entries) (cs : List Char) :
    Except Fault (Entries × List Char) :=
  match fuel with
  | 0 => .error .tooDeep
  | fuel + 1 => do
    let (key, rest) ← readKey cs.length cs
    match rest with
    | '=' :: rest =>
      let (v, rest) ← readValue fuel depth (skipBlanks rest)
      if marks.isClosed key then .error .malformed
      else
        let es ← allowed (assign? false key.dropLast (key.getLast?.getD "") v es)
        match skipBlanks rest with
        | '\x7d' :: rest => .ok (es, rest)
        | ',' :: rest =>
          let marks := if isCollection v then (key, .closed) :: marks else marks
          readFields fuel depth marks es (skipBlanks rest)
        | _ => .error .malformed
    | _ => .error .malformed

end

/-- What was read of a document: the table, the marks, keys that are marked at the next
    header, and the key of the last header. -/
structure Document where
  table : Entries
  marks : Marks
  pending : List Key
  header : Key
deriving Repr

/-- The proper beginnings of a key, without the empty one. -/
def beginnings : Key → List Key
  | [] => []
  | [_] => []
  | part :: parts => [part] :: (beginnings parts).map (part :: ·)

namespace Document

/-- The document before its first statement. -/
def empty : Document :=
  ⟨[], [], [], []⟩

/-- Marks the pending keys. -/
def settle (d : Document) : Document :=
  { d with marks := d.pending.map (fun key => (key, Mark.declared)) ++ d.marks, pending := [] }

/-- Opens a table. -/
def openTable (d : Document) (key : Key) : Except Fault Document := do
  if d.marks.isDeclared key || d.marks.isClosed key then .error .malformed
  else
    let table ← allowed (openTable? key d.table)
    .ok { d with table, marks := (key, .declared) :: d.marks, header := key }

/-- Adds a table to a list of tables. What was declared below the one before is free
    again. -/
def appendTable (d : Document) (key : Key) : Except Fault Document := do
  if d.marks.isClosed key then .error .malformed
  else
    let table ← allowed (appendTable? key.dropLast (key.getLast?.getD "") d.table)
    .ok { d with table, marks := (key, .declared) :: d.marks.release key, header := key }

/-- Gives a key a value. -/
def assign (d : Document) (key : Key) (v : Value) : Except Fault Document := do
  let parents := d.header ++ key.dropLast
  let through := (beginnings key).map (d.header ++ ·)
  if through.any d.marks.isDeclared || d.marks.isClosed parents then .error .malformed
  else
    let table ← allowed (assign? true parents (key.getLast?.getD "") v d.table)
    let marks := if isCollection v then (d.header ++ key, .closed) :: d.marks else d.marks
    .ok { d with table, marks, pending := through ++ d.pending }

end Document

/-- One statement, and what is left of its line. -/
def readStatement (d : Document) (cs : List Char) : Except Fault (Document × List Char) :=
  match cs with
  | '[' :: '[' :: rest => do
    let (key, rest) ← readKey rest.length (skipBlanks rest)
    let d ← d.settle.appendTable key
    match rest with
    | ']' :: ']' :: rest => .ok (d, rest)
    | _ => .error .malformed
  | '[' :: rest => do
    let (key, rest) ← readKey rest.length (skipBlanks rest)
    let d ← d.settle.openTable key
    match rest with
    | ']' :: rest => .ok (d, rest)
    | _ => .error .malformed
  | cs => do
    let (key, rest) ← readKey cs.length cs
    match rest with
    | '=' :: rest =>
      let (v, rest) ← readValue (2 * rest.length + 2) depthLimit (skipBlanks rest)
      .ok (← d.assign key v, rest)
    | _ => .error .malformed

/-- The statements of a document, one on a line. The fuel is the length of the text, of
    which every line takes a character. -/
def readStatements (fuel : Nat) (d : Document) (cs : List Char) : Except Fault Document :=
  match fuel, skipBlanks cs with
  | _, [] => .ok d
  | 0, _ :: _ => .error .malformed
  | fuel + 1, '\n' :: rest => readStatements fuel d rest
  | fuel + 1, '#' :: rest => do
    match ← skipComment ('#' :: rest) with
    | [] => .ok d
    | _ :: rest => readStatements fuel d rest
  | fuel + 1, cs => do
    let (d, rest) ← readStatement d cs
    match ← skipComment (skipBlanks rest) with
    | [] => .ok d
    | '\n' :: rest => readStatements fuel d rest
    | _ => .error .malformed

/-- Writes every end of line as a line feed alone. -/
def plainLineEnds : List Char → List Char
  | '\r' :: '\n' :: rest => '\n' :: plainLineEnds rest
  | c :: rest => c :: plainLineEnds rest
  | [] => []

/-- The table of a document. -/
def parse (s : String) : Except Fault Entries :=
  let cs := plainLineEnds s.toList
  (readStatements cs.length .empty cs).map Document.table

end Toml

end ServerLaunch
