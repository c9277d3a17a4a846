/-!
# Paths

File system paths in normal form.

A path is a root and a list of names. Writing a path as text and reading it back
loses nothing, but many texts name one path: repeated slashes, single dots and a
slash at the end are dropped on reading. Two dots stay, for what they lead to
depends on the file system. Exactly two slashes in front are a root of their own,
three or more are one.

## Main definitions

* `Path`: A root and names.
* `Path.ofString`, `Path.toText`: Reading and writing.
* `Path.append`: A path continued by another; an absolute one starts over.
* `Path.parents`: The directories above, nearest first.
* `Path.absolute`: The path seen from a current directory.
* `Path.resolve`: The names from the root with dots worked out.
-/

namespace ServerLaunch

/-- What a path starts from: the current directory, the root, or the root that is
    written with two slashes. -/
inductive PathRoot where
  | relative
  | single
  | double
deriving DecidableEq, Repr, Inhabited

/-- A path in normal form. -/
structure Path where
  root : PathRoot
  names : List String
deriving DecidableEq, Repr, Inhabited

namespace Path

/-- Cuts a text at every slash; there is one piece more than slashes. -/
def splitSlashes : List Char → List (List Char)
  | [] => [[]]
  | '/' :: rest => [] :: splitSlashes rest
  | c :: rest =>
    match splitSlashes rest with
    | [] => [[c]]
    | piece :: pieces => (c :: piece) :: pieces

/-- Pieces that name nothing: the empty one and the single dot. -/
def isIdle (piece : List Char) : Bool :=
  piece.isEmpty || piece == ['.']

/-- The names of a text, in order. -/
def namesOf (cs : List Char) : List String :=
  ((splitSlashes cs).filter fun piece => !isIdle piece).map String.ofList

/-- The root of a text. -/
def rootOf : List Char → PathRoot
  | '/' :: '/' :: '/' :: _ => .single
  | '/' :: '/' :: _ => .double
  | '/' :: _ => .single
  | _ => .relative

/-- Reads a path. -/
def ofString (s : String) : Path :=
  ⟨rootOf s.toList, namesOf s.toList⟩

/-- The slashes a root is written with. -/
def rootText : PathRoot → String
  | .relative => ""
  | .single => "/"
  | .double => "//"

/-- The path as text; the path that leads nowhere is a single dot. -/
def toText (p : Path) : String :=
  if p.root = .relative && p.names.isEmpty then "."
  else rootText p.root ++ "/".intercalate p.names

/-- Whether the path starts from the root. -/
def isAbsolute (p : Path) : Bool :=
  p.root != .relative

/-- The path continued by another; an absolute one starts over. -/
def append (p q : Path) : Path :=
  if q.isAbsolute then q else ⟨p.root, p.names ++ q.names⟩

/-- The path continued by one name. -/
def child (p : Path) (name : String) : Path :=
  ⟨p.root, p.names ++ [name]⟩

/-- The last name, or the empty text. -/
def fileName (p : Path) : String :=
  p.names.getLast?.getD ""

/-- The directory a path lies in. -/
def parent (p : Path) : Path :=
  ⟨p.root, p.names.dropLast⟩

/-- All proper beginnings of a list, longest first. -/
def beginnings {α : Type} : List α → List (List α)
  | [] => []
  | x :: xs => (beginnings xs).map (x :: ·) ++ [[]]

/-- The directories above a path, nearest first. -/
def parents (p : Path) : List Path :=
  (beginnings p.names).map fun names => ⟨p.root, names⟩

/-- The path seen from a current directory; two dots stay as they are. -/
def absolute (p cwd : Path) : Path :=
  append cwd p

/-- The names from the root with dots worked out: each pair of dots takes away the
    name before it, and nothing lies above the root. -/
def resolve (p cwd : Path) : List String :=
  (append cwd p).names.foldl
    (fun done name => if name == ".." then done.dropLast else done ++ [name]) []

example : (ofString "a//b/./c/../d/").toText = "a/b/c/../d" := by decide +kernel
example : (ofString "///srv").toText = "/srv" ∧ (ofString "//a").toText = "//a" := by
  decide +kernel

end Path

end ServerLaunch
