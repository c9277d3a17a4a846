import ServerLaunch.Path

/-!
# The Host

What the launcher finds on the computer it runs on.

Files and directories are known by the names that lead to them from the root, with
dots worked out. A directory need not be listed: whatever lies above a file, a
listed directory or the current directory is a directory too. The environment and
the answers of the search for programs are lists in order.

Names are looked up one after the other, each in the directory that the names before it
lead to. A directory may be closed, so that nothing can be looked up in it, and there may be
a bound on the length of a name. Either makes the look itself fail, where a name that is
not there would only be an answer. No other failure of a disk is considered here, and the
current directory is always there.

A part of the host that is asked for does not change by being asked, so everything
here is a function of the host alone.

## Main definitions

* `FileContent`, `NpmOutcome`: What a file holds; how the package manager answers.
* `Host`: The computer.
* `LookFault`, `Host.look`: Whether something is there, unless the look is refused.
* `Host.pathExists`: Whether something is seen to be there.
* `Host.reading`: What opening a path gives.
* `Host.environmentValue?`, `Host.program?`: The environment, and the search for programs.
-/

namespace ServerLaunch

/-- What a file holds, unless reading it is refused. -/
inductive FileContent where
  | octets (bs : List UInt8)
  | unreadable
deriving DecidableEq, Repr, Inhabited

/-- What may go wrong with running a program, other than that it fails or is not there: what
    it prints is no text, the limit of time is too long for the system to keep or is no
    number, or the user interrupts. -/
inductive RunFault where
  | undecodable
  | limitTooLong
  | limitUnfit
  | interrupted
deriving DecidableEq, Repr, Inhabited

/-- How the package manager answers when it is asked where it keeps modules. How long a limit
    the system can keep is its own affair, so a limit that is too long shows here as well. -/
inductive NpmOutcome where
  | printed (text : String)
  | failed
  | timedOut
  | missing
  | broken (fault : RunFault)
deriving DecidableEq, Repr, Inhabited

/-- Pairs of a name and a value, in order, with no name twice. -/
abbrev Table (α : Type) := List (String × α)

/-- A table with a name given a value: in its place if it is there, else at the
    end. -/
def Table.put {α : Type} (table : Table α) (name : String) (a : α) : Table α :=
  match table with
  | [] => [(name, a)]
  | (key, b) :: rest =>
    if key = name then (key, a) :: rest else (key, b) :: Table.put rest name a

/-- A table without a name. -/
def Table.drop {α : Type} (table : Table α) (name : String) : Table α :=
  table.filter fun e => e.1 != name

/-- A table from pairs in which names may repeat; the last value counts. -/
def Table.ofPairs {α : Type} (pairs : List (String × α)) : Table α :=
  pairs.foldl (fun table e => table.put e.1 e.2) []

/-- The computer that the launcher runs on. Nothing can be looked up in its closed directories,
    nor a name of more octets than the limit, if there is one. Services can be asked for while
    others are made, but only so deep. -/
structure Host where
  cwd : Path
  home : Path
  files : List (List String × FileContent)
  directories : List (List String)
  environment : Table String
  programs : Table String
  npm : NpmOutcome
  system : String
  freePort : Int
  refusal : Option String
  closed : List (List String) := []
  nameLimit : Option Nat := none
  askLimit : Nat := 450
deriving DecidableEq, Repr, Inhabited

/-- Why a look at a path is refused: a directory on the way is closed, or a name is too
    long. -/
inductive LookFault where
  | closed
  | longName
deriving DecidableEq, Repr, Inhabited

/-- The reason that the system gives, without the path. -/
def LookFault.text : LookFault → String
  | .closed => "Permission denied"
  | .longName => "File name too long"

/-- What opening a path for reading gives. -/
inductive Opened where
  | content (bs : List UInt8)
  | missing
  | directory
  | refused
  | longName
deriving DecidableEq, Repr, Inhabited

namespace Host

/-- The names that lead from the root to a path. -/
def locate (h : Host) (p : Path) : List String :=
  p.resolve h.cwd

/-- The file of that name. -/
def file? (h : Host) (names : List String) : Option FileContent :=
  h.files.lookup names

/-- Whether there is a directory of that name. -/
def isDirectory (h : Host) (names : List String) : Bool :=
  names.isEmpty || names.isPrefixOf (h.locate h.cwd) ||
    h.directories.any (fun d => names.isPrefixOf d) ||
    h.files.any (fun e => names.isPrefixOf e.1 && e.1 != names)

/-- Whether a name is longer than the host takes. -/
def isLongName (h : Host) (name : String) : Bool :=
  h.nameLimit.any fun limit => limit < name.utf8ByteSize

/-- Why names cannot be looked up one after the other from a directory on, if so. Where there is
    no directory the lookup has its answer. -/
def lookFaultFrom (h : Host) : List String → List String → Option LookFault
  | _, [] => none
  | above, name :: rest =>
    if !h.isDirectory above then none
    else if h.closed.contains above then some .closed
    else if h.isLongName name then some .longName
    else lookFaultFrom h (above ++ [name]) rest

/-- Why a path cannot be looked at, if so. -/
def lookFault? (h : Host) (p : Path) : Option LookFault :=
  h.lookFaultFrom [] (h.locate p)

/-- Whether a path leads to a file or a directory. -/
def isThere (h : Host) (p : Path) : Bool :=
  (h.file? (h.locate p)).isSome || h.isDirectory (h.locate p)

/-- A look whether a path leads to a file or a directory. -/
def look (h : Host) (p : Path) : Except LookFault Bool :=
  match h.lookFault? p with
  | some fault => .error fault
  | none => .ok (h.isThere p)

/-- Whether a path is seen to lead to a file or a directory. -/
def pathExists (h : Host) (p : Path) : Bool :=
  match h.look p with
  | .ok found => found
  | .error _ => false

/-- What is seen to be there is what a look finds. -/
theorem look_of_pathExists {h : Host} {p : Path} (hexists : h.pathExists p) :
    h.look p = .ok true := by
  unfold pathExists at hexists
  cases hlook : h.look p with
  | ok found =>
      rw [hlook] at hexists
      exact congrArg _ hexists
  | error fault =>
      rw [hlook] at hexists
      cases hexists

theorem pathExists_of_look {h : Host} {p : Path} {found : Bool} (hlook : h.look p = .ok found) :
    h.pathExists p = found := by
  rw [pathExists, hlook]

/-- What a look finds is there, and it finds all that is. -/
theorem isThere_of_look {h : Host} {p : Path} {found : Bool} (hlook : h.look p = .ok found) :
    h.isThere p = found := by
  unfold look at hlook
  cases hfault : h.lookFault? p with
  | none =>
      rw [hfault] at hlook
      exact Except.ok.inj hlook
  | some fault =>
      rw [hfault] at hlook
      cases hlook

/-- What opening a path for reading gives. -/
def reading (h : Host) (p : Path) : Opened :=
  match h.lookFault? p with
  | some .closed => .refused
  | some .longName => .longName
  | none =>
    match h.file? (h.locate p) with
    | some (.octets bs) => .content bs
    | some .unreadable => .refused
    | none => if h.isDirectory (h.locate p) then .directory else .missing

/-- How many octets there are in the file at a place. -/
def sizeAt (h : Host) (names : List String) : Option Nat :=
  match h.file? names with
  | some (.octets bs) => some bs.length
  | some .unreadable => some 0
  | none => none

/-- The value of a variable of the environment. -/
def environmentValue? (h : Host) (name : String) : Option String :=
  h.environment.lookup name

/-- Where the search for a program ends. -/
def program? (h : Host) (name : String) : Option String :=
  h.programs.lookup name

/-- Whether the host is one on which command lines are read twice. -/
def isWindows (h : Host) : Bool :=
  h.system == "Windows"

/-- The host with a file written. -/
def write (h : Host) (p : Path) (content : FileContent) : Host :=
  let names := h.locate p
  { h with files := (h.files.filter fun e => e.1 != names) ++ [(names, content)] }

/-- The host without a file. -/
def remove (h : Host) (p : Path) : Host :=
  let names := h.locate p
  { h with files := h.files.filter fun e => e.1 != names }

end Host

end ServerLaunch
