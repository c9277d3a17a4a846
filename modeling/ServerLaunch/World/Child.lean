import ServerLaunch.World.Instant

/-!
# The Child Process

How a launched server behaves, as far as its launcher can tell.

The launcher sees a child through three kinds of questions: whether it still runs,
how it ended, and whether it answers. The answers to each kind are an endless
sequence, taken one after the other, whichever child is asked. The sequences may be
anything; `settled` says from where on nothing in them changes, which matters only
to a launcher that waits without a limit.

## Main definitions

* `WaitAnswer`, `PingAnswer`: Answers to the second and third kind of question.
* `ChildScript`: All answers.
-/

namespace ServerLaunch

/-- How a wait for a child ends. -/
inductive WaitAnswer where
  | exited (code : Int)
  | timedOut
  | interrupted
deriving DecidableEq, Repr, Inhabited

/-- How a server answers: with a status, or it cannot be reached in time, or asking fails in some
    other way, or the user interrupts. What fails in another way need not be an answer at all:
    a line that is no status is one case, an address that cannot be asked because of the way it is
    written is another. -/
inductive PingAnswer where
  | status (code : Int)
  | refused
  | malformed (line : String)
  | interrupted
deriving DecidableEq, Repr, Inhabited

/-- How child processes behave. An exit code that is polled for is missing as long
    as the child runs. -/
structure ChildScript where
  pid : Nat
  spawnError : Option String
  poll : Nat → Option Int
  wait : Nat → WaitAnswer
  ping : Nat → PingAnswer
  pingCost : Instant
  output : List UInt8
  settled : Nat

/-- A sequence that takes the members of a list and then stays at the last one. -/
def holdLast {α : Type} (first : α) (rest : List α) (n : Nat) : α :=
  match n, rest with
  | 0, _ => first
  | _ + 1, [] => first
  | n + 1, next :: others => holdLast next others n

instance : Inhabited ChildScript where
  default := ⟨0, none, fun _ => none, fun _ => .exited 0, fun _ => .status 200, .seconds 0, [], 0⟩

end ServerLaunch
