import ServerLaunch.Number

/-!
# Instants

What a clock shows, and when something is due.

A clock shows seconds. It may also be beyond all of them, once something has taken
forever, and it may come to show nothing at all. Instants beyond all seconds stay there
whatever is added, and one that is nothing is neither before nor after any other, so
nothing waits for it.

How a clock shows an exact number of seconds is a parameter of every sum: it may round the
number, or it may not reach so far.

## Main definitions

* `Instant`: The instants, which are lengths of time as well.
* `Instant.plus`: One after another.
* `Instant.isBefore`: Their order.
* `Instant.ofNumber?`: The length of time that a number of seconds is.
* `Instant.seconds`, `Instant.rounded`: An exact clock, and one of floating point numbers.
-/

namespace ServerLaunch

/-- An instant of a clock: so many seconds, after or before all seconds, or nothing. -/
inductive Instant where
  | seconds (s : Rat)
  | beyond (before : Bool)
  | nothing
deriving DecidableEq, Repr, Inhabited

namespace Instant

/-- The instant a length of time after another, as a clock shows it. -/
def plus (shown : Rat → Instant) : Instant → Instant → Instant
  | .nothing, _ | _, .nothing => .nothing
  | .seconds s, .seconds t => shown (s + t)
  | .seconds _, .beyond before | .beyond before, .seconds _ => .beyond before
  | .beyond before, .beyond before' => if before = before' then .beyond before else .nothing

/-- Whether an instant is before another. -/
def isBefore : Instant → Instant → Bool
  | .seconds s, .seconds t => s < t
  | .seconds _, .beyond before => !before
  | .beyond before, .seconds _ => before
  | .beyond before, .beyond before' => before && !before'
  | .nothing, _ | _, .nothing => false

/-- The length of time that a floating point number of seconds is. -/
def ofBinary64 : Binary64 → Instant
  | .infinite negative => .beyond negative
  | .nan _ => .nothing
  | x => .seconds (x.toRat?.getD 0)

/-- An exact number of seconds, on a clock of floating point numbers. -/
def rounded (q : Rat) : Instant :=
  ofBinary64 (Binary64.ofRat q)

/-- The length of time that a number of seconds is, as a clock shows it. A whole number too
    large for the clock is none. -/
def ofNumber? (shown : Rat → Instant) : Number → Option Instant
  | .float x => some (ofBinary64 x)
  | .int i =>
    match Binary64.ofInt i with
    | .infinite _ => none
    | _ => some (shown i)

/-- Nothing is before itself. -/
theorem isBefore_self (t : Instant) : t.isBefore t = false := by
  cases t with
  | seconds s => exact decide_eq_false (Rat.lt_irrefl)
  | beyond before => cases before <;> rfl
  | nothing => rfl

end Instant

end ServerLaunch
