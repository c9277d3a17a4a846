import ServerLaunch.Failure

/-!
# Actions

Steps that read and change a state, and that may fail.

A failing action keeps what it has changed up to its failure: whoever handles the
failure finds the state as it was left. So an action is a function from a state to
an outcome together with a state, and not to one or the other.

## Main definitions

* `Act`: An action on a state.
* `Act.zoom`: An action on a part of a state, as one on the whole.
* `Act.attempt`: The outcome of an action, as a value.
* `Act.always`: An action with another one after it in any case.

## Theorems

* `Act.bind_ok`, `Act.bind_error`: One action after another.
-/

namespace ServerLaunch

/-- An action on a state: its outcome, and the state afterwards. -/
def Act (σ α : Type) : Type :=
  σ → Except Failure α × σ

namespace Act

variable {σ τ α β : Type}

/-- Gives a value and changes nothing. -/
def done (a : α) : Act σ α :=
  fun s => (.ok a, s)

/-- Fails and changes nothing. -/
def fail (e : Failure) : Act σ α :=
  fun s => (.error e, s)

/-- One action and, unless it fails, another that takes its value. -/
def andThen (a : Act σ α) (next : α → Act σ β) : Act σ β :=
  fun s =>
    match a s with
    | (.ok x, t) => next x t
    | (.error e, t) => (.error e, t)

instance : Monad (Act σ) where
  pure := done
  bind := andThen

instance : MonadExcept Failure (Act σ) where
  throw := fail
  tryCatch a handle := fun s =>
    match a s with
    | (.ok x, t) => (.ok x, t)
    | (.error e, t) => handle e t

instance : MonadState σ (Act σ) where
  get := fun s => (.ok s, s)
  set t := fun _ => (.ok (), t)
  modifyGet f := fun s => (.ok (f s).1, (f s).2)

/-- Gives the value of a computation that may fail. -/
def ofExcept (r : Except Failure α) : Act σ α :=
  fun s => (r, s)

/-- An action on a part of the state. -/
def zoom (view : σ → τ) (put : τ → σ → σ) (a : Act τ α) : Act σ α :=
  fun s => ((a (view s)).1, put (a (view s)).2 s)

/-- An action on the second of two parts of a state. -/
def onSecond (a : Act τ α) : Act (σ × τ) α :=
  zoom Prod.snd (fun t s => (s.1, t)) a

/-- The outcome of an action as a value. -/
def attempt (a : Act σ α) : Act σ (Except Failure α) :=
  fun s => (.ok (a s).1, (a s).2)

/-- An action and, whether or not it fails, another one after it. The failure of
    the second hides that of the first. -/
def always (a : Act σ α) (finish : Act σ Unit) : Act σ α := do
  let outcome ← a.attempt
  finish
  ofExcept outcome

theorem bind_ok {a : Act σ α} {next : α → Act σ β} {s t : σ} {x : α} (h : a s = (.ok x, t)) :
    (a >>= next) s = next x t := by
  change andThen a next s = _
  simp only [andThen, h]

theorem bind_error {a : Act σ α} {next : α → Act σ β} {s t : σ} {e : Failure}
    (h : a s = (.error e, t)) : (a >>= next) s = (.error e, t) := by
  change andThen a next s = _
  simp only [andThen, h]

end Act

end ServerLaunch
