import ServerLaunch.Proofs.Action
import ServerLaunch.World

/-!
# How Histories Grow

What most of the launcher does between one step of supervision and the next.

Reading settings, finding files and writing messages are all seen in the history, but they
touch neither the host nor the children: no answer of a child is taken, no pipe is made,
the clock stands still. `World.Onward` states this for one stretch of a run, and leaves open
what kind of events the stretch adds, for that is where the stages of a launch differ. It
is a preorder, so an action keeps it as soon as the actions that it calls do.

The kinds are given by tests on events, each one wider than the one before, as the stages
are: a message, all that logging does, a search for files, and the preparation of a launch
as a whole.

One thing besides the history matters to those that come later. An object that has no logger
of its own keeps the one it took first, so whatever was chosen stays chosen.

## Main definitions

* `Event.isMessage`, `Event.isOpening`, `Event.isLogging`, `Event.isSearch`,
  `Event.isPreparation`: Kinds of events.
* `World.Onward`: The world goes on, with events of a kind and nothing else.
* `World.Adds`: Events of a kind are added, whatever else happens.

## Theorems

* `Onward.quiet`: The world goes on with no event at all.
* `Onward.mono`: A wider kind of events.
* `record_onward`: A world with one more event.
* `lookAt_apply`: A look at a path.
* `keeps_record`: An action that adds an event.
-/

namespace ServerLaunch

namespace Event

/-- A message to a log. -/
def isMessage : Event → Bool
  | .noted .. | .shown _ | .shownBare _ | .filed .. => true
  | _ => false

/-- What comes of opening a logger. -/
def isOpening : Event → Bool
  | .madeDirectory _ | .openedLog _ => true
  | _ => false

/-- Whatever comes of writing a message: the logger may have to be made first. -/
def isLogging : Event → Bool
  | .madeDirectory _ | .openedLog _ | .followedRecipe _ | .finishedRecipe _ => true
  | e => e.isMessage

/-- Whatever comes of a search for files. -/
def isSearch : Event → Bool
  | .searched _ | .ran .. => true
  | e => e.isLogging

/-- Whatever comes of preparing a launch. -/
def isPreparation : Event → Bool
  | .boundPort _ => true
  | e => e.isSearch

theorem isLogging_of_isMessage {e : Event} (h : e.isMessage) : e.isLogging := by
  cases e <;> first | rfl | exact h

theorem isLogging_of_isOpening {e : Event} (h : e.isOpening) : e.isLogging := by
  cases e <;> first | rfl | cases h

theorem isSearch_of_isLogging {e : Event} (h : e.isLogging) : e.isSearch := by
  cases e <;> first | rfl | exact h

theorem isPreparation_of_isSearch {e : Event} (h : e.isSearch) : e.isPreparation := by
  cases e <;> first | rfl | exact h

end Event

namespace World

/-- The world goes on with events of a kind, and besides them only what is kept for loggers
    and services changes. -/
structure Onward (kind : Event → Bool) (w w' : World) : Prop where
  past : ∃ es, w'.past = es ++ w.past ∧ ∀ e ∈ es, kind e
  frame : w' = { w with
    serials := w'.serials, past := w'.past, channels := w'.channels, logs := w'.logs,
    container := w'.container, isInitialized := w'.isInitialized,
    chosenLoggers := w'.chosenLoggers }
  chosen : ∀ key object, w.chosenLoggers.lookup key = some object →
    w'.chosenLoggers.lookup key = some object

namespace Onward

variable {kind kind' : Event → Bool} {w w' w'' : World}

/-- The world goes on with no event at all, and no logger is chosen. -/
theorem quiet (hpast : w'.past = w.past) (hchosen : w'.chosenLoggers = w.chosenLoggers)
    (hframe : w' = { w with
      serials := w'.serials, past := w'.past, channels := w'.channels, logs := w'.logs,
      container := w'.container, isInitialized := w'.isInitialized,
      chosenLoggers := w'.chosenLoggers }) : Onward kind w w' :=
  ⟨⟨[], hpast, fun _ he => absurd he List.not_mem_nil⟩, hframe, fun _ _ h => by rwa [hchosen]⟩

theorem refl (kind : Event → Bool) (w : World) : Onward kind w w :=
  quiet rfl rfl rfl

theorem trans (h : Onward kind w w') (h' : Onward kind w' w'') : Onward kind w w'' := by
  rcases h with ⟨⟨es, hes, hkind⟩, hframe, hchosen⟩
  rcases h' with ⟨⟨es', hes', hkind'⟩, hframe', hchosen'⟩
  refine ⟨⟨es' ++ es, by rw [hes', hes, List.append_assoc],
    List.forall_mem_append.mpr ⟨hkind', hkind⟩⟩, ?_, fun key object hk =>
    hchosen' key object (hchosen key object hk)⟩
  rw [hframe', hframe]

instance : Std.Refl (Onward kind) := ⟨refl kind⟩

instance : IsTrans World (Onward kind) := ⟨fun _ _ _ => trans⟩

/-- A wider kind of events. -/
theorem mono (hk : ∀ e, kind e → kind' e) (h : Onward kind w w') : Onward kind' w w' := by
  rcases h with ⟨⟨es, hes, hkind⟩, hframe, hchosen⟩
  exact ⟨⟨es, hes, fun e he => hk e (hkind e he)⟩, hframe, hchosen⟩

theorem host (h : Onward kind w w') : w'.host = w.host := by rw [h.frame]

theorem overrides (h : Onward kind w w') : w'.overrides = w.overrides := by rw [h.frame]

end Onward

/-- All that is said of a world is that events of a kind are added to its history. -/
def Adds (kind : Event → Bool) (w w' : World) : Prop :=
  ∃ es, w'.past = es ++ w.past ∧ ∀ e ∈ es, kind e

namespace Adds

variable {kind kind' : Event → Bool} {w w' w'' : World}

theorem refl (kind : Event → Bool) (w : World) : Adds kind w w :=
  ⟨[], rfl, fun _ he => absurd he List.not_mem_nil⟩

theorem trans (h : Adds kind w w') (h' : Adds kind w' w'') : Adds kind w w'' := by
  rcases h with ⟨es, hes, hkind⟩
  rcases h' with ⟨es', hes', hkind'⟩
  exact ⟨es' ++ es, by rw [hes', hes, List.append_assoc],
    List.forall_mem_append.mpr ⟨hkind', hkind⟩⟩

instance : Std.Refl (Adds kind) := ⟨refl kind⟩

instance : IsTrans World (Adds kind) := ⟨fun _ _ _ => trans⟩

end Adds

/-- A world that goes on adds events. -/
theorem Onward.adds {kind kind' : Event → Bool} {w w' : World} (hk : ∀ e, kind e → kind' e)
    (h : Onward kind w w') : Adds kind' w w' := by
  rcases h.past with ⟨es, hes, hkind⟩
  exact ⟨es, hes, fun e he => hk e (hkind e he)⟩

/-- A world with one more event. -/
theorem record_onward {kind : Event → Bool} {e : Event} (he : kind e) (w : World) :
    Onward kind w (w.record e) := by
  refine ⟨⟨[e], rfl, fun e' he' => ?_⟩, rfl, fun _ _ h => h⟩
  rw [List.mem_singleton.mp he']
  exact he

theorem record_adds {kind : Event → Bool} {e : Event} (he : kind e) (w : World) :
    Adds kind w (w.record e) :=
  ⟨[e], rfl, List.forall_mem_singleton.mpr he⟩

end World

/-- A look changes nothing, and fails if it is refused. -/
theorem lookAt_apply (p : Path) (w : World) :
    lookAt p w = ((w.host.look p).mapError LookFault.failure, w) := by
  unfold lookAt
  rw [Act.bind_ok (Act.get_apply w)]
  cases w.host.look p <;> rfl

theorem lookAt_of_look {p : Path} {w : World} {found : Bool} (h : w.host.look p = .ok found) :
    lookAt p w = (.ok found, w) := by
  rw [lookAt_apply, h]
  rfl

theorem keeps_lookAt {R : World → World → Prop} [Std.Refl R] (p : Path) : (lookAt p).Keeps R := by
  intro w
  rw [lookAt_apply]
  exact refl w

/-- An action that adds an event. -/
theorem keeps_record {kind : Event → Bool} {e : Event} (he : kind e) :
    (record e).Keeps (World.Onward kind) :=
  Act.Keeps.modify (World.record_onward he)

end ServerLaunch
