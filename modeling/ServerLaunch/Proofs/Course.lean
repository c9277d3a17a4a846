import ServerLaunch.Proofs.Launch

/-!
# The Course of a World

How many answers a script has given, and what the clock shows.

Whoever waits for a server asks questions and pauses, and writes messages and sees to a pipe
in between. What comes next in the script and what time it is depends on the questions and the
pauses alone, so these are the part of the world that `Course` cuts out. Everything else that a
handle does leaves a world at rest, and where a start stands when it begins to wait can be read
off the world that it began with.

## Main definitions

* `Course`, `World.course`: The part of a world that questions and pauses move.
* `Handle.AtRest`: That part is as it was.

## Theorems

* `Handle.atRest_note`, `Handle.atRest_releaseOutput`, `Handle.atRest_handOverPipe`,
  `Handle.atRest_openPipe`: What leaves a world at rest.
* `Handle.inWorld_bind`: Two actions in the world, one after the other.
-/

namespace ServerLaunch

open Act World

/-- How far a world is in its script, and what its clock shows. -/
structure Course where
  script : ChildScript
  polls : Nat
  waits : Nat
  pings : Nat
  shown : Rat → Instant
  clock : Instant

/-- The course of a world. -/
def World.course (w : World) : Course :=
  ⟨w.script, w.polls, w.waits, w.pings, w.shown, w.clock⟩

/-- A world that only has more events of logging is at rest. -/
theorem World.Onward.course {kind : Event → Bool} {w w' : World} (h : Onward kind w w') :
    w'.course = w.course := by
  rw [h.frame]
  rfl

namespace Handle

/-- No answer is taken, and no time passes. -/
def AtRest (s t : Handle × World) : Prop :=
  t.2.course = s.2.course

instance : Std.Refl AtRest :=
  ⟨fun _ => rfl⟩

instance : IsTrans (Handle × World) AtRest :=
  ⟨fun _ _ _ h h' => h'.trans h⟩

/-- The children behave as before. -/
theorem AtRest.script {s t : Handle × World} (h : AtRest s t) : t.2.script = s.2.script :=
  congrArg Course.script h

theorem atRest_inWorld {α : Type} {kind : Event → Bool} {a : WorldAct α}
    (ha : a.Keeps (Onward kind)) : (inWorld a).Keeps AtRest :=
  fun s => (ha s.2).course

theorem atRest_note (level : LogLevel) (message : String) : (note level message).Keeps AtRest :=
  Keeps.bind .get fun h => atRest_inWorld (h.log.keeps_log level message)

theorem atRest_closePipe (pipe : OutputPipe) : (closePipe pipe).Keeps AtRest :=
  Keeps.ite (Keeps.bind (Keeps.modify fun _ => rfl) fun _ => Keeps.modify fun _ => rfl) (.pure _)

theorem atRest_releaseOutput : releaseOutput.Keeps AtRest := by
  refine Keeps.bind .get fun h => ?_
  cases h.pipe with
  | none => exact .pure _
  | some pipe =>
      refine Keeps.bind (atRest_closePipe pipe) fun _ => ?_
      exact Keeps.bind (Keeps.modify fun _ => rfl) fun _ => Keeps.modify fun _ => rfl

theorem atRest_handOverPipe : handOverPipe.Keeps AtRest := by
  refine Keeps.bind .get fun h => ?_
  cases h.pipe with
  | none => exact .pure _
  | some pipe =>
      refine Keeps.bind (atRest_closePipe pipe) fun _ => ?_
      exact Keeps.bind .get fun t => atRest_inWorld (keeps_logOutput pipe.logger _)

theorem atRest_openPipe : openPipe.Keeps AtRest := by
  refine Keeps.bind .get fun h => ?_
  refine Keeps.bind (atRest_inWorld h.log.keeps_logger) fun l => ?_
  exact Keeps.bind .get fun t => Keeps.modify fun u => rfl

/-- Two actions in the world are one after the other for the handle as well. -/
theorem inWorld_bind {α β : Type} (a : WorldAct α) (next : α → WorldAct β) :
    inWorld (a >>= next) = inWorld a >>= fun x => inWorld (next x) := by
  funext s
  rcases hrun : a s.2 with ⟨e | x, w⟩
  · have hrun' : inWorld a s = (.error e, (s.1, w)) := by rw [inWorld_apply, hrun]
    rw [inWorld_apply, bind_error hrun, bind_error hrun']
  · have hrun' : inWorld a s = (.ok x, (s.1, w)) := by rw [inWorld_apply, hrun]
    rw [inWorld_apply, bind_ok hrun, bind_ok hrun']
    rfl

end Handle

end ServerLaunch
