import ServerLaunch.Proofs.StartOutcome
import ServerLaunch.Proofs.Supervision

/-!
# Failed Starts

What may leave a start, and what a start that has failed leaves.

A start promises to end in one of two ways: the server is ready, or there is an error that says
that there is none. Of a world in which the user does not interrupt, the promise asks more
than it seems. The logger has to be there for the first message, the timeout has to be one
by the time that there is a child, and every answer of the server has to be one. The last of
these is nothing that the caller could see to: a server that answers with something else
makes the start fail with that, and the child goes on.

The error itself promises that nothing is left, and that is so wherever there was a child to
be had. Where there was none, the pipe is let go of, but the handle keeps the child that it
had before. That one has ended, or there would have been no launch, and still the handle
goes by its number, and a wait tells its exit code.

## Main definitions

* `Handle.AsDocumented`: The ways in which a start says that it ends.
* `Handle.HoldsNothing`: A handle as it is before the first start.

## Theorems

* `Handle.start_documented_iff`: When a start ends as it says.
* `Handle.start_holdsNothing_iff`: When a start that fails leaves nothing.
-/

namespace ServerLaunch

open Act World

namespace Handle

variable {s t : Handle × World}

/-- The ways in which a start says that it ends. One that never comes back ends in no other
    way. -/
def AsDocumented : Except Failure Unit → Prop
  | .ok () => True
  | .error (.launch e) => e.kind = .startup
  | .error .endless => True
  | .error _ => False

theorem not_asDocumented_of_isUnheard {e : Failure} (he : e.isUnheard) :
    ¬ AsDocumented (.error e) := by
  cases e <;> first | exact id | exact absurd he Bool.false_ne_true

theorem not_asDocumented_of_isUntimed {e : Failure} (he : e.isUntimed) :
    ¬ AsDocumented (.error e) := by
  cases e <;> first | exact id | exact absurd he Bool.false_ne_true

theorem not_malformed_of_calm {es : List Event} (hcalm : ∀ e ∈ es, e.isTrouble = false)
    (url line : String) : Event.pinged url (.malformed line) ∉ es :=
  fun hmem => absurd (hcalm _ hmem) Bool.noConfusion

/-- While the user does not interrupt, a start ends as it says exactly if it has a logger, its
    timeout is one as soon as there is a child, and no answer of the server is something that is
    no answer. Such an answer is what it fails with. -/
theorem start_documented_iff {r : Except Failure Unit}
    (hping : ∀ n, s.2.script.ping n ≠ .interrupted)
    (hwait : ∀ n, s.2.script.wait n ≠ .interrupted) (hrun : start s = (r, t)) :
    ∃ es, t.2.past = es ++ s.2.past ∧
      (∀ url line, .pinged url (.malformed line) ∈ es → r = .error (.malformedAnswer line)) ∧
      (AsDocumented r ↔ (s.1.log.logger (hasLiveChild s).2.2).1.isOk ∧
        ((∃ e ∈ es, e.isSpawn) → (deadlineAfter s.2.shown s.2.clock s.1.timeout).isOk) ∧
        ∀ url line, .pinged url (.malformed line) ∉ es) := by
  rcases start_started hrun with ⟨es, hpast, hstarted⟩
  refine ⟨es, hpast, ?_⟩
  cases hstarted with
  | @unheard e _ hlogger hidle =>
      have hcalm := not_malformed_of_calm fun e he => Event.isTrouble_of_isIdle (hidle e he)
      refine ⟨fun url line hmem => absurd hmem (hcalm url line), iff_of_false ?_ ?_⟩
      · exact not_asDocumented_of_isUnheard (s.1.log.logger_failsOnly _ e hlogger)
      · rintro ⟨hsome, _⟩
        rw [hlogger] at hsome
        cases hsome
  | running hlogger hidle =>
      have hcalm := not_malformed_of_calm fun e he => Event.isTrouble_of_isIdle (hidle e he)
      exact ⟨fun url line hmem => absurd hmem (hcalm url line),
        iff_of_true trivial ⟨hlogger, fun h => absurd h (not_spawned_of_idle hidle), hcalm⟩⟩
  | unlaunched hlogger hkind hspawn hchild hpipe hidle =>
      have hcalm := not_malformed_of_calm fun e he => Event.isTrouble_of_isIdle (hidle e he)
      exact ⟨fun url line hmem => absurd hmem (hcalm url line),
        iff_of_true hkind ⟨hlogger, fun h => absurd h (not_spawned_of_idle hidle), hcalm⟩⟩
  | untimed hdeadline hspawned he hcalm =>
      -- By then there is a child, so the timeout was asked to be one.
      refine ⟨fun url line hmem => absurd hmem (not_malformed_of_calm hcalm url line),
        iff_of_false (not_asDocumented_of_isUntimed he) ?_⟩
      rintro ⟨_, htimed, _⟩
      rw [hdeadline] at htimed
      cases htimed hspawned
  | ready hlogger hdeadline hcalm =>
      exact ⟨fun url line hmem => absurd hmem (not_malformed_of_calm hcalm url line),
        iff_of_true trivial ⟨hlogger, fun _ => hdeadline, not_malformed_of_calm hcalm⟩⟩
  | failed hlogger hspawn hdeadline hscript htold =>
      cases htold with
      | startup hkind hcalm hchild hpipe =>
          exact ⟨fun url line hmem => absurd hmem (not_malformed_of_calm hcalm url line),
            iff_of_true hkind ⟨hlogger, fun _ => hdeadline, not_malformed_of_calm hcalm⟩⟩
      | malformed hmem honly =>
          refine ⟨fun url line hmem' => by rw [honly url line hmem'], iff_of_false id ?_⟩
          rintro ⟨_, _, hnone⟩
          exact hnone _ _ hmem
      | interrupted h =>
          -- The script of the children is the one from before, so it has no interruption.
          rw [hscript] at h
          rcases h with ⟨n, h⟩ | ⟨n, h⟩
          · exact absurd h (hping n)
          · exact absurd h (hwait n)
      | endless hcalm =>
          exact ⟨fun url line hmem => absurd hmem (not_malformed_of_calm hcalm url line),
            iff_of_true trivial ⟨hlogger, fun _ => hdeadline, not_malformed_of_calm hcalm⟩⟩

/-- A server whose answers are none. -/
def garbled : Handle × World :=
  (plain, World.start default { (default : ChildScript) with ping := fun _ => .malformed "?" }
    .seconds)

/-- The first answer that is none is what the start fails with, and the child goes on. -/
theorem start_documented_iff_garbled :
    (∀ n, garbled.2.script.ping n ≠ .interrupted) ∧
      (∀ n, garbled.2.script.wait n ≠ .interrupted) ∧
      (start garbled).1 = .error (.malformedAnswer "?") ∧ ¬ AsDocumented (start garbled).1 ∧
      (start garbled).2.1.child = some 0 := by
  have hping : ∀ n, garbled.2.script.ping n ≠ .interrupted := fun _ h => nomatch h
  have hwait : ∀ n, garbled.2.script.wait n ≠ .interrupted := fun _ h => nomatch h
  rcases start_documented_iff hping hwait rfl with ⟨es, hpast, hfails, hiff⟩
  have hmem : .pinged "http://127.0.0.1:4723/status" (.malformed "?") ∈ es := by
    rw [← List.append_nil es, ← show _ = es ++ [] from hpast]
    decide +kernel
  refine ⟨hping, hwait, hfails _ _ hmem, fun hdone => ?_, by decide +kernel⟩
  exact (hiff.mp hdone).2.2 _ _ hmem

/-- A handle as it is before the first start. -/
structure HoldsNothing (s : Handle × World) : Prop where
  pipe : s.1.pipe = none
  pid : s.1.pid s.2 = none
  stopped : isRunning s = (.ok false, s)
  notStarted : ∃ e, wait s = (.error (.launch e), s) ∧ e.kind = .notRunning

theorem holdsNothing_iff : HoldsNothing s ↔ s.1.pipe = none ∧ s.1.child = none := by
  constructor
  · rintro ⟨hpipe, hpid, _, _⟩
    exact ⟨hpipe, Option.map_eq_none_iff.mp hpid⟩
  · rintro ⟨hpipe, hchild⟩
    refine ⟨hpipe, Option.map_eq_none_iff.mpr hchild, ?_, ?_⟩
    · unfold isRunning
      rw [bind_ok (hasLiveChild_of_none hchild), if_neg Bool.false_ne_true]
      rfl
    · refine ⟨LaunchError.of .notRunning notStarted {}, ?_, rfl⟩
      unfold wait
      rw [bind_ok (self_apply s), hchild]
      rfl

/-- An error that a start raises says that there is no server. It leaves no pipe, and it leaves
    nothing at all exactly if the handle had no child before, or there was a child to be had.
    Otherwise the handle keeps the child that it had. -/
theorem start_holdsNothing_iff {e : LaunchError} (hrun : start s = (.error (.launch e), t)) :
    e.kind = .startup ∧ t.1.pipe = none ∧
      (HoldsNothing t ↔ s.1.child = none ∨ s.2.script.spawnError = none) ∧
      (¬ HoldsNothing t → t.1.child = s.1.child) := by
  rcases start_started hrun with ⟨es, _, hstarted⟩
  cases hstarted with
  | unheard hlogger _ => exact absurd (s.1.log.logger_failsOnly _ _ hlogger) Bool.false_ne_true
  | untimed _ _ he _ => exact absurd he Bool.false_ne_true
  | unlaunched hlogger hkind hspawn hchild hpipe hidle =>
      refine ⟨hkind, hpipe, ?_, fun _ => hchild⟩
      rw [holdsNothing_iff, hchild]
      -- There was no child to be had, so only a handle that had none is left with none.
      constructor
      · exact fun h => Or.inl h.2
      · rintro (hnone | hnone)
        · exact ⟨hpipe, hnone⟩
        · rw [hnone] at hspawn
          cases hspawn
  | failed hlogger hspawn hdeadline hscript htold =>
      cases htold with
      | startup hkind hcalm hchild hpipe =>
          have hnothing := holdsNothing_iff.mpr ⟨hpipe, hchild⟩
          exact ⟨hkind, hpipe, iff_of_true hnothing (Or.inr hspawn), fun h => absurd hnothing h⟩

/-- A handle whose child has ended by itself, when there is no child to be had any more. -/
def bereft : Handle × World :=
  runTurns [.start, .outside { (default : ChildScript) with
      spawnError := some "No such file or directory", poll := fun _ => some 1 }]
    (plain, World.start default default .seconds)

/-- A second start fails, and the handle still goes by the number of its first child. -/
theorem start_holdsNothing_iff_bereft :
    ∃ e t, start bereft = (.error (.launch e), t) ∧ e.kind = .startup ∧ ¬ HoldsNothing t ∧
      t.1.child = some 0 := by
  have hraised : (match (start bereft).1 with
      | .error (.launch _) => true
      | _ => false) = true := by decide +kernel
  have hrun : ∃ e, (start bereft).1 = .error (.launch e) := by
    split at hraised
    · next e h => exact ⟨e, h⟩
    · exact absurd hraised Bool.false_ne_true
  rcases hrun with ⟨e, hrun⟩
  rcases start_holdsNothing_iff (s := bereft) (t := (start bereft).2) (Prod.ext hrun rfl) with
    ⟨hkind, hpipe, hiff, hkeeps⟩
  have hdirty : ¬ HoldsNothing (start bereft).2 := by
    intro h
    rcases hiff.mp h with h | h
    · exact absurd h (by decide +kernel)
    · exact absurd h (by decide +kernel)
  exact ⟨e, _, Prod.ext hrun rfl, hkind, hdirty, (hkeeps hdirty).trans (by decide +kernel)⟩

end Handle

end ServerLaunch
