import ServerLaunch.Proofs.Children
import ServerLaunch.Proofs.Logging

/-!
# Handles at Work

What each operation of a handle adds to the history, and which child it holds afterwards.

A handle lets go of its child in three places and keeps it in others, and between letting go
of it and asking it to end it writes a message. Were that message to fail, the child would
be lost. It cannot, for a handle that has a child has written a message before, so the
operations are described from a world in which the logger of the handle is known.

Every operation is described in the same way: the events that it adds, as one stretch of
`Tending` from the child before to the child after, and that the handle keeps its settings.
For the wait until the server answers, the outcome counts as well. `Await` lists its four
ends, and says for each whether the child may still run.

## Main definitions

* `Handle.Passes`: The events that lead from one state to another.
* `Handle.Upkeeps`: Nothing happens to the child.
* `Handle.Await`: How the wait for a server ends.

## Theorems

* `Handle.note_spec`: A message with a known logger.
* `Handle.stop_spec`: Stopping lets go of the child, and the child is over.
* `Handle.awaitReady_round`: One round of the wait for the server.
* `Handle.awaitReady_spec`: The wait as a whole, by induction on its rounds.
-/

namespace ServerLaunch

open Act World

namespace Handle

/-- Some events lead from one state to another, in which the handle has the settings it had
    and what was chosen is still chosen. -/
structure Passes (s t : Handle × World) (es : List Event) : Prop where
  past : t.2.past = es ++ s.2.past
  frame : t.1 = { s.1 with child := t.1.child, pipe := t.1.pipe }
  chosen : ∀ key object, s.2.chosenLoggers.lookup key = some object →
    t.2.chosenLoggers.lookup key = some object

namespace Passes

variable {s t u : Handle × World} {es es' : List Event}

theorem refl (s : Handle × World) : Passes s s [] :=
  ⟨rfl, rfl, fun _ _ h => h⟩

theorem trans (h : Passes s t es) (h' : Passes t u es') : Passes s u (es' ++ es) :=
  ⟨by rw [h'.past, h.past, List.append_assoc], by rw [h'.frame, h.frame],
    fun key object hkey => h'.chosen key object (h.chosen key object hkey)⟩

theorem log (h : Passes s t es) : t.1.log = s.1.log := by rw [h.frame]

/-- A logger that is known stays known. -/
theorem settled {l : Logger} (h : Passes s t es) (hl : LogSource.Settled s.2 s.1.log l) :
    LogSource.Settled t.2 t.1.log l := by
  rw [h.log]
  exact hl.of_chosen h.chosen

/-- The world goes on while the handle stays as it is. -/
theorem of_onward {kind : Event → Bool} {h : Handle} {w w' : World} (hw : Onward kind w w') :
    ∃ es, Passes (h, w) (h, w') es ∧ ∀ e ∈ es, kind e := by
  rcases hw.past with ⟨es, hes, hkind⟩
  exact ⟨es, ⟨hes, rfl, hw.chosen⟩, hkind⟩

end Passes

/-- Nothing happens to the child. -/
structure Upkeeps (s t : Handle × World) : Prop where
  child : t.1.child = s.1.child
  events : ∃ es, Passes s t es ∧ ∀ e ∈ es, e.isUpkeep

namespace Upkeeps

variable {s t u : Handle × World}

theorem trans (h : Upkeeps s t) (h' : Upkeeps t u) : Upkeeps s u := by
  rcases h.events with ⟨es, hpass, hes⟩
  rcases h'.events with ⟨es', hpass', hes'⟩
  exact ⟨by rw [h'.child, h.child], es' ++ es, hpass.trans hpass',
    List.forall_mem_append.mpr ⟨hes', hes⟩⟩

instance : Std.Refl Upkeeps :=
  ⟨fun s => ⟨rfl, [], .refl s, List.forall_mem_nil _⟩⟩

instance : IsTrans (Handle × World) Upkeeps := ⟨fun _ _ _ => trans⟩

/-- One event that has nothing to do with a child, while the handle stays as it is apart from
    its pipe. -/
theorem single {e : Event} (he : e.isUpkeep) (hpast : t.2.past = e :: s.2.past)
    (hframe : t.1 = { s.1 with pipe := t.1.pipe })
    (hchosen : t.2.chosenLoggers = s.2.chosenLoggers) : Upkeeps s t := by
  have hchild : t.1.child = s.1.child := by rw [hframe]
  refine ⟨hchild, [e], ⟨hpast, by rw [hframe], fun _ _ h => by rwa [hchosen]⟩, fun e' he' => ?_⟩
  rw [List.mem_singleton.mp he']
  exact he

/-- The handle changes its pipe. -/
theorem repiped (h : Handle) (pipe : Option OutputPipe) (w : World) :
    Upkeeps (h, w) ({ h with pipe }, w) :=
  ⟨rfl, [], ⟨rfl, rfl, fun _ _ hkey => hkey⟩, List.forall_mem_nil _⟩

end Upkeeps

@[simp] theorem self_apply (s : Handle × World) : self s = (.ok s.1, s) := rfl

@[simp] theorem change_apply (f : Handle → Handle) (s : Handle × World) :
    change f s = (.ok (), (f s.1, s.2)) := rfl

@[simp] theorem inWorld_apply {α : Type} (a : WorldAct α) (s : Handle × World) :
    inWorld a s = ((a s.2).1, (s.1, (a s.2).2)) := rfl

@[simp] theorem pidText_apply (s : Handle × World) :
    pidText s = (.ok (toString s.2.script.pid), s) := rfl

/-- What goes on in the world is upkeep if it is logging. -/
theorem keeps_inWorld {α : Type} {a : WorldAct α} (ha : a.Keeps (Onward Event.isLogging)) :
    (inWorld a).Keeps Upkeeps := by
  rintro ⟨h, w⟩
  rcases Passes.of_onward (h := h) (ha w) with ⟨es, hpass, hes⟩
  exact ⟨rfl, es, hpass, fun e he => Event.isUpkeep_of_isLogging (hes e he)⟩

theorem keeps_record {e : Event} (he : e.isUpkeep) :
    (inWorld (record e)).Keeps Upkeeps :=
  fun _ => .single he rfl rfl rfl

theorem keeps_note (level : LogLevel) (message : String) : (note level message).Keeps Upkeeps :=
  Keeps.bind .get fun h => keeps_inWorld (h.log.keeps_log level message)

/-- A message with a known logger cannot fail. -/
theorem note_spec {s : Handle × World} {l : Logger} (hl : LogSource.Settled s.2 s.1.log l)
    (level : LogLevel) (message : String) :
    ∃ t es, note level message s = (.ok (), t) ∧ t.1 = s.1 ∧ Passes s t es ∧
      ∀ e ∈ es, e.isMessage := by
  rcases Passes.of_onward (h := s.1) (l.written_onward .launcher level message s.2) with
    ⟨es, hpass, hes⟩
  refine ⟨(s.1, l.written .launcher level message s.2), es, ?_, rfl, hpass, hes⟩
  unfold note
  rw [bind_ok (self_apply s), inWorld_apply, hl.log_apply]

/-- What is upkeep and does not fail leads on with events of upkeep. -/
theorem Upkeeps.run {a : HandleAct Unit} (ha : a.Keeps Upkeeps) {s : Handle × World}
    (hok : (a s).1 = .ok ()) :
    ∃ t es, a s = (.ok (), t) ∧ t.1.child = s.1.child ∧ Passes s t es ∧ ∀ e ∈ es, e.isUpkeep := by
  rcases ha s with ⟨hchild, es, hpass, hes⟩
  exact ⟨(a s).2, es, Prod.ext hok rfl, hchild, hpass, hes⟩

section Pipes

/-! ## Pipes -/

theorem keeps_closePipe (pipe : OutputPipe) : (closePipe pipe).Keeps Upkeeps := by
  refine Keeps.ite (Keeps.bind (Keeps.modify fun s => ?_) fun _ => keeps_record rfl) (.pure _)
  exact .repiped s.1 _ s.2

theorem keeps_releaseOutput : releaseOutput.Keeps Upkeeps := by
  refine Keeps.bind .get fun h => ?_
  cases h.pipe with
  | none => exact .pure _
  | some pipe =>
      refine Keeps.bind (keeps_closePipe pipe) fun _ => ?_
      exact Keeps.bind (Keeps.modify fun t => .repiped t.1 _ t.2) fun _ => keeps_record rfl

theorem closePipe_ok (pipe : OutputPipe) (s : Handle × World) :
    ∃ t, closePipe pipe s = (.ok (), t) := by
  unfold closePipe
  split
  · exact ⟨_, rfl⟩
  · exact ⟨_, rfl⟩

/-- Letting go of the pipe cannot fail. -/
theorem releaseOutput_ok (s : Handle × World) : (releaseOutput s).1 = .ok () := by
  unfold releaseOutput
  rw [bind_ok (self_apply s)]
  cases s.1.pipe with
  | none => rfl
  | some pipe =>
      dsimp only
      rcases closePipe_ok pipe s with ⟨t, hclose⟩
      rw [bind_ok hclose]
      rfl

theorem keeps_logOutput (logger : Logger) (lines : List String) :
    (logOutput logger lines).Keeps (Onward Event.isLogging) := by
  induction lines with
  | nil => exact .pure _
  | cons line lines ih => exact Keeps.bind (logger.keeps_log_wide _ _ _) fun _ => ih

theorem logOutput_ok (logger : Logger) (lines : List String) (w : World) :
    (logOutput logger lines w).1 = .ok () := by
  induction lines generalizing w with
  | nil => rfl
  | cons line lines ih =>
      unfold logOutput
      rw [bind_ok (logger.log_apply _ _ _ w)]
      exact ih _

theorem keeps_handOverPipe : handOverPipe.Keeps Upkeeps := by
  refine Keeps.bind .get fun h => ?_
  cases h.pipe with
  | none => exact .pure _
  | some pipe =>
      refine Keeps.bind (keeps_closePipe pipe) fun _ => ?_
      exact Keeps.bind .get fun t => keeps_inWorld (keeps_logOutput pipe.logger _)

theorem handOverPipe_ok (s : Handle × World) : (handOverPipe s).1 = .ok () := by
  unfold handOverPipe
  rw [bind_ok (self_apply s)]
  cases s.1.pipe with
  | none => rfl
  | some pipe =>
      dsimp only
      rcases closePipe_ok pipe s with ⟨t, hclose⟩
      rw [bind_ok hclose, bind_ok (get_apply t)]
      exact logOutput_ok _ _ _

theorem keeps_openPipe : openPipe.Keeps Upkeeps := by
  refine Keeps.bind .get fun h => Keeps.bind (keeps_inWorld h.log.keeps_logger) fun l => ?_
  -- The pipe and the event that it was opened come in one step.
  exact Keeps.bind .get fun t => Keeps.modify fun u => .single rfl rfl rfl rfl

/-- With a known logger a pipe can be made. -/
theorem openPipe_ok {s : Handle × World} {l : Logger} (hl : LogSource.Settled s.2 s.1.log l) :
    (openPipe s).1 = .ok () := by
  unfold openPipe
  have hlogger : inWorld s.1.log.logger s = (.ok l, s) := by
    rw [inWorld_apply, hl.logger_apply]
  rw [bind_ok (self_apply s), bind_ok hlogger]
  rfl

end Pipes

section Questions

/-! ## Questions to the child -/

/-- An event that leaves the handle as it is. -/
theorem Passes.single {s t : Handle × World} {e : Event} (hpast : t.2.past = e :: s.2.past)
    (hhandle : t.1 = s.1) (hchosen : t.2.chosenLoggers = s.2.chosenLoggers) : Passes s t [e] :=
  ⟨hpast, by rw [hhandle], fun _ _ h => by rwa [hchosen]⟩

theorem pollChild_spec (child : Nat) (s : Handle × World) :
    ∃ t, inWorld (pollChild child) s = (.ok (s.2.script.poll s.2.polls), t) ∧ t.1 = s.1 ∧
      Passes s t [.polled child (s.2.script.poll s.2.polls)] :=
  ⟨_, rfl, rfl, .single rfl rfl rfl⟩

theorem terminateChild_spec (child : Nat) (s : Handle × World) :
    ∃ t, inWorld (terminateChild child) s = (.ok (), t) ∧ t.1 = s.1 ∧
      Passes s t [.terminated child] :=
  ⟨_, rfl, rfl, .single rfl rfl rfl⟩

theorem killChild_spec (child : Nat) (s : Handle × World) :
    ∃ t, inWorld (killChild child) s = (.ok (), t) ∧ t.1 = s.1 ∧ Passes s t [.killed child] :=
  ⟨_, rfl, rfl, .single rfl rfl rfl⟩

theorem waitForChild_spec (child : Nat) (limit : Option Number) (s : Handle × World) :
    ∃ t, inWorld (waitForChild child limit) s
        = (.ok ((s.2.script.wait s.2.waits).within limit), t) ∧ t.1 = s.1 ∧
      Passes s t [.waited child limit ((s.2.script.wait s.2.waits).within limit)] :=
  ⟨_, rfl, rfl, .single rfl rfl rfl⟩

theorem sleep_spec (s : Handle × World) :
    ∃ t, inWorld sleep s = (.ok (), t) ∧ t.1 = s.1 ∧ Passes s t [.slept] :=
  ⟨_, rfl, rfl, .single rfl rfl rfl⟩

/-- A wait without a limit comes back with an exit code unless it is interrupted. -/
theorem waitForExit_spec (child : Nat) (s : Handle × World) :
    (∃ code t, inWorld (waitForExit child) s = (.ok code, t) ∧ t.1 = s.1 ∧
      Passes s t [.waited child none (.exited code)]) ∨
    ∃ t, inWorld (waitForExit child) s = (.error .interrupted, t) ∧ t.1 = s.1 ∧
      Passes s t [.waited child none .interrupted] := by
  rcases waitForChild_spec child none s with ⟨t, hwait, ht, hpass⟩
  rw [inWorld_apply] at hwait ⊢
  rcases hw : waitForChild child none s.2 with ⟨outcome, w⟩
  rw [hw] at hwait
  cases hwait
  unfold waitForExit
  rw [bind_ok hw]
  -- Without a limit nothing runs out: a child that would not end has been killed.
  cases hanswer : s.2.script.wait s.2.waits with
  | exited code =>
      rw [hanswer] at hpass
      exact Or.inl ⟨code, _, rfl, rfl, hpass⟩
  | timedOut =>
      rw [hanswer] at hpass
      exact Or.inl ⟨killedCode, _, rfl, rfl, hpass⟩
  | interrupted =>
      rw [hanswer] at hpass
      exact Or.inr ⟨_, rfl, rfl, hpass⟩

/-- A server that is asked whether it is ready says so or not, or the question fails. -/
theorem ping_spec (s : Handle × World) :
    ∃ t url answer, Passes s t [.pinged url answer] ∧ t.1 = s.1 ∧
      ((∃ isReady, ping s = (.ok isReady, t) ∧ (Event.pinged url answer).isTrouble = false) ∨
      ∃ e, e ≠ .endless ∧ ping s = (.error e, t) ∧ (Event.pinged url answer).isTrouble) := by
  refine ⟨(s.1, (pingServer (statusUrl s.1.url) s.2).2), statusUrl s.1.url,
    s.2.script.ping s.2.pings, ?_⟩
  have hping : ping s = inWorld (pingServer (statusUrl s.1.url)) s := by
    unfold ping
    rw [bind_ok (self_apply s)]
  rw [hping, inWorld_apply]
  unfold pingServer askServer
  rw [bind_ok (modifyGet_apply _ s.2)]
  dsimp only
  -- A connection that is refused is no failure, for the server may not be ready yet.
  cases s.2.script.ping s.2.pings with
  | status code => exact ⟨.single rfl rfl rfl, rfl, Or.inl ⟨_, rfl, rfl⟩⟩
  | refused => exact ⟨.single rfl rfl rfl, rfl, Or.inl ⟨_, rfl, rfl⟩⟩
  | malformed line =>
      have hne : Failure.malformedAnswer line ≠ .endless := fun h => nomatch h
      exact ⟨.single rfl rfl rfl, rfl, Or.inr ⟨_, hne, rfl, rfl⟩⟩
  | interrupted =>
      have hne : Failure.interrupted ≠ .endless := fun h => nomatch h
      exact ⟨.single rfl rfl rfl, rfl, Or.inr ⟨_, hne, rfl, rfl⟩⟩

theorem hasLiveChild_of_none {s : Handle × World} (hchild : s.1.child = none) :
    hasLiveChild s = (.ok false, s) := by
  unfold hasLiveChild
  rw [bind_ok (self_apply s), hchild]
  rfl

/-- A child at hand is asked once whether it runs. -/
theorem hasLiveChild_of_some {child : Nat} {s : Handle × World}
    (hchild : s.1.child = some child) :
    ∃ t, hasLiveChild s = (.ok (s.2.script.poll s.2.polls).isNone, t) ∧ t.1 = s.1 ∧
      Passes s t [.polled child (s.2.script.poll s.2.polls)] := by
  rcases pollChild_spec child s with ⟨t, hpoll, ht, hpass⟩
  refine ⟨t, ?_, ht, hpass⟩
  unfold hasLiveChild
  rw [bind_ok (self_apply s), hchild]
  dsimp only
  rw [bind_ok hpoll]
  rfl

/-- Asking whether the server runs asks the child, and the server only if it does. -/
theorem isRunning_spec (s : Handle × World) :
    (isRunning s).2.1 = s.1 ∧ ∃ es, Passes s (isRunning s).2 es ∧
      Tending s.1.child s.1.child es := by
  unfold isRunning
  cases hchild : s.1.child with
  | none =>
      rw [bind_ok (hasLiveChild_of_none hchild), if_neg Bool.false_ne_true]
      exact ⟨rfl, [], .refl s, .of_upkeep (List.forall_mem_nil _)⟩
  | some child =>
      rcases hasLiveChild_of_some hchild with ⟨s₁, hlive, hs₁, hpass₁⟩
      have htend₁ := Tending.polled (some child) child (s.2.script.poll s.2.polls)
      rw [bind_ok hlive]
      by_cases hruns : (s.2.script.poll s.2.polls).isNone
      · rw [if_pos hruns]
        rcases ping_spec s₁ with ⟨s₂, url, answer, hpass₂, hs₂, hping⟩
        -- Whether the question fails makes no difference to the state it leaves.
        have hstate : (ping s₁).2 = s₂ := by
          rcases hping with ⟨isReady, hping, _⟩ | ⟨e, _, hping, _⟩
          · rw [hping]
          · rw [hping]
        rw [hstate]
        exact ⟨by rw [hs₂, hs₁], _, hpass₁.trans hpass₂, htend₁.append (.pinged _ url answer)⟩
      · rw [if_neg hruns]
        exact ⟨hs₁, _, hpass₁, htend₁⟩

/-- Waiting for the child leaves the handle as it is. -/
theorem wait_spec (s : Handle × World) :
    (wait s).2.1 = s.1 ∧ ∃ es, Passes s (wait s).2 es ∧ Tending s.1.child s.1.child es := by
  unfold wait
  rw [bind_ok (self_apply s)]
  cases hchild : s.1.child with
  | none => exact ⟨rfl, [], .refl s, .of_upkeep (List.forall_mem_nil _)⟩
  | some child =>
      have hwaited (answer : WaitAnswer) :
          Tending (some child) (some child) [.waited child none answer] :=
        .single rfl (fun _ h => nomatch h) fun _ h => Or.inl h
      rcases waitForExit_spec child s with ⟨code, t, hwait, ht, hpass⟩ | ⟨t, hwait, ht, hpass⟩
      · dsimp only
        rw [hwait]
        exact ⟨ht, _, hpass, hwaited _⟩
      · dsimp only
        rw [hwait]
        exact ⟨ht, _, hpass, hwaited _⟩

end Questions

section Stopping

/-! ## Stopping -/

-- The last resort. Nothing but messages may stand between the wait that ran out and the kill, so
-- the two are kept apart in the list of events.
theorem killUnheard_spec {child : Nat} {s t : Handle × World} {r : Except Failure Unit}
    {l : Logger} (hl : LogSource.Settled s.2 s.1.log l)
    (hrun : (do
      note .warning ("Appium server ignored terminate, killing pid=" ++ (← pidText))
      inWorld (killChild child)
      let _ ← inWorld (waitForExit child) : HandleAct Unit) s = (r, t)) :
    t.1 = s.1 ∧ (r = .ok () ∨ r = .error .interrupted) ∧
      ∃ messages answer, Passes s t (.waited child none answer :: .killed child :: messages) ∧
        ∀ e ∈ messages, e.isMessage := by
  rw [bind_ok (pidText_apply s)] at hrun
  rcases note_spec hl .warning
    ("Appium server ignored terminate, killing pid=" ++ toString s.2.script.pid) with
    ⟨s₁, es₁, hwarn, hs₁, hpass₁, hes₁⟩
  rcases killChild_spec child s₁ with ⟨s₂, hkill, hs₂, hpass₂⟩
  rw [bind_ok hwarn, bind_ok hkill] at hrun
  have hpass := hpass₁.trans hpass₂
  rcases waitForExit_spec child s₂ with ⟨code, s₃, hexit, hs₃, hpass₃⟩ | ⟨s₃, hexit, hs₃, hpass₃⟩
  · rw [bind_ok hexit] at hrun
    cases hrun
    exact ⟨by rw [hs₃, hs₂, hs₁], Or.inl rfl, es₁, _, hpass.trans hpass₃, hes₁⟩
  · rw [bind_error hexit] at hrun
    cases hrun
    exact ⟨by rw [hs₃, hs₂, hs₁], Or.inr rfl, es₁, _, hpass.trans hpass₃, hes₁⟩

/-- A child that is asked to end is over, whatever becomes of the wait for it. -/
theorem endChild_spec {child : Nat} {s t : Handle × World} {r : Except Failure Unit} {l : Logger}
    (hl : LogSource.Settled s.2 s.1.log l) (hrun : endChild child s = (r, t)) :
    t.1 = s.1 ∧ (r = .ok () ∨ r = .error .interrupted) ∧
      ∃ es, Passes s t es ∧ Tending (some child) none es ∧ ∀ e ∈ es, e.isTrouble = false := by
  unfold endChild at hrun
  rw [bind_ok (pidText_apply s)] at hrun
  rcases note_spec hl .debug ("Stopping Appium server: pid=" ++ toString s.2.script.pid) with
    ⟨s₁, es₁, hnote, hs₁, hpass₁, hes₁⟩
  rcases terminateChild_spec child s₁ with ⟨s₂, hterminate, hs₂, hpass₂⟩
  rcases waitForChild_spec child (some gracePeriod) s₂ with ⟨s₃, hwait, hs₃, hpass₃⟩
  rw [bind_ok hnote, bind_ok hterminate, bind_ok hwait] at hrun
  have hnoted : Tending (some child) (some child) es₁ := .of_messages hes₁
  have hcalm₁ := Event.calm_of_messages hes₁
  have hpass := hpass₁.trans (hpass₂.trans hpass₃)
  have hs : s₃.1 = s.1 := by rw [hs₃, hs₂, hs₁]
  -- From the request on the child is over, so any wait after it goes on from no child to none.
  have hwaited (limit : Option Number) (answer : WaitAnswer) :
      Tending none none [.waited child limit answer] := .single_none rfl fun _ h => nomatch h
  have hasked (answer : WaitAnswer) := hnoted.append
    ((Tending.terminated child).append (hwaited (some gracePeriod) answer))
  have hcalm (answer : WaitAnswer) : ∀ e ∈
      ([.waited child (some gracePeriod) answer] ++ [.terminated child]) ++ es₁,
      e.isTrouble = false := by
    simp only [List.forall_mem_append, List.forall_mem_singleton]
    exact ⟨⟨rfl, rfl⟩, hcalm₁⟩
  cases hanswer : (s₂.2.script.wait s₂.2.waits).within (some gracePeriod) with
  | exited code =>
      rw [hanswer] at hrun hpass
      cases hrun
      exact ⟨hs, Or.inl rfl, _, hpass, hasked _, hcalm _⟩
  | interrupted =>
      rw [hanswer] at hrun hpass
      cases hrun
      exact ⟨hs, Or.inr rfl, _, hpass, hasked _, hcalm _⟩
  | timedOut =>
      rw [hanswer] at hrun hpass
      rcases killUnheard_spec (hpass.settled hl) hrun with
        ⟨ht, hr, messages, answer, hpass₄, hmessages⟩
      have hkilled : Tending (some child) none _ :=
        (hnoted.append (.killed hmessages)).append (hwaited none answer)
      have hall := hpass.trans hpass₄
      have hcalm₄ : ∀ e ∈ .waited child none answer :: .killed child :: messages,
          e.isTrouble = false := by
        simp only [List.forall_mem_cons]
        exact ⟨rfl, rfl, Event.calm_of_messages hmessages⟩
      refine ⟨ht.trans hs, hr, _, hall, ?_, List.forall_mem_append.mpr ⟨hcalm₄, hcalm _⟩⟩
      simpa only [List.append_assoc, List.cons_append, List.nil_append] using hkilled

/-- Without a child there is nothing to stop. -/
theorem stop_of_none {s : Handle × World} (hchild : s.1.child = none) :
    stop s = (.ok (), s) := by
  unfold stop
  rw [bind_ok (self_apply s), hchild]
  rfl

/-- Stopping lets go of the child first, but by the time it comes back the child is over,
    whatever it comes back with. -/
theorem stop_spec {child : Nat} {s t : Handle × World} {r : Except Failure Unit} {l : Logger}
    (hchild : s.1.child = some child) (hl : LogSource.Settled s.2 s.1.log l)
    (hrun : stop s = (r, t)) :
    t.1.child = none ∧ (r = .ok () ∨ r = .error .interrupted) ∧
      ∃ es, Passes s t es ∧ Tending (some child) none es ∧ ∀ e ∈ es, e.isTrouble = false := by
  unfold stop at hrun
  rw [bind_ok (self_apply s), hchild] at hrun
  dsimp only at hrun
  rw [bind_ok (change_apply _ s)] at hrun
  -- The handle has let go of the child before anything is known of it. From here on it is the
  -- events that have to say that the child is over.
  have hdropped : Passes s ({ s.1 with child := none }, s.2) [] := ⟨rfl, rfl, fun _ _ h => h⟩
  rcases pollChild_spec child ({ s.1 with child := none }, s.2) with ⟨s₁, hpoll, hs₁, hpass₁⟩
  rw [bind_ok hpoll] at hrun
  have hpassed := hdropped.trans hpass₁
  have hnone : s₁.1.child = none := by rw [hs₁]
  dsimp only at hrun hpassed
  cases hexit : s.2.script.poll s.2.polls with
  | some code =>
      rw [hexit] at hrun hpassed
      rw [if_neg (by simp only [Option.isNone_some, Bool.false_eq_true, not_false_eq_true])] at hrun
      rcases Upkeeps.run keeps_releaseOutput (releaseOutput_ok s₁) with
        ⟨s₂, es₂, hrelease, hs₂, hpass₂, hes₂⟩
      rw [hrelease] at hrun
      cases hrun
      exact ⟨by rw [hs₂, hnone], Or.inl rfl, _, hpassed.trans hpass₂,
        (Tending.exited child code).append (.of_upkeep hes₂), List.forall_mem_append.mpr
        ⟨Event.calm_of_upkeep hes₂, List.forall_mem_singleton.mpr rfl⟩⟩
  | none =>
      rw [hexit] at hrun hpassed
      rw [if_pos Option.isNone_none] at hrun
      rcases hend : endChild child s₁ with ⟨r₂, s₂⟩
      rcases endChild_spec (hpassed.settled hl) hend with ⟨hs₂, hr₂, es₂, hpass₂, htend₂, hcalm₂⟩
      have htend := (Tending.polled (some child) child none).append htend₂
      rcases hr₂ with rfl | rfl
      · rw [bind_ok hend] at hrun
        rcases Upkeeps.run keeps_releaseOutput (releaseOutput_ok s₂) with
          ⟨s₃, es₃, hrelease, hs₃, hpass₃, hes₃⟩
        rw [hrelease] at hrun
        cases hrun
        exact ⟨by rw [hs₃, hs₂, hnone], Or.inl rfl, _, (hpassed.trans hpass₂).trans hpass₃,
          htend.append (.of_upkeep hes₃), List.forall_mem_append.mpr ⟨Event.calm_of_upkeep hes₃,
          List.forall_mem_append.mpr ⟨hcalm₂, List.forall_mem_singleton.mpr rfl⟩⟩⟩
      · -- The pipe is kept, but the child has been asked to end.
        rw [bind_error hend] at hrun
        cases hrun
        exact ⟨by rw [hs₂, hnone], Or.inr rfl, _, hpassed.trans hpass₂, htend,
          List.forall_mem_append.mpr ⟨hcalm₂, List.forall_mem_singleton.mpr rfl⟩⟩

end Stopping

section Waiting

/-! ## Waiting for the server -/

/-- How the wait for the server of a child ends: by outcome, by the child that the handle
    holds afterwards, and by the events of the wait. -/
inductive Await (child : Nat) : Except Failure Unit → Option Nat → List Event → Prop
  /-- The server is ready. -/
  | ready {es : List Event} (hcalm : ∀ e ∈ es, e.isTrouble = false) :
      Await child (.ok ()) (some child) es
  /-- The child has ended, or the handle has given up and ended it. -/
  | ended {e : Failure} {es : List Event} (he : e ≠ .endless)
      (hcalm : ∀ e ∈ es, e.isTrouble = false) : Await child (.error e) none es
  /-- A question to the server has failed, and the child was left as it was. -/
  | troubled {e : Failure} {es : List Event} (he : e ≠ .endless)
      (htrouble : ∃ e ∈ es, e.isTrouble) (hopen : ∀ e ∈ es, e.concludes child = false) :
      Await child (.error e) (some child) es
  /-- The wait has not come to an end. -/
  | endless {es : List Event} (hcalm : ∀ e ∈ es, e.isTrouble = false)
      (hopen : ∀ e ∈ es, e.concludes child = false) :
      Await child (.error .endless) (some child) es

/-- A wait is what it is after a round in which nothing was decided. -/
theorem Await.after_round {child : Nat} {r : Except Failure Unit} {after : Option Nat}
    {es es₀ : List Event} (h : Await child r after es)
    (hcalm₀ : ∀ e ∈ es₀, e.isTrouble = false)
    (hopen₀ : ∀ e ∈ es₀, e.concludes child = false) : Await child r after (es ++ es₀) := by
  cases h with
  | ready hcalm => exact .ready (List.forall_mem_append.mpr ⟨hcalm, hcalm₀⟩)
  | ended he hcalm => exact .ended he (List.forall_mem_append.mpr ⟨hcalm, hcalm₀⟩)
  | troubled he htrouble hopen =>
      rcases htrouble with ⟨e, hmem, htrouble⟩
      exact .troubled he ⟨e, List.mem_append_left es₀ hmem, htrouble⟩
        (List.forall_mem_append.mpr ⟨hopen, hopen₀⟩)
  | endless hcalm hopen =>
      exact .endless (List.forall_mem_append.mpr ⟨hcalm, hcalm₀⟩)
        (List.forall_mem_append.mpr ⟨hopen, hopen₀⟩)

/-- Giving up is a failure, and the child is over. -/
theorem giveUp_spec {child : Nat} {s t : Handle × World} {r : Except Failure Unit} {l : Logger}
    (hchild : s.1.child = some child) (hl : LogSource.Settled s.2 s.1.log l)
    (hrun : giveUp s = (r, t)) :
    ∃ es, Passes s t es ∧ Tending (some child) t.1.child es ∧ Await child r t.1.child es := by
  unfold giveUp at hrun
  rw [bind_ok (self_apply s)] at hrun
  rcases note_spec hl .warning s.1.notReadyWarning with ⟨s₁, es₁, hnote, hs₁, hpass₁, hes₁⟩
  rw [bind_ok hnote] at hrun
  rcases hstop : stop s₁ with ⟨r₂, s₂⟩
  rcases stop_spec (by rw [hs₁, hchild]) (hpass₁.settled hl) hstop with
    ⟨hs₂, hr₂, es₂, hpass₂, htend₂, hcalm₂⟩
  have htend := (Tending.of_messages hes₁).append htend₂
  have hcalm : ∀ e ∈ es₂ ++ es₁, e.isTrouble = false :=
    List.forall_mem_append.mpr ⟨hcalm₂, Event.calm_of_messages hes₁⟩
  -- A stop that is interrupted only changes which failure it is.
  rcases hr₂ with rfl | rfl
  · rw [bind_ok hstop, bind_ok (self_apply s₂), throw_apply] at hrun
    cases hrun
    rw [hs₂]
    exact ⟨_, hpass₁.trans hpass₂, htend, .ended (fun h => nomatch h) hcalm⟩
  · rw [bind_error hstop] at hrun
    cases hrun
    rw [hs₂]
    exact ⟨_, hpass₁.trans hpass₂, htend, .ended (fun h => nomatch h) hcalm⟩

-- What a round does about a child that has ended: the handle lets go of it and of its pipe, and
-- says so.
theorem exitedEarly_spec {code : Int} {s t : Handle × World} {r : Except Failure Unit}
    (hrun : (do
      change fun h => { h with child := none }
      releaseOutput
      throw ((← self).startupError exitedEarly (some code) none) : HandleAct Unit) s = (r, t)) :
    t.1.child = none ∧ (∃ e, e ≠ .endless ∧ r = .error e) ∧
      ∃ es, Passes s t es ∧ ∀ e ∈ es, e.isUpkeep := by
  rw [bind_ok (change_apply _ s)] at hrun
  have hdropped : Passes s ({ s.1 with child := none }, s.2) [] := ⟨rfl, rfl, fun _ _ h => h⟩
  rcases Upkeeps.run keeps_releaseOutput (releaseOutput_ok ({ s.1 with child := none }, s.2)) with
    ⟨s₁, es₁, hrelease, hs₁, hpass₁, hes₁⟩
  rw [bind_ok hrelease, bind_ok (self_apply s₁), throw_apply] at hrun
  cases hrun
  exact ⟨hs₁, ⟨t.1.startupError exitedEarly (some code) none, fun h => (nomatch h), rfl⟩,
    es₁ ++ [], hdropped.trans hpass₁, List.forall_mem_append.mpr ⟨hes₁, List.forall_mem_nil _⟩⟩

/-- One round of the wait, in which there is still time. It decides the wait, or it leaves the
    child as it is and the rest of the rounds. -/
theorem awaitReady_round {child : Nat} {deadline : Instant} {rounds : Nat}
    {s t : Handle × World} {r : Except Failure Unit} {l : Logger}
    (hchild : s.1.child = some child) (hl : LogSource.Settled s.2 s.1.log l)
    (hbefore : s.2.clock.isBefore deadline)
    (hrun : awaitReady child deadline (rounds + 1) s = (r, t)) :
    (∃ es, Passes s t es ∧ Tending (some child) t.1.child es ∧ Await child r t.1.child es) ∨
    ∃ u es, awaitReady child deadline rounds u = (r, t) ∧ u.1.child = some child ∧
      Passes s u es ∧ Tending (some child) (some child) es ∧
      (∀ e ∈ es, e.isTrouble = false) ∧ ∀ e ∈ es, e.concludes child = false := by
  unfold awaitReady at hrun
  rw [bind_ok (get_apply s), if_pos hbefore] at hrun
  -- The child is asked first, and the server only while the child runs.
  rcases pollChild_spec child s with ⟨s₁, hpoll, hs₁, hpass₁⟩
  rw [bind_ok hpoll] at hrun
  cases hexit : s.2.script.poll s.2.polls with
  | some code =>
      rw [hexit] at hrun hpass₁
      rcases exitedEarly_spec hrun with ⟨hnone, ⟨e, he, rfl⟩, es₂, hpass₂, hes₂⟩
      rw [hnone]
      exact Or.inl ⟨_, hpass₁.trans hpass₂, (Tending.exited child code).append (.of_upkeep hes₂),
        .ended he (List.forall_mem_append.mpr ⟨Event.calm_of_upkeep hes₂,
          List.forall_mem_singleton.mpr rfl⟩)⟩
  | none =>
      rw [hexit] at hrun hpass₁
      dsimp only at hrun
      rcases ping_spec s₁ with ⟨s₂, url, answer, hpass₂, hs₂, hping⟩
      have hchild₂ : s₂.1.child = some child := by rw [hs₂, hs₁, hchild]
      have hpass := hpass₁.trans hpass₂
      have htend := (Tending.polled (some child) child none).append
        (Tending.pinged (some child) url answer)
      have hopen : ∀ e ∈ [Event.pinged url answer] ++ [.polled child none],
          e.concludes child = false := by
        simp only [List.forall_mem_append, List.forall_mem_singleton]
        exact ⟨rfl, rfl⟩
      rcases hping with ⟨isReady, hping, hcalm₂⟩ | ⟨e, he, hping, htrouble⟩
      · rw [bind_ok hping] at hrun
        have hcalm : ∀ e ∈ [Event.pinged url answer] ++ [.polled child none],
            e.isTrouble = false := by
          simp only [List.forall_mem_append, List.forall_mem_singleton]
          exact ⟨hcalm₂, rfl⟩
        cases isReady with
        | true =>
            rw [if_pos rfl, bind_ok (self_apply s₂)] at hrun
            rcases note_spec (hpass.settled hl) .info
              ("Appium server is ready at " ++ s₂.1.url) with ⟨s₃, es₃, hnote, hs₃, hpass₃, hes₃⟩
            rw [hnote] at hrun
            cases hrun
            rw [hs₃, hchild₂]
            exact Or.inl ⟨_, hpass.trans hpass₃, htend.append (.of_messages hes₃),
              .ready (List.forall_mem_append.mpr ⟨Event.calm_of_messages hes₃, hcalm⟩)⟩
        | false =>
            rw [if_neg Bool.false_ne_true] at hrun
            rcases sleep_spec s₂ with ⟨s₃, hsleep, hs₃, hpass₃⟩
            rw [bind_ok hsleep] at hrun
            have hslept : Tending (some child) (some child) [.slept] :=
              .of_upkeep (List.forall_mem_singleton.mpr rfl)
            exact Or.inr ⟨s₃, _, hrun, by rw [hs₃, hchild₂], hpass.trans hpass₃,
              htend.append hslept, List.forall_mem_cons.mpr ⟨rfl, hcalm⟩,
              List.forall_mem_cons.mpr ⟨rfl, hopen⟩⟩
      · -- Nothing catches the failure, so the child is left as it is.
        rw [bind_error hping] at hrun
        cases hrun
        rw [hchild₂]
        exact Or.inl ⟨_, hpass, htend, .troubled he ⟨_, List.mem_cons_self, htrouble⟩ hopen⟩

/-- The wait for the server ends in one of four ways. The induction is on the rounds: a round
    that decides nothing leaves the child, the logger and the rest of the rounds. -/
theorem awaitReady_spec {child : Nat} {deadline : Instant} {rounds : Nat} {s t : Handle × World}
    {r : Except Failure Unit} {l : Logger} (hchild : s.1.child = some child)
    (hl : LogSource.Settled s.2 s.1.log l) (hrun : awaitReady child deadline rounds s = (r, t)) :
    ∃ es, Passes s t es ∧ Tending (some child) t.1.child es ∧ Await child r t.1.child es := by
  induction rounds generalizing s with
  | zero =>
      unfold awaitReady at hrun
      rw [bind_ok (get_apply s)] at hrun
      by_cases hbefore : s.2.clock.isBefore deadline
      · rw [if_pos hbefore] at hrun
        cases hrun
        rw [hchild]
        exact ⟨[], .refl _, .of_upkeep (List.forall_mem_nil _),
          .endless (List.forall_mem_nil _) (List.forall_mem_nil _)⟩
      · rw [if_neg hbefore] at hrun
        exact giveUp_spec hchild hl hrun
  | succ rounds ih =>
      by_cases hbefore : s.2.clock.isBefore deadline
      · rcases awaitReady_round hchild hl hbefore hrun with hdecided |
          ⟨u, es, hrest, hu, hpass, htend, hcalm, hopen⟩
        · exact hdecided
        · rcases ih hu (hpass.settled hl) hrest with ⟨es', hpass', htend', hawait⟩
          exact ⟨_, hpass.trans hpass', htend.append htend', hawait.after_round hcalm hopen⟩
      · unfold awaitReady at hrun
        rw [bind_ok (get_apply s), if_neg hbefore] at hrun
        exact giveUp_spec hchild hl hrun

end Waiting

end Handle

end ServerLaunch
