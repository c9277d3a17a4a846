import ServerLaunch.Proofs.Course
import ServerLaunch.Proofs.Outcome

/-!
# Outcomes of a Start

What a start leaves behind, for each way in which it can end.

The history of a start says what became of its child. What its failure is, and what the
handle holds when it is raised, is another matter, and for that every step between the launch
and the end of the wait for the server counts. `Ran` is the relation that these steps build
up. Its reasons for a failure are few. The start gives up on the server or sees the child
end, and then it says so, and the handle has let go of the child and of the pipe. The server
answers with something that is no answer, which passes through. The user interrupts. Or the
wait does not come to an end at all.

Before the wait a start may fail in three more ways, which `Started` lists next to the wait: it
has no logger, there is no child to be had, or the timeout is none.

## Main definitions

* `ChildScript.Interrupts`: The user interrupts a question or a wait.
* `Handle.Told`, `Handle.Ran`: What a failure tells of the events and of the handle.
* `Handle.Started`: How a start ends.
* `Handle.Readied`: A start has come to where it asks for a child.

## Theorems

* `Handle.stop_ends`: A stop that comes back has let go of the child and the pipe.
* `Handle.awaitReady_ends`: The wait for the server, by induction on its rounds.
* `deadlineAfter_eq_ok`: Whether a timeout is one does not depend on the clock.
* `Handle.start_readied`: What a start does before it asks for a child.
* `Handle.start_started`: Every start ends in one of the ways.
-/

namespace ServerLaunch

open Act World

/-- The user interrupts a question to a server or a wait for a child. -/
def ChildScript.Interrupts (script : ChildScript) : Prop :=
  (∃ n, script.ping n = .interrupted) ∨ ∃ n, script.wait n = .interrupted

theorem WaitAnswer.within_eq_interrupted {limit : Option Number} {answer : WaitAnswer}
    (h : answer.within limit = .interrupted) : answer = .interrupted := by
  cases limit <;> cases answer <;> first | rfl | cases h

/-- Whether a timeout is one does not depend on the clock. -/
theorem deadlineAfter_isOk (shown shown' : Rat → Instant) (now now' : Instant) (timeout : Value) :
    (deadlineAfter shown now timeout).isOk = (deadlineAfter shown' now' timeout).isOk := by
  unfold deadlineAfter
  rcases timeout.number? with _ | i | x
  · rfl
  · simp only [Instant.ofNumber?]
    cases Binary64.ofInt i <;> rfl
  · rfl

/-- Whether a failure is one for the sake of a timeout. -/
def Failure.isUntimed : Failure → Bool
  | .wrongKind | .tooLarge => true
  | _ => false

theorem isUntimed_of_deadlineAfter {shown : Rat → Instant} {now : Instant} {timeout : Value}
    {e : Failure} (h : deadlineAfter shown now timeout = .error e) : e.isUntimed := by
  unfold deadlineAfter at h
  split at h
  · cases h
    rfl
  · split at h
    · cases h
      rfl
    · cases h

/-- Whether a child is launched, and not in vain. -/
def Event.isSpawn : Event → Bool
  | .launched _ _ _ (some _) => true
  | _ => false

/-- Whatever comes with a start that launches nothing. -/
def Event.isIdle (e : Event) : Bool :=
  !e.isTrouble && !e.isSpawn

namespace Event

theorem isIdle_of_isUpkeep {e : Event} (h : e.isUpkeep) : e.isIdle := by
  cases e <;> first | rfl | exact absurd h Bool.false_ne_true

theorem isTrouble_of_isIdle {e : Event} (h : e.isIdle) : e.isTrouble = false := by
  simp only [isIdle, Bool.and_eq_true, Bool.not_eq_true'] at h
  exact h.1

theorem isSpawn_of_isIdle {e : Event} (h : e.isIdle) : e.isSpawn = false := by
  simp only [isIdle, Bool.and_eq_true, Bool.not_eq_true'] at h
  exact h.2

theorem idle_of_upkeep {es : List Event} (hes : ∀ e ∈ es, e.isUpkeep) : ∀ e ∈ es, e.isIdle :=
  fun e he => isIdle_of_isUpkeep (hes e he)

end Event

namespace Handle

section Reasons

/-! ## Reasons -/

/-- What the failure of an action, if there is one, tells of the events until then and of the
    handle that is left. -/
inductive Told (t : Handle × World) (es : List Event) : Option Failure → Prop
  /-- All is well. -/
  | well (hcalm : ∀ e ∈ es, e.isTrouble = false) : Told t es none
  /-- There is no server, and the handle has let go of what it had. -/
  | startup {e : LaunchError} (hkind : e.kind = .startup) (hcalm : ∀ e ∈ es, e.isTrouble = false)
      (hchild : t.1.child = none) (hpipe : t.1.pipe = none) : Told t es (some (.launch e))
  /-- The server has answered with something that is no answer, and never before. -/
  | malformed {url line : String} (hmem : .pinged url (.malformed line) ∈ es)
      (honly : ∀ url' line', .pinged url' (.malformed line') ∈ es → line' = line) :
      Told t es (some (.malformedAnswer line))
  /-- The user has interrupted. -/
  | interrupted (h : t.2.script.Interrupts) : Told t es (some .interrupted)
  /-- The wait does not come to an end. -/
  | endless (hcalm : ∀ e ∈ es, e.isTrouble = false) : Told t es (some .endless)

/-- An action has led from one state to another, and has ended as the events tell. -/
structure Ran (s : Handle × World) (o : Option Failure) (t : Handle × World) : Prop where
  run : ∃ es, Passes s t es ∧ Told t es o
  script : t.2.script = s.2.script

/-- What came before does not change what a failure tells, as long as it was well. -/
theorem Told.after {t : Handle × World} {es es' : List Event} {o : Option Failure}
    (h : Told t es' o) (hcalm : ∀ e ∈ es, e.isTrouble = false) : Told t (es' ++ es) o := by
  cases h with
  | well hcalm' => exact .well (List.forall_mem_append.mpr ⟨hcalm', hcalm⟩)
  | startup hkind hcalm' hchild hpipe =>
      exact .startup hkind (List.forall_mem_append.mpr ⟨hcalm', hcalm⟩) hchild hpipe
  | malformed hmem honly =>
      refine .malformed (List.mem_append_left _ hmem) fun url' line' hmem' => ?_
      rcases List.mem_append.mp hmem' with hmem' | hmem'
      · exact honly url' line' hmem'
      · exact absurd (hcalm _ hmem') Bool.noConfusion
  | interrupted h => exact .interrupted h
  | endless hcalm' => exact .endless (List.forall_mem_append.mpr ⟨hcalm', hcalm⟩)

namespace Ran

variable {s t : Handle × World}

instance : Sequential Ran where
  refl s := ⟨⟨[], .refl s, .well (List.forall_mem_nil _)⟩, rfl⟩
  trans h h' := by
    rcases h with ⟨⟨es, hpass, hcalm⟩, hscript⟩
    rcases h' with ⟨⟨es', hpass', htold⟩, hscript'⟩
    cases hcalm with
    | well hcalm => exact ⟨⟨_, hpass.trans hpass', htold.after hcalm⟩, hscript'.trans hscript⟩

/-- A logger that is known stays known. -/
theorem settled {l : Logger} {o : Option Failure} (h : Ran s o t)
    (hl : LogSource.Settled s.2 s.1.log l) : LogSource.Settled t.2 t.1.log l := by
  rcases h.run with ⟨es, hpass, _⟩
  exact hpass.settled hl

/-- One event, and no trouble. -/
theorem single {e : Event} (he : e.isTrouble = false) (hpass : Passes s t [e])
    (hscript : t.2.script = s.2.script) : Ran s none t :=
  ⟨⟨[e], hpass, .well (List.forall_mem_singleton.mpr he)⟩, hscript⟩

/-- An action that fails without doing anything. -/
theorem of_told {e : Failure} (h : Told s [] (some e)) : Ran s (some e) s :=
  ⟨⟨[], .refl s, h⟩, rfl⟩

/-- The handle changes the child that it holds. -/
theorem held (h : Handle) (child : Option Nat) (w : World) :
    Ran (h, w) none ({ h with child }, w) :=
  ⟨⟨[], ⟨rfl, rfl, fun _ _ hkey => hkey⟩, .well (List.forall_mem_nil _)⟩, rfl⟩

end Ran

end Reasons

section Steps

/-! ## Steps -/

variable {s : Handle × World} {l : Logger} {child : Nat}

theorem note_ends (hl : LogSource.Settled s.2 s.1.log l) (level : LogLevel) (message : String) :
    Ends Ran (fun _ t => t.1 = s.1) (note level message) s := by
  rcases note_spec hl level message with ⟨t, es, hrun, ht, hpass, hes⟩
  have hrest := atRest_note level message s
  rw [hrun] at hrest
  exact .of_ok hrun ⟨⟨es, hpass, .well (Event.calm_of_messages hes)⟩, hrest.script⟩ ht

/-- An action that is upkeep and does not fail. -/
theorem upkeep_ends {a : HandleAct Unit} (ha : a.Keeps Upkeeps) (hrest : a.Keeps AtRest)
    (hok : (a s).1 = .ok ()) : Ends Ran (fun _ t => t.1.child = s.1.child) a s := by
  rcases Upkeeps.run ha hok with ⟨t, es, hrun, ht, hpass, hes⟩
  have hrest := hrest s
  rw [hrun] at hrest
  exact .of_ok hrun ⟨⟨es, hpass, .well (Event.calm_of_upkeep hes)⟩, hrest.script⟩ ht

theorem releaseOutput_pipe (s : Handle × World) : (releaseOutput s).2.1.pipe = none := by
  unfold releaseOutput
  rw [bind_ok (self_apply s)]
  cases hpipe : s.1.pipe with
  | none => exact hpipe
  | some pipe =>
      dsimp only
      rcases closePipe_ok pipe s with ⟨t, hclose⟩
      rw [bind_ok hclose]
      rfl

/-- Letting go of the pipe leaves the child, and leaves no pipe. -/
theorem releaseOutput_ends (s : Handle × World) :
    Ends Ran (fun _ t => t.1.child = s.1.child ∧ t.1.pipe = none) releaseOutput s := by
  have hends := upkeep_ends keeps_releaseOutput atRest_releaseOutput (releaseOutput_ok s)
  rcases hrun : releaseOutput s with ⟨_ | x, t⟩
  · exact .of_error hrun (hends.error hrun)
  · have hpipe := releaseOutput_pipe s
    rw [hrun] at hpipe
    exact .of_ok hrun (hends.ok hrun).1 ⟨(hends.ok hrun).2, hpipe⟩

theorem record_ends {e : Event} (he : e.isTrouble = false) (s : Handle × World) :
    Ends Ran (fun _ t => t.1 = s.1) (inWorld (record e)) s :=
  .of_ok rfl (.single he (.single rfl rfl rfl) rfl) rfl

theorem pollChild_ends (child : Nat) (s : Handle × World) :
    Ends Ran (fun _ t => t.1 = s.1) (inWorld (pollChild child)) s :=
  .of_ok rfl (.single rfl (.single rfl rfl rfl) rfl) rfl

theorem waitForChild_ends (child : Nat) (limit : Option Number) (s : Handle × World) :
    Ends Ran (fun answer t => t.1 = s.1 ∧ (answer = .interrupted → t.2.script.Interrupts))
      (inWorld (waitForChild child limit)) s := by
  refine .of_ok rfl (.single rfl (.single rfl rfl rfl) rfl) ⟨rfl, fun h => Or.inr ?_⟩
  exact ⟨s.2.waits, WaitAnswer.within_eq_interrupted h⟩

theorem waitForExit_ends (child : Nat) (s : Handle × World) :
    Ends Ran (fun _ t => t.1 = s.1) (inWorld (waitForExit child)) s := by
  unfold waitForExit
  rw [inWorld_bind]
  refine .bind (waitForChild_ends child none s) fun answer t hran ht => ?_
  cases answer with
  | exited code => exact .pure ht.1
  | timedOut => exact .pure ht.1
  | interrupted => exact .throw (.of_told (.interrupted (ht.2 rfl)))

theorem ping_apply (s : Handle × World) :
    ping s = (match s.2.script.ping s.2.pings with
      | .status code => .ok (code == readyStatus)
      | .refused => .ok false
      | .malformed line => .error (.malformedAnswer line)
      | .interrupted => .error .interrupted, (s.1, (askServer (statusUrl s.1.url) s.2).2)) := by
  unfold ping
  rw [bind_ok (self_apply s), inWorld_apply]
  unfold pingServer
  have hask : askServer (statusUrl s.1.url) s.2
      = (.ok (s.2.script.ping s.2.pings), (askServer (statusUrl s.1.url) s.2).2) := rfl
  rw [bind_ok hask]
  generalize (askServer (statusUrl s.1.url) s.2).2 = w
  cases s.2.script.ping s.2.pings <;> rfl

/-- A question to the server fails if the answer is none, or if the user interrupts. -/
theorem ping_ends (s : Handle × World) : Ends Ran (fun _ t => t.1 = s.1) ping s := by
  -- The question is one event whatever the answer; the failure depends on the answer alone.
  have hpass : Passes s (s.1, (askServer (statusUrl s.1.url) s.2).2)
      [.pinged (statusUrl s.1.url) (s.2.script.ping s.2.pings)] := .single rfl rfl rfl
  have hrun := ping_apply s
  cases hanswer : s.2.script.ping s.2.pings with
  | status code =>
      rw [hanswer] at hpass hrun
      exact .of_ok hrun (.single rfl hpass rfl) rfl
  | refused =>
      rw [hanswer] at hpass hrun
      exact .of_ok hrun (.single rfl hpass rfl) rfl
  | malformed line =>
      rw [hanswer] at hpass hrun
      have honly : ∀ url' line', Event.pinged url' (.malformed line') ∈
          [.pinged (statusUrl s.1.url) (.malformed line)] → line' = line := by
        intro url' line' hmem
        cases List.mem_singleton.mp hmem
        rfl
      exact .of_error hrun ⟨⟨_, hpass, .malformed List.mem_cons_self honly⟩, rfl⟩
  | interrupted =>
      rw [hanswer] at hpass hrun
      exact .of_error hrun ⟨⟨_, hpass, .interrupted (Or.inl ⟨_, hanswer⟩)⟩, rfl⟩

theorem sleep_ends (s : Handle × World) : Ends Ran (fun _ t => t.1 = s.1) (inWorld sleep) s :=
  .of_ok rfl (.single rfl (.single rfl rfl rfl) rfl) rfl

/-- A child that is asked to end is waited for, and only a user who interrupts keeps it from
    coming back. -/
theorem endChild_ends (hl : LogSource.Settled s.2 s.1.log l) :
    Ends Ran (fun _ t => t.1 = s.1) (endChild child) s := by
  unfold endChild
  refine .read (pidText_apply s) (.bind (note_ends hl .debug _) fun _ s₁ hran₁ hs₁ => ?_)
  refine .bind (record_ends (e := .terminated child) rfl s₁) fun _ s₂ hran₂ hs₂ => ?_
  refine .bind (waitForChild_ends child _ s₂) fun answer s₃ hran₃ hs₃ => ?_
  have hs : s₃.1 = s.1 := by rw [hs₃.1, hs₂, hs₁]
  cases answer with
  | exited code => exact .pure hs
  | interrupted => exact .throw (.of_told (.interrupted (hs₃.2 rfl)))
  | timedOut =>
      have hl₃ := hran₃.settled (hran₂.settled (hran₁.settled hl))
      refine .read (pidText_apply s₃) (.bind (note_ends hl₃ .warning _) fun _ s₄ hran₄ hs₄ => ?_)
      refine .bind (record_ends (e := .killed child) rfl s₄) fun _ s₅ hran₅ hs₅ => ?_
      refine .bind (waitForExit_ends child s₅) fun code s₆ hran₆ hs₆ => ?_
      exact .pure (by rw [hs₆, hs₅, hs₄, hs])

/-- A stop that comes back has let go of the child and of the pipe. -/
theorem stop_ends (hchild : s.1.child = some child) (hl : LogSource.Settled s.2 s.1.log l) :
    Ends Ran (fun _ t => t.1.child = none ∧ t.1.pipe = none) stop s := by
  unfold stop
  refine .read (self_apply s) ?_
  rw [hchild]
  refine .step (change_apply _ s) (.held s.1 none s.2) ?_
  refine .bind (pollChild_ends child _) fun exit s₁ hran₁ hs₁ => ?_
  have hnone : s₁.1.child = none := by rw [hs₁]
  have hl₁ := hran₁.settled (Ran.settled (.held s.1 none s.2) hl)
  -- The pipe is let go of at the end, whether the child had to be ended or not.
  have hrest (s₂ : Handle × World) (hs₂ : s₂.1 = s₁.1) :
      Ends Ran (fun _ t => t.1.child = none ∧ t.1.pipe = none) releaseOutput s₂ :=
    (releaseOutput_ends s₂).mono fun _ t ht => ⟨by rw [ht.1, hs₂, hnone], ht.2⟩
  cases exit with
  | some code => exact hrest s₁ rfl
  | none => exact .bind (endChild_ends hl₁) fun _ s₂ _ hs₂ => hrest s₂ hs₂

end Steps

section Waiting

/-! ## Waiting for the server -/

variable {s : Handle × World} {l : Logger} {child : Nat} {deadline : Instant}

/-- A start that gives up says so when nothing is left of the child. -/
theorem giveUp_ends (hchild : s.1.child = some child) (hl : LogSource.Settled s.2 s.1.log l) :
    Ends Ran (fun _ t => t.1.child = some child) giveUp s := by
  unfold giveUp
  refine .read (self_apply s) (.bind (note_ends hl .warning _) fun _ s₁ hran₁ hs₁ => ?_)
  refine .bind (stop_ends (by rw [hs₁, hchild]) (hran₁.settled hl)) fun _ s₂ hran₂ hs₂ => ?_
  refine .read (self_apply s₂) (.throw (.of_told ?_))
  exact .startup rfl (List.forall_mem_nil _) hs₂.1 hs₂.2

/-- So does a start that sees the child end. -/
theorem exitedEarly_ends (code : Int) (s : Handle × World) :
    Ends Ran (fun _ t => t.1.child = some child) (do
      change fun h => { h with child := none }
      releaseOutput
      throw ((← self).startupError exitedEarly (some code) none) : HandleAct Unit) s := by
  refine .step (change_apply _ s) (.held s.1 none s.2) ?_
  refine .bind (releaseOutput_ends _) fun _ s₁ _ hs₁ => ?_
  refine .read (self_apply s₁) (.throw (.of_told ?_))
  exact .startup rfl (List.forall_mem_nil _) hs₁.1 hs₁.2

/-- The wait for the server leaves the handle with its child if it fails for nothing. The
    induction is on the rounds: a round that decides nothing leaves the child and the logger. -/
theorem awaitReady_ends (rounds : Nat) (hchild : s.1.child = some child)
    (hl : LogSource.Settled s.2 s.1.log l) :
    Ends Ran (fun _ t => t.1.child = some child) (awaitReady child deadline rounds) s := by
  induction rounds generalizing s with
  | zero =>
      unfold awaitReady
      refine .read (get_apply s) ?_
      split
      · exact .throw (.of_told (.endless (List.forall_mem_nil _)))
      · exact giveUp_ends hchild hl
  | succ rounds ih =>
      unfold awaitReady
      refine .read (get_apply s) ?_
      split
      · refine .bind (pollChild_ends child s) fun exit s₁ hran₁ hs₁ => ?_
        cases exit with
        | some code => exact exitedEarly_ends code s₁
        | none =>
            refine .bind (ping_ends s₁) fun isReady s₂ hran₂ hs₂ => ?_
            have hchild₂ : s₂.1.child = some child := by rw [hs₂, hs₁, hchild]
            have hl₂ := hran₂.settled (hran₁.settled hl)
            cases isReady with
            | true =>
                refine .read (self_apply s₂) ?_
                exact (note_ends hl₂ .info _).mono fun _ t ht => by rw [ht, hchild₂]
            | false =>
                refine .bind (sleep_ends s₂) fun _ s₃ hran₃ hs₃ => ?_
                exact ih (by rw [hs₃, hchild₂]) (hran₃.settled hl₂)
      · exact giveUp_ends hchild hl

end Waiting

section Launching

/-! ## Launching -/

variable {s : Handle × World} {l : Logger}

/-- What a launch does once there is a child fails only as the wait for the server does, if the
    timeout is one. -/
theorem attend_ends (child : Nat) {timeout : Value} (hl : LogSource.Settled s.2 s.1.log l)
    (hdeadline : (deadlineAfter s.2.shown s.2.clock timeout).isOk) :
    Ends Ran (fun _ _ => True) (attend child timeout) s := by
  unfold attend
  refine .step (change_apply _ s) (.held s.1 (some child) s.2) ?_
  have hl₁ := Ran.settled (.held s.1 (some child) s.2) hl
  refine .bind (upkeep_ends keeps_handOverPipe atRest_handOverPipe (handOverPipe_ok _))
    fun _ s₂ hran₂ hs₂ => .read (pidText_apply s₂) ?_
  refine .bind (note_ends (hran₂.settled hl₁) .debug _) fun _ s₃ hran₃ hs₃ =>
    .read (get_apply s₃) ?_
  -- The clock has gone on since, which makes no difference to whether there is a deadline.
  rcases hrun : deadlineAfter s₃.2.shown s₃.2.clock timeout with e | deadline
  · rw [deadlineAfter_isOk _ s₃.2.shown _ s₃.2.clock, hrun] at hdeadline
    exact absurd hdeadline Bool.false_ne_true
  · have hread : Act.ofExcept (deadlineAfter s₃.2.shown s₃.2.clock timeout) s₃
        = (.ok deadline, s₃) := by rw [hrun, ofExcept_apply]
    refine .read hread ?_
    have hchild : s₃.1.child = some child := by rw [hs₃, hs₂]
    exact (awaitReady_ends _ hchild (hran₃.settled (hran₂.settled hl₁))).mono
      fun _ _ _ => trivial

/-- A timeout that is none makes it fail, but there is a child by then. -/
theorem attend_untimed (child : Nat) {timeout : Value} (hl : LogSource.Settled s.2 s.1.log l)
    (hdeadline : (deadlineAfter s.2.shown s.2.clock timeout).isOk = false) :
    ∃ e t es, attend child timeout s = (.error e, t) ∧ t.2.past = es ++ s.2.past ∧
      e.isUntimed ∧ ∀ e ∈ es, e.isTrouble = false := by
  unfold attend
  rw [bind_ok (change_apply _ s)]
  have hl₁ := Ran.settled (.held s.1 (some child) s.2) hl
  rcases Upkeeps.run keeps_handOverPipe (handOverPipe_ok ({ s.1 with child := some child }, s.2))
    with ⟨s₂, es₂, hpipe, hs₂, hpass₂, hes₂⟩
  rcases note_spec (hpass₂.settled hl₁) .debug
    ("Process started: pid=" ++ toString s₂.2.script.pid) with ⟨s₃, es₃, hnote, hs₃, hpass₃, hes₃⟩
  rw [bind_ok hpipe, bind_ok (pidText_apply s₂), bind_ok hnote, bind_ok (get_apply s₃)]
  rcases hrun : deadlineAfter s₃.2.shown s₃.2.clock timeout with e | deadline
  · rw [bind_error (ofExcept_apply _ s₃)]
    exact ⟨e, s₃, _, rfl, (hpass₂.trans hpass₃).past, isUntimed_of_deadlineAfter hrun,
      List.forall_mem_append.mpr ⟨Event.calm_of_messages hes₃, Event.calm_of_upkeep hes₂⟩⟩
  · rw [deadlineAfter_isOk _ s₃.2.shown _ s₃.2.clock, hrun] at hdeadline
    cases hdeadline

/-- Without a child there is nothing to attend to. The pipe is let go of, but the handle keeps
    the child that it had before. -/
theorem spawn_unlaunched {text : String} (hspawn : s.2.script.spawnError = some text) :
    ∃ e t es, spawn s = (.error (.launch e), t) ∧ e.kind = .startup ∧
      t.1.child = s.1.child ∧ t.1.pipe = none ∧ t.2.past = es ++ s.2.past ∧
      ∀ e ∈ es, e.isIdle := by
  unfold spawn
  rw [bind_ok (self_apply s), bind_ok (launchChild_of_some hspawn)]
  dsimp only
  -- What the outlet is does not matter to an event that launches nothing.
  generalize hevent : Event.launched s.1.command _ s.1.environment none = event
  rcases Upkeeps.run keeps_releaseOutput (releaseOutput_ok (s.1, s.2.record event)) with
    ⟨s₂, es₂, hrelease, hs₂, hpass₂, hes₂⟩
  have hpipe := releaseOutput_pipe (s.1, s.2.record event)
  rw [hrelease] at hpipe
  rw [bind_ok hrelease, throw_apply]
  have hidle : event.isIdle := by rw [← hevent]; rfl
  refine ⟨_, s₂, es₂ ++ [event], rfl, rfl, hs₂, hpipe, ?_, ?_⟩
  · rw [hpass₂.past, List.append_assoc]
    rfl
  · exact List.forall_mem_append.mpr
      ⟨Event.idle_of_upkeep hes₂, List.forall_mem_singleton.mpr hidle⟩

/-- With a child there is nothing else to do. -/
theorem spawn_launched (hspawn : s.2.script.spawnError = none) :
    ∃ child outlet u, spawn s = attend child s.1.timeout u ∧ u.1 = s.1 ∧ AtRest s u ∧
      Passes s u [.launched s.1.command outlet s.1.environment (some child)] := by
  unfold spawn
  rw [bind_ok (self_apply s), bind_ok (launchChild_of_none hspawn)]
  exact ⟨_, _, _, rfl, rfl, rfl, .single rfl rfl rfl⟩

end Launching

section Starting

/-! ## Starting -/

/-- How a start ends, for the handle and the world that it begins with: by outcome, by what it
    leaves, and by the events until then. -/
inductive Started (s t : Handle × World) : Except Failure Unit → List Event → Prop
  /-- There is no logger for the first message. -/
  | unheard {e : Failure} {es : List Event}
      (hlogger : (s.1.log.logger (hasLiveChild s).2.2).1 = .error e)
      (hidle : ∀ e ∈ es, e.isIdle) : Started s t (.error e) es
  /-- The child runs already. -/
  | running {es : List Event} (hlogger : (s.1.log.logger (hasLiveChild s).2.2).1.isOk)
      (hidle : ∀ e ∈ es, e.isIdle) : Started s t (.ok ()) es
  /-- There is no child to be had, and the handle keeps the one that it had before. -/
  | unlaunched {e : LaunchError} {es : List Event}
      (hlogger : (s.1.log.logger (hasLiveChild s).2.2).1.isOk) (hkind : e.kind = .startup)
      (hspawn : s.2.script.spawnError.isSome) (hchild : t.1.child = s.1.child)
      (hpipe : t.1.pipe = none) (hidle : ∀ e ∈ es, e.isIdle) :
      Started s t (.error (.launch e)) es
  /-- There is a child, but the timeout is none. -/
  | untimed {e : Failure} {es : List Event}
      (hdeadline : (deadlineAfter s.2.shown s.2.clock s.1.timeout).isOk = false)
      (hspawned : ∃ e ∈ es, e.isSpawn) (he : e.isUntimed)
      (hcalm : ∀ e ∈ es, e.isTrouble = false) : Started s t (.error e) es
  /-- The server is ready. -/
  | ready {es : List Event} (hlogger : (s.1.log.logger (hasLiveChild s).2.2).1.isOk)
      (hdeadline : (deadlineAfter s.2.shown s.2.clock s.1.timeout).isOk)
      (hcalm : ∀ e ∈ es, e.isTrouble = false) : Started s t (.ok ()) es
  /-- The wait for the server has failed. -/
  | failed {e : Failure} {es : List Event}
      (hlogger : (s.1.log.logger (hasLiveChild s).2.2).1.isOk)
      (hspawn : s.2.script.spawnError = none)
      (hdeadline : (deadlineAfter s.2.shown s.2.clock s.1.timeout).isOk)
      (hscript : t.2.script = s.2.script) (htold : Told t es (some e)) :
      Started s t (.error e) es

/-- The first message is refused for want of a logger, or the logger is known from then on. -/
theorem note_first (level : LogLevel) (message : String) (s : Handle × World) :
    ∃ r t, note level message s = (r, t) ∧ Upkeeps s t ∧ AtRest s t ∧
      ((∃ e, r = .error e ∧ (s.1.log.logger s.2).1 = .error e) ∨
      r = .ok () ∧ (s.1.log.logger s.2).1.isOk ∧ ∃ l, LogSource.Settled t.2 t.1.log l) := by
  rcases s.1.log.log_first level message s.2 with ⟨r, w, hlog, _, hfirst⟩
  have hnote : note level message s = (r, (s.1, w)) := by
    unfold note
    rw [bind_ok (self_apply s), inWorld_apply, hlog]
  have hkeeps := keeps_note level message s
  have hrest := atRest_note level message s
  rw [hnote] at hkeeps hrest
  exact ⟨r, (s.1, w), hnote, hkeeps, hrest, hfirst⟩

theorem not_spawned_of_idle {es : List Event} (hidle : ∀ e ∈ es, e.isIdle) :
    ¬ ∃ e ∈ es, e.isSpawn := by
  rintro ⟨e, hmem, hspawned⟩
  rw [Event.isSpawn_of_isIdle (hidle e hmem)] at hspawned
  cases hspawned

/-- The first answer of the child that is left when a start has looked at the child at hand. -/
def firstPoll (s : Handle × World) : Nat :=
  if s.1.child.isSome then s.2.polls + 1 else s.2.polls

/-- A start looks at its child first, and that is all that happens. -/
theorem hasLiveChild_run (s : Handle × World) :
    ∃ runs t es, hasLiveChild s = (.ok runs, t) ∧ t.1 = s.1 ∧ Passes s t es ∧
      t.2.course = { s.2.course with polls := firstPoll s } ∧ ∀ e ∈ es, e.isIdle := by
  unfold firstPoll
  cases hchild : s.1.child with
  | none => exact ⟨false, s, [], hasLiveChild_of_none hchild, rfl, .refl s, rfl,
      List.forall_mem_nil _⟩
  | some child =>
      have hrun : hasLiveChild s
          = (.ok (s.2.script.poll s.2.polls).isNone, (inWorld (pollChild child) s).2) := by
        unfold hasLiveChild
        rw [bind_ok (self_apply s), hchild]
        rfl
      exact ⟨_, _, [.polled child (s.2.script.poll s.2.polls)], hrun, rfl, .single rfl rfl rfl,
        rfl, List.forall_mem_singleton.mpr rfl⟩

/-- A start has come to where it asks for a child. -/
structure Readied (s u : Handle × World) (before : List Event) : Prop where
  logger : (s.1.log.logger (hasLiveChild s).2.2).1.isOk
  settled : ∃ l, LogSource.Settled u.2 u.1.log l
  passes : Passes s u before
  child : u.1.child = s.1.child
  course : u.2.course = { s.2.course with polls := firstPoll s }
  idle : ∀ e ∈ before, e.isIdle

theorem Readied.script {s u : Handle × World} {before : List Event} (h : Readied s u before) :
    u.2.script = s.2.script :=
  congrArg Course.script h.course

/-- What a start does from where it asks for a child. -/
theorem Readied.started {s u t : Handle × World} {before : List Event} {r : Except Failure Unit}
    (h : Readied s u before) (hrun : spawn u = (r, t)) :
    ∃ es, t.2.past = es ++ s.2.past ∧ Started s t r es := by
  rcases h.settled with ⟨l, hl⟩
  have htimeout : u.1.timeout = s.1.timeout := by rw [h.passes.frame]
  cases hspawn : s.2.script.spawnError with
  | some text =>
      rcases spawn_unlaunched (h.script ▸ hspawn) with
        ⟨e, t', es, hrun', hkind, hchild', hpipe, hpast, hidle'⟩
      rw [hrun'] at hrun
      cases hrun
      refine ⟨es ++ before, by rw [hpast, h.passes.past, List.append_assoc], ?_⟩
      exact .unlaunched h.logger hkind (by rw [hspawn]; rfl) (hchild'.trans h.child) hpipe
        (List.forall_mem_append.mpr ⟨hidle', h.idle⟩)
  | none =>
      rcases spawn_launched (h.script ▸ hspawn) with
        ⟨child, outlet, v, hattend, _, hrest, hpass'⟩
      generalize hevent : Event.launched u.1.command outlet u.1.environment (some child) = event
        at hpass'
      have hspawned : event.isSpawn := by rw [← hevent]; rfl
      have hcalm : event.isTrouble = false := by rw [← hevent]; rfl
      have hpassed := h.passes.trans hpass'
      have hcalm' : ∀ e ∈ [event] ++ before, e.isTrouble = false :=
        List.forall_mem_append.mpr ⟨List.forall_mem_singleton.mpr hcalm,
          fun e he => Event.isTrouble_of_isIdle (h.idle e he)⟩
      rw [hattend, htimeout] at hrun
      have htimed := deadlineAfter_isOk s.2.shown v.2.shown s.2.clock v.2.clock s.1.timeout
      by_cases hdeadline : (deadlineAfter s.2.shown s.2.clock s.1.timeout).isOk
      · have hends := attend_ends child (hpass'.settled hl) (htimed ▸ hdeadline)
        cases r with
        | ok _ =>
            rcases (hends.ok hrun).1.run with ⟨es, hpass'', htold⟩
            cases htold with
            | well hcalm'' =>
                exact ⟨_, (hpassed.trans hpass'').past, .ready h.logger hdeadline
                  (List.forall_mem_append.mpr ⟨hcalm'', hcalm'⟩)⟩
        | error e =>
            have hran := hends.error hrun
            rcases hran.run with ⟨es, hpass'', htold⟩
            exact ⟨_, (hpassed.trans hpass'').past, .failed h.logger hspawn hdeadline
              (by rw [hran.script, hrest.script, h.script]) (htold.after hcalm')⟩
      · rw [Bool.not_eq_true] at hdeadline
        rcases attend_untimed child (hpass'.settled hl) (htimed ▸ hdeadline) with
          ⟨e, t', es, hrun', hpast, he, hcalm⟩
        rw [hrun'] at hrun
        cases hrun
        refine ⟨es ++ ([event] ++ before), by rw [hpast, hpassed.past, ← List.append_assoc], ?_⟩
        have hmem : event ∈ es ++ ([event] ++ before) :=
          List.mem_append_right es (List.mem_append_left before List.mem_cons_self)
        exact .untimed hdeadline ⟨event, hmem, hspawned⟩ he
          (List.forall_mem_append.mpr ⟨hcalm, hcalm'⟩)

/-- A start ends before it has asked for a child, and then nothing much has happened, or it goes
    on as a start does that asks for one. -/
theorem start_readied {s t : Handle × World} {r : Except Failure Unit}
    (hrun : start s = (r, t)) :
    (∃ es, t.2.past = es ++ s.2.past ∧ Started s t r es ∧ ∀ e ∈ es, e.isIdle) ∨
    ∃ u before, Readied s u before ∧ spawn u = (r, t) := by
  rcases hasLiveChild_run s with ⟨runs, s₁, es₁, hlive, hs₁, hpass₁, hcourse₁, hidle₁⟩
  have hlogger : (s.1.log.logger (hasLiveChild s).2.2).1 = (s₁.1.log.logger s₁.2).1 := by
    rw [hlive, hs₁]
  unfold start at hrun
  rw [bind_ok hlive] at hrun
  cases runs with
  | true =>
      rw [if_pos rfl, bind_ok (pidText_apply s₁)] at hrun
      rcases note_first .debug ("Server already started: pid=" ++ toString s₁.2.script.pid) s₁ with
        ⟨r', s₂, hnote, hkeeps, _, hfirst⟩
      rcases hkeeps.events with ⟨es₂, hpass₂, hes₂⟩
      rw [hnote] at hrun
      cases hrun
      have hidle : ∀ e ∈ es₂ ++ es₁, e.isIdle :=
        List.forall_mem_append.mpr ⟨Event.idle_of_upkeep hes₂, hidle₁⟩
      refine Or.inl ⟨_, (hpass₁.trans hpass₂).past, ?_, hidle⟩
      rcases hfirst with ⟨e, rfl, hnone⟩ | ⟨rfl, hsome, _⟩
      · exact .unheard (hlogger.trans hnone) hidle
      · exact .running (hlogger ▸ hsome) hidle
  | false =>
      rw [if_neg Bool.false_ne_true, launch_eq, bind_ok (self_apply s₁)] at hrun
      rcases note_first .info ("Starting Appium server: " ++ s₁.1.commandText) s₁ with
        ⟨r', s₂, hnote, hkeeps, hrest₂, hfirst⟩
      rcases hkeeps.events with ⟨es₂, hpass₂, hes₂⟩
      have hpass := hpass₁.trans hpass₂
      have hidle : ∀ e ∈ es₂ ++ es₁, e.isIdle :=
        List.forall_mem_append.mpr ⟨Event.idle_of_upkeep hes₂, hidle₁⟩
      have hchild : s₂.1.child = s.1.child := by rw [hkeeps.child, hs₁]
      have hcourse := hrest₂.trans hcourse₁
      rcases hfirst with ⟨e, rfl, hnone⟩ | ⟨rfl, hsome, l, hl⟩
      · rw [bind_error hnote] at hrun
        cases hrun
        exact Or.inl ⟨_, hpass.past, .unheard (hlogger.trans hnone) hidle, hidle⟩
      · rw [bind_ok hnote, bind_ok (self_apply s₂)] at hrun
        -- Without a stream of its own the handle opens a pipe first; that is upkeep as well.
        by_cases hstream : s₂.1.hasStream
        · rw [if_pos hstream] at hrun
          exact Or.inr ⟨s₂, _, ⟨hlogger ▸ hsome, ⟨l, hl⟩, hpass, hchild, hcourse, hidle⟩, hrun⟩
        · rw [if_neg hstream] at hrun
          have hrest₃ := atRest_openPipe s₂
          rcases Upkeeps.run keeps_openPipe (openPipe_ok hl) with
            ⟨s₃, es₃, hopen, hs₃, hpass₃, hes₃⟩
          rw [hopen] at hrest₃
          rw [bind_ok hopen] at hrun
          exact Or.inr ⟨s₃, _, ⟨hlogger ▸ hsome, ⟨l, hpass₃.settled hl⟩, hpass.trans hpass₃,
            hs₃.trans hchild, hrest₃.trans hcourse,
            List.forall_mem_append.mpr ⟨Event.idle_of_upkeep hes₃, hidle⟩⟩, hrun⟩

/-- Every start ends in one of the ways. -/
theorem start_started {s t : Handle × World} {r : Except Failure Unit}
    (hrun : start s = (r, t)) : ∃ es, t.2.past = es ++ s.2.past ∧ Started s t r es := by
  rcases start_readied hrun with ⟨es, hpast, hstarted, _⟩ | ⟨u, before, hreadied, hspawn⟩
  · exact ⟨es, hpast, hstarted⟩
  · exact hreadied.started hspawn

end Starting

end Handle

end ServerLaunch
