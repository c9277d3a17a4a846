import ServerLaunch.Proofs.Handle

/-!
# Launching a Server

What a start does: at most one child is asked for, and never while another one runs.

A launch goes through three stages. Its first message may be refused, for the logger may
have to be made then, and so far nothing has happened. Then the pipe is made and the child
is asked for, and from there on the handle tends to that child alone. `Launched` lists how
it goes on: there is no child, or the deadline is no time, or the wait for the server ends
in one of its ways.

A start looks at the child at hand before anything else. Where it runs, that is all; where
it has ended, it is over by the time the next one is asked for.

## Main definitions

* `Handle.attend`, `Handle.spawn`: The later stages of a launch.
* `Handle.Launched`: How a launch goes on once a child was asked for.

## Theorems

* `Handle.launch_spec`: A launch is refused, or a child is asked for exactly once.
* `Handle.start_of_running`: A start leaves a child that runs alone.
* `Handle.start_spec`: A start launches nothing, or it launches once and no earlier child may
  be at large by then.
-/

namespace ServerLaunch

open Act World

namespace Handle

/-- What a launch does once there is a child. -/
def attend (child : Nat) (timeout : Value) : HandleAct Unit := do
  change fun h => { h with child := some child }
  handOverPipe
  note .debug ("Process started: pid=" ++ (← pidText))
  let w := (← get).2
  let deadline ← Act.ofExcept (deadlineAfter w.shown w.clock timeout)
  awaitReady child deadline (roundsUntil w.clock deadline w.script.pingCost w.script.settled)

/-- What a launch does once there is a place for the output of the child. -/
def spawn : HandleAct Unit := do
  let h ← self
  let outlet := if h.hasStream then Outlet.stream else .pipe
  match ← inWorld (launchChild h.command outlet h.environment) with
  | none =>
    releaseOutput
    throw (h.startupError h.cannotLaunch none (some .operatingSystem))
  | some child => attend child h.timeout

/-- A launch makes a pipe, if it needs one, between its first message and the child. -/
theorem launch_eq : launch = (do
    note .info ("Starting Appium server: " ++ (← self).commandText)
    unless (← self).hasStream do openPipe
    spawn) := rfl

/-- How a launch goes on once a child was asked for, for a timeout and the child that the
    handle held before: by the child that there is then, by outcome, by the child that the
    handle holds in the end, and by the events until then. -/
inductive Launched (timeout : Value) (held : Option Nat) :
    Option Nat → Except Failure Unit → Option Nat → List Event → Prop
  /-- There is no child. -/
  | failed {e : Failure} {es : List Event} (he : e ≠ .endless) (hes : ∀ e ∈ es, e.isUpkeep) :
      Launched timeout held none (.error e) held es
  /-- The timeout does not give a deadline, and the child is left as it is. -/
  | unbounded {child : Nat} {e : Failure} {shown : Rat → Instant} {now : Instant}
      {es : List Event} (hdeadline : deadlineAfter shown now timeout = .error e)
      (hes : ∀ e ∈ es, e.isUpkeep) :
      Launched timeout held (some child) (.error e) (some child) es
  /-- The server is waited for. -/
  | awaited {child : Nat} {r : Except Failure Unit} {after : Option Nat} {es : List Event}
      (hawait : Await child r after es) : Launched timeout held (some child) r after es

section Spawning

variable {s : Handle × World} {command : List String} {outlet : Outlet}
  {environment : Table Value}

theorem launchChild_of_some {text : String} (hspawn : s.2.script.spawnError = some text) :
    inWorld (launchChild command outlet environment) s
      = (.ok none, (s.1, s.2.record (.launched command outlet environment none))) := by
  rw [inWorld_apply]
  simp only [launchChild, modifyGet_apply, hspawn]

theorem launchChild_of_none (hspawn : s.2.script.spawnError = none) :
    inWorld (launchChild command outlet environment) s
      = (.ok (some s.2.children), (s.1, { s.2 with children := s.2.children + 1 }.record
        (.launched command outlet environment (some s.2.children)))) := by
  rw [inWorld_apply]
  simp only [launchChild, modifyGet_apply, hspawn]

end Spawning

theorem launchChild_spec (s : Handle × World) (outlet : Outlet) :
    ∃ spawned t, inWorld (launchChild s.1.command outlet s.1.environment) s = (.ok spawned, t) ∧
      t.1 = s.1 ∧ Passes s t [.launched s.1.command outlet s.1.environment spawned] := by
  -- The script alone decides whether there is a child, and the event says which.
  cases hspawn : s.2.script.spawnError with
  | some text => exact ⟨none, _, launchChild_of_some hspawn, rfl, .single rfl rfl rfl⟩
  | none => exact ⟨some s.2.children, _, launchChild_of_none hspawn, rfl, .single rfl rfl rfl⟩

/-- A child that is there is tended to until its server is ready or something fails. -/
theorem attend_spec {child : Nat} {s t : Handle × World} {r : Except Failure Unit} {l : Logger}
    (hl : LogSource.Settled s.2 s.1.log l) (hrun : attend child s.1.timeout s = (r, t)) :
    ∃ es, Passes s t es ∧ Tending (some child) t.1.child es ∧
      Launched s.1.timeout s.1.child (some child) r t.1.child es := by
  unfold attend at hrun
  rw [bind_ok (change_apply _ s)] at hrun
  -- The handle takes the child before anything else, so whatever fails from here on leaves it in
  -- the hands of the handle.
  have htaken : Passes s ({ s.1 with child := some child }, s.2) [] := ⟨rfl, rfl, fun _ _ h => h⟩
  rcases Upkeeps.run keeps_handOverPipe (handOverPipe_ok ({ s.1 with child := some child }, s.2))
    with ⟨s₁, es₁, hpipe, hs₁, hpass₁, hes₁⟩
  have hpassed := htaken.trans hpass₁
  rw [bind_ok hpipe, bind_ok (pidText_apply s₁)] at hrun
  rcases note_spec (hpassed.settled hl) .debug
    ("Process started: pid=" ++ toString s₁.2.script.pid) with ⟨s₂, es₂, hnote, hs₂, hpass₂, hes₂⟩
  rw [bind_ok hnote, bind_ok (get_apply s₂)] at hrun
  have hpass := hpassed.trans hpass₂
  have hchild : s₂.1.child = some child := by rw [hs₂, hs₁]
  have hupkeep : ∀ e ∈ es₂ ++ (es₁ ++ []), e.isUpkeep := by
    simp only [List.append_nil, List.forall_mem_append]
    exact ⟨fun e he => Event.isUpkeep_of_isLogging (Event.isLogging_of_isMessage (hes₂ e he)), hes₁⟩
  cases hdeadline : deadlineAfter s₂.2.shown s₂.2.clock s.1.timeout with
  | error e =>
      rw [hdeadline, bind_error (ofExcept_apply _ s₂)] at hrun
      cases hrun
      rw [hchild]
      exact ⟨_, hpass, .of_upkeep hupkeep, .unbounded hdeadline hupkeep⟩
  | ok deadline =>
      rw [hdeadline, bind_ok (ofExcept_apply _ s₂)] at hrun
      rcases awaitReady_spec hchild (hpass.settled hl) hrun with ⟨es, hpass', htend, hawait⟩
      refine ⟨_, hpass.trans hpass', (Tending.of_upkeep hupkeep).append htend, .awaited ?_⟩
      refine hawait.after_round (fun e he => ?_) fun e he => ?_
      · exact Event.isTrouble_of_isUpkeep (hupkeep e he)
      · exact Event.concludes_of_isAside (Event.isAside_of_isUpkeep (hupkeep e he)) child

/-- A child is asked for once, and the handle tends to it if there is one. -/
theorem spawn_spec {s t : Handle × World} {r : Except Failure Unit} {l : Logger}
    (hl : LogSource.Settled s.2 s.1.log l) (hrun : spawn s = (r, t)) :
    ∃ outlet spawned es,
      Passes s t (es ++ [.launched s.1.command outlet s.1.environment spawned]) ∧
      Tending spawned t.1.child es ∧
      Launched s.1.timeout s.1.child spawned r t.1.child es := by
  unfold spawn at hrun
  rw [bind_ok (self_apply s)] at hrun
  rcases launchChild_spec s (if s.1.hasStream then Outlet.stream else .pipe) with
    ⟨spawned, s₁, hspawn, hs₁, hpass₁⟩
  rw [bind_ok hspawn] at hrun
  refine ⟨if s.1.hasStream then Outlet.stream else .pipe, spawned, ?_⟩
  cases spawned with
  | none =>
      rcases Upkeeps.run keeps_releaseOutput (releaseOutput_ok s₁) with
        ⟨s₂, es₂, hrelease, hs₂, hpass₂, hes₂⟩
      dsimp only at hrun
      rw [bind_ok hrelease, throw_apply] at hrun
      have hchild : s₂.1.child = s.1.child := by rw [hs₂, hs₁]
      cases hrun
      rw [hchild]
      -- There is no child to hand over, whatever child the handle held before.
      have htend : Tending none none es₂ := .of_upkeep hes₂
      exact ⟨es₂, hpass₁.trans hpass₂, ⟨htend.kind, htend.kills, fun _ h => nomatch h⟩,
        .failed (fun h => nomatch h) hes₂⟩
  | some child =>
      dsimp only at hrun
      rw [← hs₁] at hrun
      rcases attend_spec (hpass₁.settled hl) hrun with ⟨es, hpass, htend, hlaunched⟩
      rw [hs₁] at hlaunched
      exact ⟨es, hpass₁.trans hpass, htend, hlaunched⟩

/-- What came before the child was asked for does not change what is asked for. -/
theorem spawned_after {s s' t : Handle × World} {before : List Event}
    {r : Except Failure Unit} {l : Logger} (hpass : Passes s s' before)
    (hchild : s'.1.child = s.1.child) (hbefore : ∀ e ∈ before, e.isUpkeep)
    (hl : LogSource.Settled s'.2 s'.1.log l) (hrun : spawn s' = (r, t)) :
    (∃ l, LogSource.Settled t.2 t.1.log l) ∧ ∃ outlet spawned before es,
      Passes s t (es ++ .launched s.1.command outlet s.1.environment spawned :: before) ∧
      (∀ e ∈ before, e.isUpkeep) ∧ Tending spawned t.1.child es ∧
      Launched s.1.timeout s.1.child spawned r t.1.child es := by
  rcases spawn_spec hl hrun with ⟨outlet, spawned, es, hpass', htend, hlaunched⟩
  -- The command is read off the settings, which upkeep leaves alone.
  have hcommand : s'.1.command = s.1.command := by rw [hpass.frame]; rfl
  have henvironment : s'.1.environment = s.1.environment := by rw [hpass.frame]
  have htimeout : s'.1.timeout = s.1.timeout := by rw [hpass.frame]
  rw [hcommand, henvironment] at hpass'
  rw [htimeout, hchild] at hlaunched
  refine ⟨⟨l, hpass'.settled hl⟩, outlet, spawned, before, es, ?_, hbefore, htend, hlaunched⟩
  have hall := hpass.trans hpass'
  rwa [List.append_assoc] at hall

/-- A launch is refused with its first message, or a child is asked for exactly once. In the
    second case the logger is known from then on. -/
theorem launch_spec {s t : Handle × World} {r : Except Failure Unit}
    (hrun : launch s = (r, t)) :
    (∃ e, (s.1.log.log .info ("Starting Appium server: " ++ s.1.commandText) s.2).1 = .error e ∧
      r = .error e ∧ Upkeeps s t) ∨
    (∃ l, LogSource.Settled t.2 t.1.log l) ∧ ∃ outlet spawned before es,
      Passes s t (es ++ .launched s.1.command outlet s.1.environment spawned :: before) ∧
      (∀ e ∈ before, e.isUpkeep) ∧ Tending spawned t.1.child es ∧
      Launched s.1.timeout s.1.child spawned r t.1.child es := by
  rw [launch_eq, bind_ok (self_apply s)] at hrun
  have hkeeps := keeps_note .info ("Starting Appium server: " ++ s.1.commandText) s
  rcases hnote : note .info ("Starting Appium server: " ++ s.1.commandText) s with ⟨outcome, s₁⟩
  rw [hnote] at hkeeps
  have hlog : s.1.log.log .info ("Starting Appium server: " ++ s.1.commandText) s.2
      = (outcome, s₁.2) := by
    unfold note at hnote
    rw [bind_ok (self_apply s), inWorld_apply] at hnote
    cases hnote
    rfl
  -- The first message is the only one that can be refused, for it settles the logger.
  cases outcome with
  | error e =>
      rw [bind_error hnote] at hrun
      cases hrun
      exact Or.inl ⟨e, by rw [hlog], rfl, hkeeps⟩
  | ok _ =>
      rcases LogSource.settled_of_log hlog with ⟨l, hl⟩
      rcases hkeeps.events with ⟨es₁, hpass₁, hes₁⟩
      rw [← hpass₁.log] at hl
      rw [bind_ok hnote, bind_ok (self_apply s₁)] at hrun
      refine Or.inr ?_
      by_cases hstream : s₁.1.hasStream
      · rw [if_pos hstream] at hrun
        exact spawned_after hpass₁ hkeeps.child hes₁ hl hrun
      · rw [if_neg hstream] at hrun
        rcases Upkeeps.run keeps_openPipe (openPipe_ok hl) with
          ⟨s₂, es₂, hopen, hs₂, hpass₂, hes₂⟩
        rw [bind_ok hopen] at hrun
        exact spawned_after (hpass₁.trans hpass₂) (hs₂.trans hkeeps.child)
          (List.forall_mem_append.mpr ⟨hes₂, hes₁⟩) (hpass₂.settled hl) hrun

section Starting

/-! ## Starting -/

/-- Without a child a start is a launch. -/
theorem start_of_none {s : Handle × World} (hchild : s.1.child = none) : start s = launch s := by
  unfold start
  rw [bind_ok (hasLiveChild_of_none hchild), if_neg Bool.false_ne_true]

/-- A start leaves a child that runs alone. It asks the child and writes a message, and
    that is all. -/
theorem start_of_running {child : Nat} {s : Handle × World} {l : Logger}
    (hchild : s.1.child = some child) (hl : LogSource.Settled s.2 s.1.log l)
    (hruns : s.2.script.poll s.2.polls = none) :
    ∃ t messages, start s = (.ok (), t) ∧ t.1 = s.1 ∧
      Passes s t (messages ++ [.polled child none]) ∧ ∀ e ∈ messages, e.isMessage := by
  rcases hasLiveChild_of_some hchild with ⟨s₁, hlive, hs₁, hpass₁⟩
  rw [hruns] at hlive hpass₁
  rcases note_spec (hpass₁.settled hl) .debug
    ("Server already started: pid=" ++ toString s₁.2.script.pid) with
    ⟨s₂, es₂, hnote, hs₂, hpass₂, hes₂⟩
  refine ⟨s₂, es₂, ?_, by rw [hs₂, hs₁], hpass₁.trans hpass₂, hes₂⟩
  unfold start
  rw [bind_ok hlive, if_pos Option.isNone_none, bind_ok (pidText_apply s₁), hnote]

/-- A start launches nothing and leaves the handle with the child it has, or it asks for a
    child once, and by then the one before is over. -/
theorem start_spec {s t : Handle × World} {r : Except Failure Unit}
    (hl : ∀ child, s.1.child = some child → ∃ l, LogSource.Settled s.2 s.1.log l)
    (hrun : start s = (r, t)) :
    (t.1.child = s.1.child ∧ ∃ es, Passes s t es ∧ Tending s.1.child t.1.child es) ∨
    (∃ l, LogSource.Settled t.2 t.1.log l) ∧ ∃ outlet spawned before es,
      Passes s t (es ++ .launched s.1.command outlet s.1.environment spawned :: before) ∧
      Tending s.1.child none before ∧ Tending spawned t.1.child es := by
  cases hchild : s.1.child with
  | none =>
      rw [start_of_none hchild] at hrun
      rcases launch_spec hrun with ⟨e, _, _, hsame, es, hpass, hes⟩ |
        ⟨hl', outlet, spawned, before, es, hpass, hbefore, htend, _⟩
      · rw [hsame, hchild]
        exact Or.inl ⟨rfl, es, hpass, .of_upkeep hes⟩
      · exact Or.inr ⟨hl', outlet, spawned, before, es, hpass, .of_upkeep hbefore, htend⟩
  | some child =>
      rcases hl child hchild with ⟨l, hl⟩
      cases hexit : s.2.script.poll s.2.polls with
      | none =>
          rcases start_of_running hchild hl hexit with ⟨t', messages, hrun', ht, hpass, hes⟩
          rw [hrun'] at hrun
          cases hrun
          rw [ht, hchild]
          exact Or.inl ⟨rfl, _, hpass,
            (Tending.polled (some child) child none).append (.of_messages hes)⟩
      | some code =>
          rcases hasLiveChild_of_some hchild with ⟨s₁, hlive, hs₁, hpass₁⟩
          rw [hexit] at hlive hpass₁
          unfold start at hrun
          rw [bind_ok hlive, if_neg (by simp only [Option.isNone_some, Bool.false_eq_true,
            not_false_eq_true])] at hrun
          -- The child has ended, and it was seen to before the next one is asked for.
          have hover := Tending.exited child code
          rcases launch_spec hrun with ⟨e, _, _, hsame, es, hpass, hes⟩ |
            ⟨hl', outlet, spawned, before, es, hpass, hbefore, htend, _⟩
          · -- The launch is refused, so the handle still holds the child that has ended.
            rw [hsame, hs₁, hchild]
            exact Or.inl ⟨rfl, _, hpass₁.trans hpass,
              (Tending.polled (some child) child _).append (.of_upkeep hes)⟩
          · rw [hs₁] at hpass
            refine Or.inr ⟨hl', outlet, spawned, _, es, ?_, hover.append (.of_upkeep hbefore),
              htend⟩
            have hall := hpass₁.trans hpass
            rwa [List.append_assoc] at hall

end Starting

end Handle

end ServerLaunch
