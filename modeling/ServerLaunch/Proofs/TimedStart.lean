import Mathlib.Tactic.NormNum
import ServerLaunch.Proofs.Rounds
import ServerLaunch.Proofs.Supervision

/-!
# Timed Starts

How long a start takes, and how it ends, by the scripts of the child and of the server alone.

Up to its wait for the server a start does nothing that takes time, and the only answer that
it takes is that of a child which the handle held before. So the wait begins at the time and
in the course that the start was called in, but for that one answer. Its number of rounds is
bounded by the timeout, and which of its three ends comes can be read off the scripts from
there on.

## Main definitions

* `Handle.waitCourse`: The course in which the wait of a start begins.
* `Handle.Timed`: The clock is exact, and the timeout is a number of seconds.

## Theorems

* `Handle.attend_awaitReady`: What comes between the launch and the wait.
* `Handle.start_timed`: The rounds and the outcome of a start.
* `Handle.start_timed_punctual`: A server that is ready at the deadline, which is too late.
-/

namespace ServerLaunch

open Act World

namespace Handle

/-- The course in which a start begins to wait, if it does. -/
def waitCourse (s : Handle × World) : Course :=
  { s.2.course with polls := firstPoll s }

/-- The clock shows an exact time, a question to the server takes an exact time, and so many
    seconds are the timeout. -/
structure Timed (s : Handle × World) (timeout now cost : Rat) : Prop where
  exact : s.2.course.Exact now cost
  cost : 0 ≤ cost
  timeout : ∃ n, s.1.timeout.number? = some n ∧
    Instant.ofNumber? Instant.seconds n = some (.seconds timeout)

variable {s t u : Handle × World} {timeout now cost : Rat}

/-- The deadline is the timeout away. -/
theorem deadlineAfter_exact {value : Value} {n : Number} (hvalue : value.number? = some n)
    (hn : Instant.ofNumber? Instant.seconds n = some (.seconds timeout)) :
    deadlineAfter Instant.seconds (.seconds now) value = .ok (.seconds (now + timeout)) := by
  unfold deadlineAfter
  rw [hvalue]
  dsimp only
  rw [hn]
  rfl

/-- A start that launches a child attends to it from then on, and has taken no more than the
    answer of the child that the handle held before. -/
theorem start_attend {r : Except Failure Unit} (hrun : start s = (r, t))
    (hspawned : ∃ es, t.2.past = es ++ s.2.past ∧ ∃ e ∈ es, e.isSpawn) :
    ∃ child outlet u before l, attend child s.1.timeout u = (r, t) ∧
      LogSource.Settled u.2 u.1.log l ∧ u.2.course = waitCourse s ∧ (∀ e ∈ before, e.isIdle) ∧
      Passes s u (.launched s.1.command outlet s.1.environment (some child) :: before) := by
  -- Where the events that have come are idle ones, no child was launched.
  have hsure {es : List Event} (hpast : t.2.past = es ++ s.2.past) : ¬ ∀ e ∈ es, e.isIdle := by
    rcases hspawned with ⟨es', hpast', hmem⟩
    cases List.append_cancel_right (hpast.symm.trans hpast')
    exact fun hidle => not_spawned_of_idle hidle hmem
  rcases start_readied hrun with ⟨es, hpast, _, hidle⟩ | ⟨u, before, hreadied, hspawn⟩
  · exact absurd hidle (hsure hpast)
  · rcases hreadied.settled with ⟨l, hl⟩
    cases herror : u.2.script.spawnError with
    | some text =>
        rcases spawn_unlaunched herror with ⟨e, t', es, hrun', _, _, _, hpast, hidle⟩
        rw [hrun'] at hspawn
        cases hspawn
        rw [hreadied.passes.past, ← List.append_assoc] at hpast
        exact absurd (List.forall_mem_append.mpr ⟨hidle, hreadied.idle⟩) (hsure hpast)
    | none =>
        rcases spawn_launched herror with ⟨child, outlet, v, hattend, hv, hrest, hpass⟩
        have hcommand : u.1.command = s.1.command := by
          rw [hreadied.passes.frame]
          rfl
        have henvironment : u.1.environment = s.1.environment := by rw [hreadied.passes.frame]
        have htimeout : u.1.timeout = s.1.timeout := by rw [hreadied.passes.frame]
        rw [htimeout, hspawn] at hattend
        rw [hcommand, henvironment] at hpass
        exact ⟨child, outlet, v, before, l, hattend.symm, hpass.settled hl,
          hrest.trans hreadied.course, hreadied.idle, hreadied.passes.trans hpass⟩

/-- Between the launch and the wait there is only upkeep, and no time passes. -/
theorem attend_awaitReady {l : Logger} {value : Value} {n : Number} (child : Nat)
    (hl : LogSource.Settled u.2 u.1.log l) (hexact : u.2.course.Exact now cost)
    (hvalue : value.number? = some n)
    (hn : Instant.ofNumber? Instant.seconds n = some (.seconds timeout)) :
    ∃ v upkeep settled, attend child value u = awaitReady child (.seconds (now + timeout))
        (roundsUntil (.seconds now) (.seconds (now + timeout)) (.seconds cost) settled) v ∧
      v.1.child = some child ∧ AtRest u v ∧ Passes u v upkeep ∧ ∀ e ∈ upkeep, e.isUpkeep := by
  have htaken : Passes u ({ u.1 with child := some child }, u.2) [] := ⟨rfl, rfl, fun _ _ h => h⟩
  have hrest₁ := atRest_handOverPipe ({ u.1 with child := some child }, u.2)
  rcases Upkeeps.run keeps_handOverPipe (handOverPipe_ok ({ u.1 with child := some child }, u.2))
    with ⟨s₁, es₁, hpipe, hs₁, hpass₁, hes₁⟩
  rw [hpipe] at hrest₁
  have hpassed := htaken.trans hpass₁
  have hrest₂ := atRest_note .debug ("Process started: pid=" ++ toString s₁.2.script.pid) s₁
  rcases note_spec (hpassed.settled hl) .debug
    ("Process started: pid=" ++ toString s₁.2.script.pid) with ⟨v, es₂, hnote, hv, hpass₂, hes₂⟩
  rw [hnote] at hrest₂
  have hrest : v.2.course = u.2.course := hrest₂.trans hrest₁
  have hexact' : v.2.course.Exact now cost := hrest ▸ hexact
  have hclock : v.2.clock = .seconds now := hexact'.clock
  have hshown : v.2.shown = Instant.seconds := hexact'.shown
  have hcost : v.2.script.pingCost = .seconds cost := hexact'.cost
  refine ⟨v, es₂ ++ es₁, v.2.script.settled, ?_, by rw [hv, hs₁], hrest, ?_, ?_⟩
  · unfold attend
    rw [bind_ok (change_apply _ u), bind_ok hpipe, bind_ok (pidText_apply s₁), bind_ok hnote,
      bind_ok (get_apply v)]
    rw [hclock, hshown, hcost, deadlineAfter_exact hvalue hn, bind_ok (ofExcept_apply _ v)]
  · have hpass := hpassed.trans hpass₂
    rwa [List.append_nil] at hpass
  · exact List.forall_mem_append.mpr ⟨fun e he => Event.isUpkeep_of_isLogging
      (Event.isLogging_of_isMessage (hes₂ e he)), hes₁⟩

/-- A start that launches a child, on an exact clock and with scripts that raise no other
    failure.

    * Its history is that of a launch, and then that of a wait as `Concluded` has it: in each
      round the child is asked, then the server, and then there is a pause, and a child that is
      given up on has been seen to end or was ended and waited for.
    * The wait has no more rounds than two for each second of the timeout.
    * The start gives a value if and only if a round that begins before the deadline is the
      first to decide anything, and finds the server ready.
    * It fails with an exit code if and only if such a round finds that the child has ended with
      it.
    * It fails for want of time if and only if no round that begins before the deadline decides
      anything. -/
theorem start_timed {r : Except Failure Unit} (htimed : Timed s timeout now cost)
    (hcalm : (waitCourse s).Calm) (hrun : start s = (r, t))
    (hspawned : ∃ es, t.2.past = es ++ s.2.past ∧ ∃ e ∈ es, e.isSpawn) :
    (∃ child outlet rounds es upkeep before,
      t.2.past = es ++ (upkeep ++ .launched s.1.command outlet s.1.environment (some child) ::
        before) ++ s.2.past ∧
      (∀ e ∈ upkeep, e.isUpkeep) ∧ (∀ e ∈ before, e.isIdle) ∧
      Concluded child timeout cost s.1 (waitCourse s) t rounds r es ∧
      rounds ≤ (2 * timeout).ceil.toNat) ∧
    (r = .ok () ↔ ∃ k, BeginsInTime timeout cost k ∧ (waitCourse s).Ready k) ∧
    (∀ code, r = .error (s.1.startupError exitedEarly (some code) none) ↔
      ∃ k, BeginsInTime timeout cost k ∧ (waitCourse s).Exited k code) ∧
    (r = .error (s.1.startupError s.1.notReady none none) ↔
      ∀ k, BeginsInTime timeout cost k → (waitCourse s).Undecided k) := by
  rcases htimed.timeout with ⟨n, hvalue, hn⟩
  rcases start_attend hrun hspawned with ⟨child, outlet, u, before, l, hattend, hl, hcourse, hidle,
    hpass₁⟩
  have hexact : (waitCourse s).Exact now cost :=
    ⟨htimed.exact.shown, htimed.exact.clock, htimed.exact.cost⟩
  rcases attend_awaitReady child hl (hcourse ▸ hexact) hvalue hn with
    ⟨v, upkeep, settled, hwait, hchild, hrest, hpass₂, hupkeep⟩
  have hcourse' : v.2.course = waitCourse s := hrest.trans hcourse
  have hpassed := hpass₁.trans hpass₂
  rcases awaitReady_concluded timeout hpassed.frame hchild (hpass₂.settled hl)
    htimed.cost (hcourse' ▸ hexact) (hcourse' ▸ hcalm) settled with
    ⟨t', rounds, r', es, hrun', hpass₃, hconcluded⟩
  rw [← hwait, hattend] at hrun'
  cases hrun'
  rw [hcourse'] at hconcluded
  exact ⟨⟨child, outlet, rounds, es, upkeep, before, (hpassed.trans hpass₃).past, hupkeep, hidle,
    hconcluded, hconcluded.rounds_le htimed.cost⟩, hconcluded.ok_iff htimed.cost,
    hconcluded.exited_iff htimed.cost, hconcluded.late_iff htimed.cost⟩

/-- A server that answers at the second time it is asked, which is one second after the first
    time, and a handle with a timeout. -/
def punctual (timeout : Int) : Handle × World :=
  ({ plain with timeout := .int timeout },
    World.start default { (default : ChildScript) with
      ping := fun n => if n = 0 then .refused else .status readyStatus
      pingCost := .seconds (1 / 2) } .seconds)

theorem punctual_calm (timeout : Int) : (waitCourse (punctual timeout)).Calm := by
  have hping (k : Nat) : (waitCourse (punctual timeout)).ping k
      = if 0 + k = 0 then .refused else .status readyStatus := rfl
  refine ⟨fun k line heq => ?_, fun k heq => ?_, fun k heq => nomatch heq⟩
  · rw [hping] at heq
    split at heq <;> cases heq
  · rw [hping] at heq
    split at heq <;> cases heq

/-- With a timeout of one second that is too late, for the deadline itself is not in time, and with
    two seconds it is not. -/
theorem start_timed_punctual :
    (start (punctual 1)).1
      = .error ((punctual 1).1.startupError (punctual 1).1.notReady none none) ∧
    (start (punctual 2)).1 = .ok () := by
  have htimed₁ : Timed (punctual 1) 1 0 (1 / 2) :=
    ⟨⟨rfl, rfl, rfl⟩, by norm_num, .int 1, rfl, by decide +kernel⟩
  have htimed₂ : Timed (punctual 2) 2 0 (1 / 2) :=
    ⟨⟨rfl, rfl, rfl⟩, by norm_num, .int 2, rfl, by decide +kernel⟩
  have hspawned₁ : ∃ e ∈ (start (punctual 1)).2.2.past, e.isSpawn := by decide +kernel
  have hspawned₂ : ∃ e ∈ (start (punctual 2)).2.2.past, e.isSpawn := by decide +kernel
  have hpast (t : Handle × World) (timeout : Int) :
      t.2.past = t.2.past ++ (punctual timeout).2.past := (List.append_nil _).symm
  constructor
  · refine (start_timed htimed₁ (punctual_calm 1) rfl ⟨_, hpast _ 1, hspawned₁⟩).2.2.2.mpr ?_
    intro k hbegins
    -- The second round begins at the deadline.
    have hfirst : k = 0 := by
      have hlt : (k : Rat) * (1 / 2 + 1 / 2) < 1 := hbegins
      have hone : (k : Rat) < (1 : Nat) := by
        rw [Nat.cast_one]
        linarith only [hlt]
      exact Nat.lt_one_iff.mp (Nat.cast_lt.mp hone)
    rw [hfirst]
    exact ⟨rfl, fun heq => nomatch heq⟩
  · refine (start_timed htimed₂ (punctual_calm 2) rfl ⟨_, hpast _ 2, hspawned₂⟩).2.1.mpr ?_
    refine ⟨1, by norm_num [BeginsInTime, pollInterval], fun i hi => ?_, rfl, rfl⟩
    rw [Nat.lt_one_iff.mp hi]
    exact ⟨rfl, fun heq => nomatch heq⟩

end Handle

end ServerLaunch
