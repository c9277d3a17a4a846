import Mathlib.Algebra.Order.Field.Rat
import Mathlib.Tactic.Linarith
import ServerLaunch.Proofs.Entries
import ServerLaunch.Proofs.StartOutcome

/-!
# Rounds of a Wait

How the wait for a server goes, round by round, when nothing interrupts it and the clock is
exact.

A wait asks the child, then the server, and pauses, and it looks at the clock before each round.
The scripts may say anything and the deadline falls where it falls, so three ends race: the
server is ready, the child has ended, or there is no time left. A round in which the scripts
decide nothing leaves the handle as it is and moves the course of the world by one answer of
each kind and by the length of a round (`Handle.Passed`). So the wait as a whole is some rounds
of this sort and then one of the ends, and `Handle.Concluded` describes it together with its
events. The race ends with the least round that decides something or that would begin too late.
There is such a round, because a round takes half a second at the least.

The recursion of the wait allows for a number of rounds that is computed beforehand. It is
larger than that of the rounds that begin in time, so it is never what ends the wait.

## Main definitions

* `BeginsInTime`: A round begins before the deadline.
* `Course.Undecided`, `Course.Ready`, `Course.Exited`: What the scripts decide, round by round.
* `Course.Exact`, `Course.Calm`: A clock that is exact, and scripts without uncaught failures.
* `Handle.Stopped`: The events of a stop.
* `Handle.Passed`: Some rounds have gone by that decide nothing.
* `Handle.Concluded`: How a wait ends.

## Theorems

* `Course.exists_last`: Where the race ends.
* `Handle.stop_stopped`: What a stop does that is not interrupted.
* `Handle.awaitReady_undecided`: Rounds that decide nothing.
* `Handle.awaitReady_concluded`: The wait as a whole.
* `Handle.Concluded.ok_iff`, `Handle.Concluded.exited_iff`: Its outcome, by the scripts alone.
-/

namespace ServerLaunch

open Act World

section Times

/-! ## Times -/

variable {timeout cost : Rat} {k : Nat}

/-- A round begins before the deadline, if no round before it decides the wait. -/
def BeginsInTime (timeout cost : Rat) (k : Nat) : Prop :=
  k * (cost + pollInterval) < timeout

theorem half_le_round (hcost : 0 ≤ cost) : 1 / 2 ≤ cost + pollInterval :=
  le_add_of_nonneg_left hcost

theorem round_pos (hcost : 0 ≤ cost) : 0 < cost + pollInterval := by
  linarith only [half_le_round hcost]

theorem lt_ceil_toNat_iff (q : Rat) : k < q.ceil.toNat ↔ (k : Rat) < q := by
  rw [Int.lt_toNat, ← not_le, ← not_le, Rat.ceil_le_iff, Int.cast_natCast]

/-- The rounds that begin in time are those up to a number. -/
theorem beginsInTime_iff (hcost : 0 ≤ cost) :
    BeginsInTime timeout cost k ↔ k < (timeout / (cost + pollInterval)).ceil.toNat := by
  unfold BeginsInTime
  rw [lt_ceil_toNat_iff, lt_div_iff₀ (round_pos hcost)]

/-- There are two of them in a second at the most. -/
theorem BeginsInTime.lt_twice (hcost : 0 ≤ cost) (h : BeginsInTime timeout cost k) :
    k < (2 * timeout).ceil.toNat := by
  have hhalf : (k : Rat) * (1 / 2) ≤ k * (cost + pollInterval) :=
    mul_le_mul_of_nonneg_left (half_le_round hcost) (Nat.cast_nonneg k)
  have hlt : (k : Rat) * (cost + pollInterval) < timeout := h
  rw [lt_ceil_toNat_iff]
  linarith only [hhalf, hlt]

/-- The recursion of a wait goes on for more rounds than begin in time. -/
theorem lt_roundsUntil (hcost : 0 ≤ cost) (now : Rat) (settled : Nat)
    (h : ∀ i < k, BeginsInTime timeout cost i) :
    k < roundsUntil (.seconds now) (.seconds (now + timeout)) (.seconds cost) settled := by
  have hle : k ≤ (timeout / (cost + pollInterval)).ceil.toNat := by
    cases k with
    | zero => exact Nat.zero_le _
    | succ k => exact (beginsInTime_iff hcost).mp (h k (Nat.lt_succ_self k))
  have hrounds : roundsWithin now (now + timeout) cost
      = 2 * (timeout / (cost + pollInterval)).ceil.toNat := by
    unfold roundsWithin
    rw [if_pos (round_pos hcost), add_sub_cancel_left]
  unfold roundsUntil
  dsimp only
  rw [hrounds]
  omega

end Times

namespace Course

/-- What the child says in a round of a wait that begins here, if no round before it decides. -/
def poll (c : Course) (k : Nat) : Option Int :=
  c.script.poll (c.polls + k)

/-- What the server says in such a round. -/
def ping (c : Course) (k : Nat) : PingAnswer :=
  c.script.ping (c.pings + k)

/-- A round decides nothing: the child runs, and the server is not ready. -/
def Undecided (c : Course) (k : Nat) : Prop :=
  c.poll k = none ∧ c.ping k ≠ .status readyStatus

/-- The first round that decides anything finds the server ready. -/
def Ready (c : Course) (k : Nat) : Prop :=
  (∀ i < k, c.Undecided i) ∧ c.poll k = none ∧ c.ping k = .status readyStatus

/-- The first round that decides anything finds that the child has ended. -/
def Exited (c : Course) (k : Nat) (code : Int) : Prop :=
  (∀ i < k, c.Undecided i) ∧ c.poll k = some code

/-- The clock is exact, and so is the time that a question to the server takes. -/
structure Exact (c : Course) (now cost : Rat) : Prop where
  shown : c.shown = Instant.seconds
  clock : c.clock = .seconds now
  cost : c.script.pingCost = .seconds cost

/-- No question and no wait from here on fails with what nothing catches. -/
structure Calm (c : Course) : Prop where
  answered : ∀ k line, c.ping k ≠ .malformed line
  uninterrupted : ∀ k, c.ping k ≠ .interrupted
  waited : ∀ k, c.script.wait (c.waits + k) ≠ .interrupted

/-- The course after so many rounds that decide nothing, at another time. -/
def after (c : Course) (k : Nat) (now : Rat) : Course :=
  { c with polls := c.polls + k, pings := c.pings + k, clock := .seconds now }

variable {c : Course} {k i : Nat} {code : Int} {now time cost timeout : Rat}

theorem poll_after : (c.after k now).poll i = c.poll (k + i) :=
  congrArg c.script.poll (Nat.add_assoc c.polls k i)

theorem ping_after : (c.after k now).ping i = c.ping (k + i) :=
  congrArg c.script.ping (Nat.add_assoc c.pings k i)

theorem after_after : (c.after k now).after i time = c.after (k + i) time := by
  simp only [after, Nat.add_assoc]

theorem Exact.after (h : c.Exact now cost) (k : Nat) (time : Rat) :
    (c.after k time).Exact time cost :=
  ⟨h.shown, rfl, h.cost⟩

theorem Calm.after (h : c.Calm) (k : Nat) (time : Rat) : (c.after k time).Calm :=
  ⟨fun i line => by rw [ping_after]; exact h.answered (k + i) line,
    fun i => by rw [ping_after]; exact h.uninterrupted (k + i), h.waited⟩

/-- Two rounds before which nothing is decided, and which are decided themselves, are one. -/
theorem eq_of_decided (hk : ∀ i < k, c.Undecided i) (hk' : ¬ c.Undecided k)
    (hi : ∀ j < i, c.Undecided j) (hi' : ¬ c.Undecided i) : k = i := by
  rcases Nat.lt_trichotomy k i with hlt | heq | hlt
  · exact absurd (hi k hlt) hk'
  · exact heq
  · exact absurd (hk i hlt) hi'

theorem Ready.decided (h : c.Ready k) : ¬ c.Undecided k :=
  fun hopen => hopen.2 h.2.2

theorem Exited.decided (h : c.Exited k code) : ¬ c.Undecided k := by
  intro hopen
  have hsome := h.2
  rw [hopen.1] at hsome
  cases hsome

/-- A child does not end in the round that finds the server ready, nor in any other. -/
theorem Ready.not_exited (h : c.Ready k) : ¬ c.Exited i code := by
  intro hexited
  cases eq_of_decided h.1 h.decided hexited.1 hexited.decided
  have hnone := h.2.1
  rw [hexited.2] at hnone
  cases hnone

theorem Exited.code_unique {code' : Int} (h : c.Exited k code) (h' : c.Exited i code') :
    code = code' := by
  cases eq_of_decided h.1 h.decided h'.1 h'.decided
  exact Option.some.inj (h.2.symm.trans h'.2)

/-- A round that is decided, and none before it, has one of two answers. -/
theorem ready_or_exited (hopen : ∀ i < k, c.Undecided i) (hdecided : ¬ c.Undecided k) :
    c.Ready k ∨ ∃ code, c.Exited k code := by
  cases hpoll : c.poll k with
  | some code => exact Or.inr ⟨code, hopen, hpoll⟩
  | none =>
      by_cases hping : c.ping k = .status readyStatus
      · exact Or.inl ⟨hopen, hpoll, hping⟩
      · exact absurd ⟨hpoll, hping⟩ hdecided

/-- The race ends with the least round that is decided or begins too late. -/
theorem exists_last (c : Course) (timeout : Rat) (hcost : 0 ≤ cost) :
    ∃ k, (∀ i < k, BeginsInTime timeout cost i ∧ c.Undecided i) ∧
      ¬ (BeginsInTime timeout cost k ∧ c.Undecided k) := by
  classical
  have hlate : ∃ k, ¬ (BeginsInTime timeout cost k ∧ c.Undecided k) := by
    refine ⟨(timeout / (cost + pollInterval)).ceil.toNat, fun h => ?_⟩
    exact Nat.lt_irrefl _ ((beginsInTime_iff hcost).mp h.1)
  refine ⟨Nat.find hlate, fun i hi => ?_, Nat.find_spec hlate⟩
  exact not_not.mp (Nat.find_min hlate hi)

end Course

/-- A wait that is not interrupted comes back with an exit code, or it runs out if it has a
    limit. -/
theorem WaitAnswer.within_uninterrupted {answer : WaitAnswer} (limit : Option Number)
    (h : answer ≠ .interrupted) : (∃ code, answer.within limit = .exited code) ∨
      limit.isSome ∧ answer.within limit = .timedOut := by
  cases answer with
  | exited code => cases limit <;> exact Or.inl ⟨code, rfl⟩
  | timedOut =>
      cases limit with
      | none => exact Or.inl ⟨killedCode, rfl⟩
      | some limit => exact Or.inr ⟨rfl, rfl⟩
  | interrupted => exact absurd rfl h

/-- A detail is one entry at the most. -/
theorem Details.unlessEmpty_cases (name : String) (detail : Option String) :
    unlessEmpty name detail = [] ∨ ∃ s, unlessEmpty name detail = [(.text name, .text s)] := by
  cases detail with
  | none => exact Or.inl rfl
  | some s =>
      by_cases hempty : s.toList.isEmpty
      · exact Or.inl (if_pos hempty)
      · exact Or.inr ⟨s, if_neg hempty⟩

/-- The details of an error of a start have different names. -/
theorem Details.distinct_startup (d : Details) : Entries.Distinct (d.entries .startup) := by
  change Entries.Distinct (unlessEmpty "url" d.url ++ _)
  rcases unlessEmpty_cases "url" d.url with hurl | ⟨s, hurl⟩
  · rw [hurl]
    cases d.exitCode with
    | none => exact .nil
    | some code => exact List.pairwise_singleton _ _
  · rw [hurl]
    cases d.exitCode with
    | none => exact List.pairwise_singleton _ _
    | some code => exact List.pairwise_pair.mpr rfl

/-- The context of an error of a start is its details. -/
theorem LaunchError.context_startup (message : String) (d : Details) (cause : Option Cause) :
    (LaunchError.of .startup message d cause).context = d.entries .startup :=
  Entries.ofPairs_of_distinct d.distinct_startup

namespace Handle

section Stopping

/-! ## Stopping -/

variable {s : Handle × World} {l : Logger} {child : Nat}

/-- The end of a child that runs, latest event first: it is asked to end and waited for, and if
    that takes too long it is ended by force and waited for again. -/
inductive Ended (child : Nat) : List Event → Prop
  | heeded {code : Int} {messages : List Event} (hmessages : ∀ e ∈ messages, e.isMessage) :
      Ended child (.waited child (some gracePeriod) (.exited code) :: .terminated child :: messages)
  | forced {code : Int} {warnings messages : List Event} (hwarnings : ∀ e ∈ warnings, e.isMessage)
      (hmessages : ∀ e ∈ messages, e.isMessage) :
      Ended child (.waited child none (.exited code) :: .killed child :: (warnings ++
        .waited child (some gracePeriod) .timedOut :: .terminated child :: messages))

/-- The events of a stop: the child is seen to have ended, or it is ended. -/
inductive Stopped (child : Nat) : List Event → Prop
  | seen {code : Int} {upkeep : List Event} (hupkeep : ∀ e ∈ upkeep, e.isUpkeep) :
      Stopped child (upkeep ++ [.polled child (some code)])
  | ended {upkeep es : List Event} (hupkeep : ∀ e ∈ upkeep, e.isUpkeep) (hended : Ended child es) :
      Stopped child (upkeep ++ (es ++ [.polled child none]))

/-- No wait for a child is interrupted from here on. -/
def Unhurried (s : Handle × World) : Prop :=
  ∀ k, s.2.script.wait (s.2.waits + k) ≠ .interrupted

/-- A world at rest is in no more of a hurry. -/
theorem AtRest.unhurried {t : Handle × World} (h : AtRest s t) (hs : Unhurried s) :
    Unhurried t := by
  have hscript : t.2.script = s.2.script := h.script
  have hwaits : t.2.waits = s.2.waits := congrArg Course.waits h
  unfold Unhurried
  rw [hscript, hwaits]
  exact hs

theorem waitForChild_unhurried (child : Nat) (limit : Option Number) (hs : Unhurried s) :
    ∃ answer t, inWorld (waitForChild child limit) s = (.ok answer, t) ∧ t.1 = s.1 ∧
      Passes s t [.waited child limit answer] ∧ Unhurried t ∧
      ((∃ code, answer = .exited code) ∨ limit.isSome ∧ answer = .timedOut) := by
  refine ⟨(s.2.script.wait s.2.waits).within limit, (inWorld (waitForChild child limit) s).2,
    rfl, rfl, .single rfl rfl rfl, fun k => ?_, WaitAnswer.within_uninterrupted limit (hs 0)⟩
  have hlater := hs (1 + k)
  rwa [← Nat.add_assoc] at hlater

/-- A child that runs comes to its end, if the waits for it are not interrupted. -/
theorem endChild_ended (hl : LogSource.Settled s.2 s.1.log l) (hs : Unhurried s) :
    ∃ t es, endChild child s = (.ok (), t) ∧ t.1 = s.1 ∧ Passes s t es ∧ Ended child es := by
  have hrest₁ := atRest_note .debug ("Stopping Appium server: pid=" ++ toString s.2.script.pid) s
  rcases note_spec hl .debug ("Stopping Appium server: pid=" ++ toString s.2.script.pid) with
    ⟨s₁, es₁, hnote, hs₁, hpass₁, hes₁⟩
  rw [hnote] at hrest₁
  have hunhurried₁ : Unhurried s₁ := hrest₁.unhurried hs
  rcases terminateChild_spec child s₁ with ⟨s₂, hterminate, hs₂, hpass₂⟩
  have hunhurried₂ : Unhurried s₂ := by
    cases hterminate
    exact hunhurried₁
  rcases waitForChild_unhurried child (some gracePeriod) hunhurried₂ with
    ⟨answer, s₃, hwait, hs₃, hpass₃, hunhurried₃, hanswer⟩
  unfold endChild
  rw [bind_ok (pidText_apply s), bind_ok hnote, bind_ok hterminate, bind_ok hwait]
  have hpass := hpass₁.trans (hpass₂.trans hpass₃)
  have hsame : s₃.1 = s.1 := by rw [hs₃, hs₂, hs₁]
  rcases hanswer with ⟨code, rfl⟩ | ⟨_, rfl⟩
  · exact ⟨s₃, _, rfl, hsame, hpass, .heeded hes₁⟩
  · have hrest₄ := atRest_note .warning
      ("Appium server ignored terminate, killing pid=" ++ toString s₃.2.script.pid) s₃
    rcases note_spec (hpass.settled hl) .warning
      ("Appium server ignored terminate, killing pid=" ++ toString s₃.2.script.pid) with
      ⟨s₄, es₄, hwarn, hs₄, hpass₄, hes₄⟩
    rw [hwarn] at hrest₄
    rcases killChild_spec child s₄ with ⟨s₅, hkill, hs₅, hpass₅⟩
    have hunhurried₅ : Unhurried s₅ := by
      cases hkill
      exact hrest₄.unhurried hunhurried₃
    rcases waitForChild_unhurried child none hunhurried₅ with
      ⟨answer, s₆, hexit, hs₆, hpass₆, _, ⟨code, rfl⟩ | ⟨hlimit, _⟩⟩
    · have hcode : inWorld (waitForExit child) s₅ = (.ok code, s₆) := by
        unfold waitForExit
        rw [inWorld_bind, bind_ok hexit]
        rfl
      dsimp only
      rw [bind_ok (pidText_apply s₃), bind_ok hwarn, bind_ok hkill, bind_ok hcode]
      exact ⟨s₆, _, rfl, by rw [hs₆, hs₅, hs₄, hsame],
        hpass.trans (hpass₄.trans (hpass₅.trans hpass₆)), by
          simpa using Ended.forced hes₄ hes₁⟩
    · exact absurd hlimit Bool.false_ne_true

/-- A stop that is not interrupted lets go of the child and the pipe, and the child is over. -/
theorem stop_stopped (hchild : s.1.child = some child) (hl : LogSource.Settled s.2 s.1.log l)
    (hs : Unhurried s) :
    ∃ t es, stop s = (.ok (), t) ∧ t.1.child = none ∧ t.1.pipe = none ∧ Passes s t es ∧
      Stopped child es := by
  have hdropped : Passes s ({ s.1 with child := none }, s.2) [] := ⟨rfl, rfl, fun _ _ h => h⟩
  rcases pollChild_spec child ({ s.1 with child := none }, s.2) with ⟨s₁, hpoll, hs₁, hpass₁⟩
  have hunhurried₁ : Unhurried s₁ := by
    cases hpoll
    exact hs
  have hpassed := hdropped.trans hpass₁
  have hstop : stop s = (do
      if (s.2.script.poll s.2.polls).isNone then endChild child
      releaseOutput : HandleAct Unit) s₁ := by
    unfold stop
    rw [bind_ok (self_apply s), hchild]
    dsimp only
    rw [bind_ok (change_apply _ s), bind_ok hpoll]
  rw [hstop]
  -- What is left of the handle is known from the general account of a stop.
  have hleft {t : Handle × World} (hrun : stop s = (.ok (), t)) :=
    ((stop_ends hchild hl).ok hrun).2
  cases hexit : s.2.script.poll s.2.polls with
  | some code =>
      dsimp only at hpassed
      rw [hexit] at hpassed hstop
      rcases Upkeeps.run keeps_releaseOutput (releaseOutput_ok s₁) with
        ⟨s₂, es₂, hrelease, hs₂, hpass₂, hes₂⟩
      have hrun : stop s = (.ok (), s₂) := hstop.trans hrelease
      exact ⟨s₂, _, hrelease, (hleft hrun).1, (hleft hrun).2, hpassed.trans hpass₂, .seen hes₂⟩
  | none =>
      dsimp only at hpassed
      rw [hexit] at hpassed hstop
      rcases endChild_ended (hpassed.settled hl) hunhurried₁ with ⟨s₂, es₂, hend, hs₂, hpass₂, hes₂⟩
      rcases Upkeeps.run keeps_releaseOutput (releaseOutput_ok s₂) with
        ⟨s₃, es₃, hrelease, hs₃, hpass₃, hes₃⟩
      have hrest : (endChild child >>= fun _ => releaseOutput) s₁ = (.ok (), s₃) := by
        rw [bind_ok hend, hrelease]
      have hrun : stop s = (.ok (), s₃) := hstop.trans hrest
      exact ⟨s₃, _, hrest, (hleft hrun).1, (hleft hrun).2,
        (hpassed.trans hpass₂).trans hpass₃, .ended hes₃ hes₂⟩

end Stopping

section Waiting

/-! ## Waiting -/

variable {s t : Handle × World} {l : Logger} {child k : Nat} {now cost timeout deadline : Rat}

/-- The failure of a start tells of settings alone, which a handle keeps. -/
theorem startupError_of_frame {g h : Handle}
    (hframe : g = { h with child := g.child, pipe := g.pipe }) (message : String)
    (exitCode : Option Int) (cause : Option Cause) :
    g.startupError message exitCode cause = h.startupError message exitCode cause := by
  rw [hframe]
  rfl

/-- A wait that gives up says so when the child is over. -/
theorem giveUp_stopped (hchild : s.1.child = some child) (hl : LogSource.Settled s.2 s.1.log l)
    (hs : Unhurried s) :
    ∃ t es messages, giveUp s = (.error (s.1.startupError s.1.notReady none none), t) ∧
      t.1.child = none ∧ t.1.pipe = none ∧ Passes s t (es ++ messages) ∧ Stopped child es ∧
      ∀ e ∈ messages, e.isMessage := by
  have hrest := atRest_note .warning s.1.notReadyWarning s
  rcases note_spec hl .warning s.1.notReadyWarning with ⟨s₁, es₁, hnote, hs₁, hpass₁, hes₁⟩
  rw [hnote] at hrest
  rcases stop_stopped (by rw [hs₁, hchild]) (hpass₁.settled hl) (hrest.unhurried hs) with
    ⟨s₂, es₂, hstop, hnone, hpipe, hpass₂, hstopped⟩
  have hpass := hpass₁.trans hpass₂
  refine ⟨s₂, es₂, es₁, ?_, hnone, hpipe, hpass, hstopped, hes₁⟩
  unfold giveUp
  rw [bind_ok (self_apply s), bind_ok hnote, bind_ok hstop, bind_ok (self_apply s₂), throw_apply,
    startupError_of_frame hpass.frame]
  have hsame : s₂.1.notReady = s.1.notReady := by
    rw [hpass.frame]
    rfl
  rw [hsame]

/-- The events of so many rounds that decide nothing, latest first. -/
def undecidedEvents (child : Nat) (url : String) (c : Course) : Nat → List Event
  | 0 => []
  | k + 1 =>
    .slept :: .pinged url (c.ping k) :: .polled child none :: undecidedEvents child url c k

/-- So many rounds have gone by that decide nothing, since the clock showed a time. -/
structure Elapsed (child k : Nat) (now cost : Rat) (s t : Handle × World) : Prop where
  handle : t.1 = s.1
  passes : Passes s t (undecidedEvents child (statusUrl s.1.url) s.2.course k)
  course : t.2.course = s.2.course.after k (now + k * (cost + pollInterval))

/-- No round has gone by yet. -/
theorem Elapsed.zero (child : Nat) (hexact : s.2.course.Exact now cost) :
    Elapsed child 0 now cost s s := by
  refine ⟨rfl, .refl s, ?_⟩
  have hclock : s.2.course.clock = .seconds now := hexact.clock
  rw [Nat.cast_zero, zero_mul, add_zero, Course.after, ← hclock]
  rfl

/-- One more round goes by. -/
theorem Elapsed.next {u : Handle × World} (h : Elapsed child k now cost s u)
    (hround : Elapsed child 1 (now + k * (cost + pollInterval)) cost u t) :
    Elapsed child (k + 1) now cost s t := by
  have hping : u.2.course.ping 0 = s.2.course.ping k := by
    rw [h.course, Course.ping_after, Nat.add_zero]
  have hpass := h.passes.trans hround.passes
  rw [h.handle] at hpass
  simp only [undecidedEvents, hping] at hpass
  have htime : now + k * (cost + pollInterval) + (1 : Nat) * (cost + pollInterval)
      = now + (k + 1 : Nat) * (cost + pollInterval) := by
    rw [Nat.cast_one, Nat.cast_succ, add_mul, add_assoc]
  refine ⟨hround.handle.trans h.handle, hpass, ?_⟩
  rw [hround.course, h.course, Course.after_after, htime]

/-- A server that is not ready, though it does not fail to answer. -/
theorem ping_unready (hcalm : s.2.course.Calm) (hping : s.2.course.ping 0 ≠ .status readyStatus) :
    ping s = (.ok false, (s.1, (askServer (statusUrl s.1.url) s.2).2)) := by
  have hanswer : s.2.course.ping 0 = s.2.script.ping s.2.pings := rfl
  rw [ping_apply, ← hanswer]
  cases h : s.2.course.ping 0 with
  | status code =>
      have hne : code ≠ readyStatus := fun heq => hping (by rw [h, heq])
      exact Prod.ext (congrArg Except.ok (beq_false_of_ne hne)) rfl
  | refused => rfl
  | malformed line => exact absurd h (hcalm.answered 0 line)
  | interrupted => exact absurd h (hcalm.uninterrupted 0)

/-- A server that is ready. -/
theorem ping_ready (hping : s.2.script.ping s.2.pings = .status readyStatus) :
    ∃ t, ping s = (.ok true, t) ∧ t.1 = s.1 ∧
      Passes s t [.pinged (statusUrl s.1.url) (.status readyStatus)] := by
  have hpass : Passes s (s.1, (askServer (statusUrl s.1.url) s.2).2)
      [.pinged (statusUrl s.1.url) (s.2.script.ping s.2.pings)] := .single rfl rfl rfl
  rw [hping] at hpass
  have hrun := ping_apply s
  rw [hping] at hrun
  exact ⟨_, hrun, rfl, hpass⟩

/-- A round that decides nothing takes one answer of each kind and some time. -/
theorem awaitReady_round_undecided (child : Nat) (hexact : s.2.course.Exact now cost)
    (hcalm : s.2.course.Calm) (hopen : s.2.course.Undecided 0) (hbefore : now < deadline) :
    ∃ t, (∀ rounds, awaitReady child (.seconds deadline) (rounds + 1) s
        = awaitReady child (.seconds deadline) rounds t) ∧ Elapsed child 1 now cost s t := by
  have hclock : s.2.clock = .seconds now := hexact.clock
  have hshown : s.2.shown = Instant.seconds := hexact.shown
  have hcost : s.2.script.pingCost = .seconds cost := hexact.cost
  have hpoll : s.2.script.poll s.2.polls = none := hopen.1
  let s₁ : Handle × World := (inWorld (pollChild child) s).2
  let s₂ : Handle × World := (s.1, (askServer (statusUrl s.1.url) s₁.2).2)
  let s₃ : Handle × World := (inWorld sleep s₂).2
  have hping : ping s₁ = (.ok false, s₂) := ping_unready (s := s₁) ⟨hcalm.answered,
    hcalm.uninterrupted, hcalm.waited⟩ hopen.2
  have htime : s.2.clock.isBefore (.seconds deadline) := by
    rw [hclock]
    exact decide_eq_true hbefore
  have hpolled : inWorld (pollChild child) s = (.ok none, s₁) := by
    rw [inWorld_apply]
    exact Prod.ext (congrArg Except.ok hpoll) rfl
  have hslept : inWorld sleep s₂ = (.ok (), s₃) := rfl
  refine ⟨s₃, fun rounds => ?_, rfl, ⟨?_, rfl, fun _ _ h => h⟩, ?_⟩
  · conv_lhs => unfold awaitReady
    rw [bind_ok (get_apply s), if_pos htime, bind_ok hpolled]
    dsimp only
    rw [bind_ok hping, if_neg Bool.false_ne_true, bind_ok hslept]
  · change .slept :: .pinged _ _ :: .polled child (s.2.script.poll s.2.polls) :: s.2.past = _
    rw [hpoll]
    rfl
  · have hlater : (s.2.clock.plus s.2.shown s.2.script.pingCost).plus s.2.shown
        (.seconds pollInterval) = .seconds (now + (1 : Nat) * (cost + pollInterval)) := by
      rw [hclock, hshown, hcost, Nat.cast_one, one_mul, ← add_assoc]
      rfl
    rw [Course.after, ← hlater]
    rfl

/-- Rounds that decide nothing and begin in time go by, and the rest of the wait is the same. -/
theorem awaitReady_undecided (child : Nat) (hexact : s.2.course.Exact now cost)
    (hcalm : s.2.course.Calm)
    (hopen : ∀ i < k, BeginsInTime timeout cost i ∧ s.2.course.Undecided i) :
    ∃ t, (∀ rounds, awaitReady child (.seconds (now + timeout)) (k + rounds) s
        = awaitReady child (.seconds (now + timeout)) rounds t) ∧ Elapsed child k now cost s t := by
  induction k with
  | zero => exact ⟨s, fun rounds => by rw [Nat.zero_add], .zero child hexact⟩
  | succ k ih =>
      rcases ih fun i hi => hopen i (Nat.lt_succ_of_lt hi) with ⟨u, hrun, hu⟩
      rcases hopen k (Nat.lt_succ_self k) with ⟨hbegins, hundecided⟩
      have hundecided' : u.2.course.Undecided 0 := by
        rw [hu.course]
        unfold Course.Undecided
        rwa [Course.poll_after, Course.ping_after, Nat.add_zero]
      have hbefore : now + k * (cost + pollInterval) < now + timeout :=
        (add_lt_add_iff_left now).mpr hbegins
      rcases awaitReady_round_undecided child (hu.course ▸ hexact.after k _)
        (hu.course ▸ hcalm.after k _) hundecided' hbefore with ⟨t, hround, ht⟩
      refine ⟨t, fun rounds => ?_, hu.next ht⟩
      rw [Nat.add_assoc, hrun, Nat.add_comm 1, hround]

/-- How a wait with a timeout ends that a handle begins in the course of a world: by the number of
    its rounds, by its outcome, and by its events, latest first. -/
inductive Concluded (child : Nat) (timeout cost : Rat) (h : Handle) (c : Course)
    (t : Handle × World) : Nat → Except Failure Unit → List Event → Prop
  /-- The server is ready. -/
  | ready {k : Nat} {messages : List Event} (hbegins : BeginsInTime timeout cost k)
      (hready : c.Ready k) (hchild : t.1.child = some child)
      (hmessages : ∀ e ∈ messages, e.isMessage) :
      Concluded child timeout cost h c t (k + 1) (.ok ())
        (messages ++ .pinged (statusUrl h.url) (.status readyStatus) :: .polled child none ::
          undecidedEvents child (statusUrl h.url) c k)
  /-- The child has ended, and the handle has let go of it. -/
  | exited {k : Nat} {code : Int} {upkeep : List Event} (hbegins : BeginsInTime timeout cost k)
      (hexited : c.Exited k code) (hchild : t.1.child = none) (hpipe : t.1.pipe = none)
      (hupkeep : ∀ e ∈ upkeep, e.isUpkeep) :
      Concluded child timeout cost h c t (k + 1)
        (.error (h.startupError exitedEarly (some code) none))
        (upkeep ++ .polled child (some code) :: undecidedEvents child (statusUrl h.url) c k)
  /-- There is no time left, and the child has been stopped. -/
  | late {k : Nat} {stop messages : List Event}
      (hopen : ∀ i < k, BeginsInTime timeout cost i ∧ c.Undecided i)
      (hlate : ¬ BeginsInTime timeout cost k) (hchild : t.1.child = none)
      (hpipe : t.1.pipe = none) (hstopped : Stopped child stop)
      (hmessages : ∀ e ∈ messages, e.isMessage) :
      Concluded child timeout cost h c t k (.error (h.startupError h.notReady none none))
        (stop ++ (messages ++ undecidedEvents child (statusUrl h.url) c k))

/-- The round that finds the server ready is the last one. -/
theorem awaitReady_ready (hl : LogSource.Settled s.2 s.1.log l) {deadline : Instant}
    (rounds : Nat) (hbefore : s.2.clock.isBefore deadline)
    (hpoll : s.2.course.poll 0 = none) (hping : s.2.course.ping 0 = .status readyStatus) :
    ∃ t messages, awaitReady child deadline (rounds + 1) s = (.ok (), t) ∧ t.1 = s.1 ∧
      Passes s t (messages ++ [.pinged (statusUrl s.1.url) (.status readyStatus),
        .polled child none]) ∧ ∀ e ∈ messages, e.isMessage := by
  have hexit : s.2.script.poll s.2.polls = none := hpoll
  rcases pollChild_spec child s with ⟨s₁, hpolled, hs₁, hpass₁⟩
  have hanswer : s₁.2.script.ping s₁.2.pings = .status readyStatus := by
    cases hpolled
    exact hping
  rw [hexit] at hpolled hpass₁
  rcases ping_ready hanswer with ⟨s₂, hready, hs₂, hpass₂⟩
  rw [hs₁] at hpass₂
  have hpass := hpass₁.trans hpass₂
  rcases note_spec (hpass.settled hl) .info ("Appium server is ready at " ++ s₂.1.url) with
    ⟨t, messages, hnote, ht, hpass₃, hmessages⟩
  refine ⟨t, messages, ?_, by rw [ht, hs₂, hs₁], hpass.trans hpass₃, hmessages⟩
  unfold awaitReady
  rw [bind_ok (get_apply s), if_pos hbefore, bind_ok hpolled]
  dsimp only
  rw [bind_ok hready, if_pos rfl, bind_ok (self_apply s₂), hnote]

/-- The round that finds that the child has ended is the last one as well. -/
theorem awaitReady_exited {code : Int} {deadline : Instant} (rounds : Nat)
    (hbefore : s.2.clock.isBefore deadline) (hpoll : s.2.course.poll 0 = some code) :
    ∃ t upkeep, awaitReady child deadline (rounds + 1) s
        = (.error (s.1.startupError exitedEarly (some code) none), t) ∧
      t.1.child = none ∧ t.1.pipe = none ∧ Passes s t (upkeep ++ [.polled child (some code)]) ∧
      ∀ e ∈ upkeep, e.isUpkeep := by
  have hexit : s.2.script.poll s.2.polls = some code := hpoll
  rcases pollChild_spec child s with ⟨s₁, hpolled, hs₁, hpass₁⟩
  rw [hexit] at hpolled hpass₁
  have hdropped : Passes s₁ ({ s₁.1 with child := none }, s₁.2) [] :=
    ⟨rfl, rfl, fun _ _ h => h⟩
  rcases Upkeeps.run keeps_releaseOutput (releaseOutput_ok ({ s₁.1 with child := none }, s₁.2)) with
    ⟨t, upkeep, hrelease, ht, hpass₂, hupkeep⟩
  have hpipe := releaseOutput_pipe ({ s₁.1 with child := none }, s₁.2)
  rw [hrelease] at hpipe
  have hpass := (hpass₁.trans hdropped).trans hpass₂
  refine ⟨t, upkeep, ?_, ht, hpipe, hpass, hupkeep⟩
  unfold awaitReady
  rw [bind_ok (get_apply s), if_pos hbefore, bind_ok hpolled]
  dsimp only
  rw [bind_ok (change_apply _ s₁), bind_ok hrelease, bind_ok (self_apply t), throw_apply,
    startupError_of_frame hpass.frame]

/-- Without time left there is no round. -/
theorem awaitReady_late (deadline : Instant) (rounds : Nat)
    (hlate : s.2.clock.isBefore deadline = false) :
    awaitReady child deadline rounds s = giveUp s := by
  cases rounds with
  | zero =>
      unfold awaitReady
      rw [bind_ok (get_apply s), hlate, if_neg Bool.false_ne_true]
  | succ rounds =>
      unfold awaitReady
      rw [bind_ok (get_apply s), hlate, if_neg Bool.false_ne_true]

/-- The wait as a whole. The rounds that decide nothing go by first, and what comes then is a round
    that is decided, or no time is left. -/
theorem awaitReady_concluded (timeout : Rat) {h : Handle}
    (hframe : s.1 = { h with child := s.1.child, pipe := s.1.pipe })
    (hchild : s.1.child = some child) (hl : LogSource.Settled s.2 s.1.log l) (hcost : 0 ≤ cost)
    (hexact : s.2.course.Exact now cost) (hcalm : s.2.course.Calm) (settled : Nat) :
    ∃ t rounds r es, awaitReady child (.seconds (now + timeout)) (roundsUntil (.seconds now)
        (.seconds (now + timeout)) (.seconds cost) settled) s = (r, t) ∧ Passes s t es ∧
      Concluded child timeout cost h s.2.course t rounds r es := by
  rcases s.2.course.exists_last timeout hcost with ⟨k, hopen, hlast⟩
  rcases Nat.exists_eq_add_of_lt (lt_roundsUntil hcost now settled fun i hi => (hopen i hi).1) with
    ⟨rounds, hrounds⟩
  rcases awaitReady_undecided child hexact hcalm hopen with ⟨u, hrun, hu⟩
  rw [hrounds, Nat.add_assoc, hrun]
  have hclock : u.2.clock = .seconds (now + k * (cost + pollInterval)) :=
    congrArg Course.clock hu.course
  have hlu : LogSource.Settled u.2 u.1.log l := hu.passes.settled hl
  have hcu : u.1.child = some child := by rw [hu.handle, hchild]
  have hfail (message : String) (exitCode : Option Int) (cause : Option Cause) :
      u.1.startupError message exitCode cause = h.startupError message exitCode cause := by
    rw [hu.handle, startupError_of_frame hframe]
  have hurl : s.1.url = h.url := by
    rw [hframe]
    rfl
  have hpassed := hu.passes
  rw [hurl] at hpassed
  have hpoll : u.2.course.poll 0 = s.2.course.poll k := by
    rw [hu.course, Course.poll_after, Nat.add_zero]
  have hping : u.2.course.ping 0 = s.2.course.ping k := by
    rw [hu.course, Course.ping_after, Nat.add_zero]
  by_cases hbegins : BeginsInTime timeout cost k
  · have hbefore : u.2.clock.isBefore (.seconds (now + timeout)) := by
      rw [hclock]
      exact decide_eq_true ((add_lt_add_iff_left now).mpr hbegins)
    rcases Course.ready_or_exited (fun i hi => (hopen i hi).2) fun hk => hlast ⟨hbegins, hk⟩ with
      hready | ⟨code, hexited⟩
    · rcases awaitReady_ready hlu rounds hbefore (hpoll.trans hready.2.1)
        (hping.trans hready.2.2) with ⟨t, messages, hrun', ht, hpass, hmessages⟩
      rw [hu.handle, hurl] at hpass
      have hall := hpassed.trans hpass
      rw [List.append_assoc] at hall
      exact ⟨t, _, _, _, hrun', hall, .ready hbegins hready (ht ▸ hcu) hmessages⟩
    · rcases awaitReady_exited rounds hbefore (hpoll.trans hexited.2) with
        ⟨t, upkeep, hrun', hnone, hpipe, hpass, hupkeep⟩
      have hall := hpassed.trans hpass
      rw [List.append_assoc] at hall
      rw [hfail] at hrun'
      exact ⟨t, _, _, _, hrun', hall, .exited hbegins hexited hnone hpipe hupkeep⟩
  · have hlate : u.2.clock.isBefore (.seconds (now + timeout)) = false := by
      rw [hclock]
      exact decide_eq_false fun hlt => hbegins ((add_lt_add_iff_left now).mp hlt)
    have hcalm' : u.2.course.Calm := hu.course ▸ hcalm.after k _
    have hunhurried : Unhurried u := hcalm'.waited
    rcases giveUp_stopped hcu hlu hunhurried with
      ⟨t, stop, messages, hgive, hnone, hpipe, hpass, hstopped, hmessages⟩
    have hall := hpassed.trans hpass
    rw [List.append_assoc] at hall
    have hsame : u.1.notReady = h.notReady := by
      rw [hu.handle, hframe]
      rfl
    rw [hfail, hsame] at hgive
    exact ⟨t, _, _, _, (awaitReady_late _ _ hlate).trans hgive, hall,
      .late hopen hbegins hnone hpipe hstopped hmessages⟩

end Waiting

section Outcomes

/-! ## Outcomes -/

variable {child rounds : Nat} {timeout cost : Rat} {h : Handle} {c : Course} {t : Handle × World}
  {r : Except Failure Unit} {es : List Event}

/-- A wait has no more rounds than two in a second. -/
theorem Concluded.rounds_le (hconcluded : Concluded child timeout cost h c t rounds r es)
    (hcost : 0 ≤ cost) : rounds ≤ (2 * timeout).ceil.toNat := by
  cases hconcluded with
  | ready hbegins => exact hbegins.lt_twice hcost
  | exited hbegins => exact hbegins.lt_twice hcost
  | late hopen =>
      cases rounds with
      | zero => exact Nat.zero_le _
      | succ k => exact (hopen k (Nat.lt_succ_self k)).1.lt_twice hcost

/-- Once there is no time left, no round that begins in time decides anything. -/
theorem undecided_of_late {k i : Nat} (hcost : 0 ≤ cost)
    (hopen : ∀ i < k, BeginsInTime timeout cost i ∧ c.Undecided i)
    (hlate : ¬ BeginsInTime timeout cost k) (hi : BeginsInTime timeout cost i) :
    c.Undecided i := by
  rw [beginsInTime_iff hcost] at hlate hi
  exact (hopen i (by omega)).2

/-- Two failures of a start with different exit codes are different. -/
theorem startupError_inj {message message' : String} {exitCode exitCode' : Option Int}
    (heq : h.startupError message exitCode none = h.startupError message' exitCode' none) :
    exitCode = exitCode' := by
  have hcontext := congrArg LaunchError.context (Failure.launch.inj heq)
  rw [LaunchError.context_startup, LaunchError.context_startup] at hcontext
  have hdetail := List.append_cancel_left hcontext
  cases exitCode with
  | none =>
      cases exitCode' with
      | none => rfl
      | some code => cases hdetail
  | some code =>
      cases exitCode' with
      | none => cases hdetail
      | some code' =>
          cases hdetail
          rfl

/-- The wait gives a value if the server is found ready in time, and not otherwise. -/
theorem Concluded.ok_iff (hconcluded : Concluded child timeout cost h c t rounds r es)
    (hcost : 0 ≤ cost) : r = .ok () ↔ ∃ k, BeginsInTime timeout cost k ∧ c.Ready k := by
  cases hconcluded with
  | ready hbegins hready => exact iff_of_true rfl ⟨_, hbegins, hready⟩
  | exited _ hexited =>
      refine iff_of_false (fun heq => nomatch heq) ?_
      rintro ⟨k, _, hready⟩
      exact hready.not_exited hexited
  | late hopen hlate =>
      refine iff_of_false (fun heq => nomatch heq) ?_
      rintro ⟨k, hbegins, hready⟩
      exact hready.decided (undecided_of_late hcost hopen hlate hbegins)

/-- It fails with an exit code if the child is found to have ended with it in time. -/
theorem Concluded.exited_iff (hconcluded : Concluded child timeout cost h c t rounds r es)
    (hcost : 0 ≤ cost) (code : Int) :
    r = .error (h.startupError exitedEarly (some code) none) ↔
      ∃ k, BeginsInTime timeout cost k ∧ c.Exited k code := by
  cases hconcluded with
  | ready _ hready =>
      refine iff_of_false (fun heq => nomatch heq) ?_
      rintro ⟨k, _, hexited⟩
      exact hready.not_exited hexited
  | exited hbegins hexited =>
      constructor
      · intro heq
        cases startupError_inj (Except.error.inj heq)
        exact ⟨_, hbegins, hexited⟩
      · rintro ⟨k, _, hexited'⟩
        rw [hexited.code_unique hexited']
  | late hopen hlate =>
      refine iff_of_false (fun heq => ?_) ?_
      · cases startupError_inj (Except.error.inj heq)
      · rintro ⟨k, hbegins, hexited⟩
        exact hexited.decided (undecided_of_late hcost hopen hlate hbegins)

/-- It fails for want of time if no round that begins in time decides anything. -/
theorem Concluded.late_iff (hconcluded : Concluded child timeout cost h c t rounds r es)
    (hcost : 0 ≤ cost) : r = .error (h.startupError h.notReady none none) ↔
      ∀ k, BeginsInTime timeout cost k → c.Undecided k := by
  cases hconcluded with
  | ready hbegins hready =>
      exact iff_of_false (fun heq => nomatch heq) fun hopen => hready.decided (hopen _ hbegins)
  | exited hbegins hexited =>
      refine iff_of_false (fun heq => ?_) fun hopen => hexited.decided (hopen _ hbegins)
      cases startupError_inj (Except.error.inj heq)
  | late hopen hlate =>
      exact iff_of_true rfl fun k hbegins => undecided_of_late hcost hopen hlate hbegins

end Outcomes

end Handle

end ServerLaunch
