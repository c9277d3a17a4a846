import ServerLaunch.Proofs.Launch
import ServerLaunch.Proofs.LaunchCommand
import ServerLaunch.Proofs.Preparation

/-!
# The Start Command

What becomes of the child of a command when the program ends.

The start command launches a server and waits until it ends. However it comes back from
there, the child is over: the wait has given an exit code, or the user has interrupted it
and the server is stopped. The same holds of a start that gives up or finds that the child
has ended. One way out is left. If a question to the server fails while the command still
waits for it to get ready, the failure passes through the start, and nothing stops the
child. `run_orphan_iff` says that this is the only way: when the program ends, a child is at
large exactly if a question to its server has failed.

A program need not end, for the timeout may be no bound and the server may never answer, so
a run that never ends is left out by its outcome.

## Main definitions

* `CommandLine.LaunchesOnce`: A command is launched once, and nothing is looked up.
* `CommandLine.Accounts`: A run leaves a child at large exactly if a question has failed.
* `CommandLine.impatient`: A world in which every question is interrupted.

## Theorems

* `CommandLine.waitForEnd_spec`: After the wait the child is over.
* `CommandLine.launchAndWait_spec`: A launch with all that follows, up to its end.
* `CommandLine.Accounts.after`, `CommandLine.Accounts.before`: What comes before and after.
* `CommandLine.run_orphan_iff`: When the program leaves a child at large.
* `CommandLine.run_orphan_iff_impatient`: A user interrupts while the server gets ready.
-/

namespace ServerLaunch

open Act World

theorem deadlineAfter_float (shown : Rat → Instant) (now : Instant) (x : Binary64) :
    deadlineAfter shown now (.float x) = .ok (now.plus shown (Instant.ofBinary64 x)) := rfl

namespace CommandLine

/-- Telling the user something leaves the handle as it is. -/
theorem print_spec (text : String) (s : Handle × World) :
    ∃ t, Handle.inWorld (print text) s = (.ok (), t) ∧ t.1 = s.1 ∧
      Handle.Passes s t [.printed (ControlSequence.plain text)] :=
  ⟨_, rfl, rfl, .single rfl rfl rfl⟩

theorem complain_spec (text : String) (s : Handle × World) :
    ∃ t, Handle.inWorld (complain text) s = (.ok (), t) ∧ t.1 = s.1 ∧
      Handle.Passes s t [.complained (ControlSequence.plain text)] :=
  ⟨_, rfl, rfl, .single rfl rfl rfl⟩

/-- After the wait the child is over: it has ended, or the user has interrupted and it was
    stopped. -/
theorem waitForEnd_spec {child : Nat} {s t : Handle × World} {r : Except Failure Int}
    {l : Logger} (hchild : s.1.child = some child) (hl : LogSource.Settled s.2 s.1.log l)
    (hrun : waitForEnd s = (r, t)) :
    ∃ es, Handle.Passes s t es ∧ (∀ e ∈ es, e.isAttending) ∧ (∀ e ∈ es, e.isTrouble = false) ∧
      ∃ e ∈ es, e.concludes child := by
  have hwait : Handle.wait s = Handle.inWorld (waitForExit child) s := by
    unfold Handle.wait
    rw [bind_ok (Handle.self_apply s), hchild]
  unfold waitForEnd at hrun
  rcases Handle.waitForExit_spec child s with
    ⟨code, s₁, hexit, hs₁, hpass₁⟩ | ⟨s₁, hexit, hs₁, hpass₁⟩
  · have hattempt : Handle.wait.attempt s = (.ok (.ok code), s₁) := by
      rw [attempt_apply, hwait, hexit]
    rw [bind_ok hattempt] at hrun
    have hover : (Event.waited child none (.exited code)).concludes child :=
      beq_self_eq_true child
    dsimp only at hrun
    by_cases hcode : code = 0
    · rw [if_pos hcode] at hrun
      cases hrun
      refine ⟨_, hpass₁, ?_, ?_, _, List.mem_singleton.mpr rfl, hover⟩
      · exact List.forall_mem_singleton.mpr rfl
      · exact List.forall_mem_singleton.mpr rfl
    · rw [if_neg hcode] at hrun
      rcases complain_spec (UsageFault.errorLine (endedMessage code)) s₁ with
        ⟨s₂, hcomplain, _, hpass₂⟩
      rw [bind_ok hcomplain] at hrun
      cases hrun
      refine ⟨_, hpass₁.trans hpass₂, ?_, ?_, _,
        List.mem_append_right _ (List.mem_singleton.mpr rfl), hover⟩
      · exact List.forall_mem_cons.mpr ⟨rfl, List.forall_mem_singleton.mpr rfl⟩
      · exact List.forall_mem_cons.mpr ⟨rfl, List.forall_mem_singleton.mpr rfl⟩
  · -- The wait is interrupted, and the user is told before the server is stopped.
    have hattempt : Handle.wait.attempt s = (.ok (.error .interrupted), s₁) := by
      rw [attempt_apply, hwait, hexit]
    rcases print_spec stoppingText s₁ with ⟨s₂, hprint, hs₂, hpass₂⟩
    rw [bind_ok hattempt] at hrun
    dsimp only at hrun
    rw [bind_ok hprint] at hrun
    have hpass := hpass₁.trans hpass₂
    rcases hstop : Handle.stop s₂ with ⟨r₃, s₃⟩
    rcases Handle.stop_spec (by rw [hs₂, hs₁, hchild]) (hpass.settled hl) hstop with
      ⟨_, hr₃, es₃, hpass₃, htend₃, hcalm₃⟩
    have ht : t = s₃ := by
      rcases hr₃ with rfl | rfl
      · rw [bind_ok hstop] at hrun
        cases hrun
        rfl
      · rw [bind_error hstop] at hrun
        cases hrun
        rfl
    rw [ht]
    -- Whether or not the stop is interrupted as well, the child has been asked to end.
    rcases htend₃.concluded with ⟨e, he, hover⟩
    refine ⟨_, hpass.trans hpass₃, List.forall_mem_append.mpr ⟨fun e he => ?_, ?_⟩,
      List.forall_mem_append.mpr ⟨hcalm₃, ?_⟩, e, List.mem_append_left _ he, hover⟩
    · exact Event.isAttending_of_isTending (htend₃.kind e he)
    · exact List.forall_mem_cons.mpr ⟨rfl, List.forall_mem_singleton.mpr rfl⟩
    · exact List.forall_mem_cons.mpr ⟨rfl, List.forall_mem_singleton.mpr rfl⟩

-- Where all is calm and the child is over, neither side of the account holds.
theorem orphan_iff_of_over {spawned : Option Nat} {es : List Event}
    (hcalm : ∀ e ∈ es, e.isTrouble = false)
    (hover : ∀ child, spawned = some child → ∃ e ∈ es, e.concludes child) :
    (∃ child, spawned = some child ∧ ∀ e ∈ es, e.concludes child = false) ↔
      ∃ e ∈ es, e.isTrouble := by
  constructor
  · rintro ⟨child, hspawned, hopen⟩
    rcases hover child hspawned with ⟨e, he, hconcludes⟩
    exact absurd hconcludes (Bool.eq_false_iff.mp (hopen e he))
  · rintro ⟨e, he, htrouble⟩
    exact absurd htrouble (Bool.eq_false_iff.mp (hcalm e he))

/-- A launch and all that follows, from a new handle whose logger is known and whose timeout
    is a floating point number: a child is asked for exactly once, and unless the wait for its
    server never ends, it is not over afterwards exactly if a question has failed. -/
theorem launchAndWait_spec {s t : Handle × World} {r : Except Failure Int} {l : Logger}
    {x : Binary64} (hchild : s.1.child = none) (hl : LogSource.Settled s.2 s.1.log l)
    (htimeout : s.1.timeout = .float x) (hrun : launchAndWait s = (r, t)) :
    ∃ outlet spawned before es,
      Handle.Passes s t (es ++ .launched s.1.command outlet s.1.environment spawned :: before) ∧
      (∀ e ∈ before, e.isUpkeep) ∧ (∀ e ∈ es, e.isAttending) ∧
      (r = .error .endless ∨
        ((∃ child, spawned = some child ∧ ∀ e ∈ es, e.concludes child = false) ↔
          ∃ e ∈ es, e.isTrouble)) := by
  unfold launchAndWait at hrun
  rcases hstart : Handle.start s with ⟨r₁, s₁⟩
  have hlaunch : Handle.launch s = (r₁, s₁) := by rw [← Handle.start_of_none hchild, hstart]
  -- The logger is known, so the launch is not refused, and the timeout gives a deadline.
  rcases Handle.launch_spec hlaunch with ⟨e, hrefused, _⟩ |
    ⟨⟨l₁, hl₁⟩, outlet, spawned, before, es₁, hpass₁, hbefore, htend₁, hlaunched⟩
  · rw [hl.log_apply] at hrefused
    exact absurd hrefused (by simp only [reduceCtorEq, not_false_eq_true])
  have hattend₁ : ∀ e ∈ es₁, e.isAttending := fun e he =>
    Event.isAttending_of_isTending (htend₁.kind e he)
  rw [htimeout] at hlaunched
  generalize hafter : s₁.1.child = after at hlaunched htend₁
  cases hlaunched with
  | failed he hes =>
      rw [bind_error hstart] at hrun
      cases hrun
      exact ⟨outlet, _, before, es₁, hpass₁, hbefore, hattend₁, Or.inr <|
        orphan_iff_of_over (Event.calm_of_upkeep hes) fun _ h => nomatch h⟩
  | unbounded hdeadline _ =>
      rw [deadlineAfter_float] at hdeadline
      exact absurd hdeadline (by simp only [reduceCtorEq, not_false_eq_true])
  | @awaited child _ _ _ hawait =>
      cases hawait with
      | ready hcalm =>
          rw [bind_ok hstart, bind_ok (Handle.self_apply s₁)] at hrun
          rcases print_spec (readyText s₁.1.url) s₁ with ⟨s₂, hprint, hs₂, hpass₂⟩
          rw [bind_ok hprint] at hrun
          rcases waitForEnd_spec (by rw [hs₂, hafter]) (hpass₂.settled hl₁) hrun with
            ⟨es₃, hpass₃, hattend₃, hcalm₃, e, he, hover⟩
          have hpass := hpass₁.trans (hpass₂.trans hpass₃)
          rw [← List.append_assoc] at hpass
          refine ⟨outlet, _, before, _, hpass, hbefore, ?_, Or.inr (orphan_iff_of_over ?_ ?_)⟩
          · simp only [List.forall_mem_append, List.forall_mem_singleton]
            exact ⟨⟨hattend₃, rfl⟩, hattend₁⟩
          · simp only [List.forall_mem_append, List.forall_mem_singleton]
            exact ⟨⟨hcalm₃, rfl⟩, hcalm⟩
          · rintro _ ⟨⟩
            exact ⟨e, List.mem_append_left _ (List.mem_append_left _ he), hover⟩
      | ended _ hcalm =>
          rw [bind_error hstart] at hrun
          cases hrun
          refine ⟨outlet, _, before, es₁, hpass₁, hbefore, hattend₁,
            Or.inr (orphan_iff_of_over hcalm ?_)⟩
          rintro _ ⟨⟩
          exact htend₁.concluded
      | troubled _ htrouble hopen =>
          -- The one end of a start after which the child still runs.
          rw [bind_error hstart] at hrun
          cases hrun
          exact ⟨outlet, _, before, es₁, hpass₁, hbefore, hattend₁,
            Or.inr ⟨fun _ => htrouble, fun _ => ⟨child, rfl, hopen⟩⟩⟩
      | endless _ _ =>
          rw [bind_error hstart] at hrun
          cases hrun
          exact ⟨outlet, _, before, es₁, hpass₁, hbefore, hattend₁, Or.inl rfl⟩

/-- A command is launched once: what comes before is upkeep, and what comes after attends to
    the child. -/
def LaunchesOnce (command : List String) (w w' : World) : Prop :=
  ∃ outlet environment spawned before after,
    w'.past = after ++ .launched command outlet environment spawned :: before ++ w.past ∧
      (∀ e ∈ before, e.isUpkeep) ∧ ∀ e ∈ after, e.isAttending

/-- A run accounts for its children: unless it never ends, it leaves one at large exactly if a
    question to a server has failed. -/
def Accounts {α : Type} (w : World) (out : Except Failure α × World) : Prop :=
  ∃ es, out.2.past = es ++ w.past ∧
    (out.1 = .error .endless ∨
      ((∃ child, AtLarge Event.concludes child es) ↔ ∃ e ∈ es, e.isTrouble))

namespace Accounts

variable {α β : Type} {w w₁ w₂ : World}

/-- What has nothing to do with a child comes to nothing before a run. -/
theorem after {out : Except Failure α × World} (hadds : Adds Event.isAside w w₁)
    (h : Accounts w₁ out) : Accounts w out := by
  rcases hadds with ⟨es₁, hes₁, haside⟩
  rcases h with ⟨es, hes, hcount⟩
  refine ⟨es ++ es₁, by rw [hes, hes₁, List.append_assoc], hcount.imp_right fun hiff => ?_⟩
  constructor
  · rintro ⟨child, hlarge⟩
    rcases AtLarge.append_iff.mp hlarge with hlarge | ⟨hlarge, _⟩
    · rcases hiff.mp ⟨child, hlarge⟩ with ⟨e, he, htrouble⟩
      exact ⟨e, List.mem_append_left es₁ he, htrouble⟩
    · exact absurd hlarge (AtLarge.not_of_aside haside)
  · rintro ⟨e, he, htrouble⟩
    rcases List.mem_append.mp he with he | he
    · rcases hiff.mpr ⟨e, he, htrouble⟩ with ⟨child, hlarge⟩
      exact ⟨child, AtLarge.append_iff.mpr (Or.inl hlarge)⟩
    · rw [Event.isTrouble_of_isAside (haside e he)] at htrouble
      exact absurd htrouble Bool.false_ne_true

/-- Nor does it afterwards, as long as a run that never ends stays one. -/
theorem before {r : Except Failure α} {r' : Except Failure β} (h : Accounts w (r, w₁))
    (hadds : Adds Event.isAside w₁ w₂) (hr : r = .error .endless → r' = .error .endless) :
    Accounts w (r', w₂) := by
  rcases hadds with ⟨es₂, hes₂, haside⟩
  rcases h with ⟨es, hes, hcount⟩
  refine ⟨es₂ ++ es, by rw [hes₂, hes, List.append_assoc], ?_⟩
  -- A run that never ends gives no account, so that has to show in the outcome later on.
  rcases hcount with hendless | hiff
  · exact Or.inl (hr hendless)
  refine Or.inr ⟨?_, ?_⟩
  · rintro ⟨child, hlarge⟩
    rcases AtLarge.append_iff.mp hlarge with hlarge | ⟨hlarge, _⟩
    · exact absurd hlarge (AtLarge.not_of_aside haside)
    · rcases hiff.mp ⟨child, hlarge⟩ with ⟨e, he, htrouble⟩
      exact ⟨e, List.mem_append_right es₂ he, htrouble⟩
  · rintro ⟨e, he, htrouble⟩
    rcases List.mem_append.mp he with he | he
    · rw [Event.isTrouble_of_isAside (haside e he)] at htrouble
      exact absurd htrouble Bool.false_ne_true
    · rcases hiff.mpr ⟨e, he, htrouble⟩ with ⟨child, hlarge⟩
      refine ⟨child, AtLarge.append_iff.mpr (Or.inr ⟨hlarge, fun e' he' => ?_⟩)⟩
      exact Event.concludes_of_isAside (haside e' he') child

/-- A run that has nothing to do with a child leaves none at large. -/
theorem of_adds {out : Except Failure α × World} (h : Adds Event.isAside w out.2) :
    Accounts w out := by
  have hnone : Accounts w (out.1, w) := by
    refine ⟨[], rfl, Or.inr ⟨?_, ?_⟩⟩
    · rintro ⟨child, hlarge⟩
      cases hlarge
    · rintro ⟨e, he, _⟩
      exact absurd he List.not_mem_nil
  exact hnone.before h id

/-- Two actions account for their children if only one of them has any. First the one that
    has none comes first. -/
theorem bind_after {a : WorldAct α} {next : α → WorldAct β} (ha : Adds Event.isAside w (a w).2)
    (hnext : ∀ x w₁, a w = (.ok x, w₁) → Accounts w₁ (next x w₁)) :
    Accounts w ((a >>= next) w) := by
  rcases h : a w with ⟨outcome, w₁⟩
  rw [h] at ha
  cases outcome with
  | ok x =>
      rw [bind_ok h]
      exact .after ha (hnext x w₁ h)
  | error e =>
      rw [bind_error h]
      exact .of_adds ha

theorem bind_before {a : WorldAct α} {next : α → WorldAct β} (ha : Accounts w (a w))
    (hnext : ∀ x, (next x).Keeps (Adds Event.isAside)) : Accounts w ((a >>= next) w) := by
  rcases h : a w with ⟨outcome, w₁⟩
  rw [h] at ha
  cases outcome with
  | ok x =>
      rw [bind_ok h]
      exact ha.before (hnext x w₁) fun h => nomatch h
  | error e =>
      rw [bind_error h]
      exact ha.before (.refl _ _) fun h => congrArg _ (Except.error.inj h)

/-- A launch with all that follows it. -/
theorem of_launch {out : Except Failure α × World} {es before : List Event}
    {command : List String} {outlet : Outlet} {environment : Table Value} {spawned : Option Nat}
    (hpast : out.2.past
      = es ++ .launched command outlet environment spawned :: before ++ w.past)
    (hbefore : ∀ e ∈ before, e.isUpkeep) (hes : ∀ e ∈ es, e.isAttending)
    (hcount : out.1 = .error .endless ∨
      ((∃ child, spawned = some child ∧ ∀ e ∈ es, e.concludes child = false) ↔
        ∃ e ∈ es, e.isTrouble)) : Accounts w out := by
  -- One launch in the middle: the child is at large if nothing after it concludes it, and what
  -- comes before it says nothing of any child.
  have haside : ∀ e ∈ before, e.isAside := fun e he => Event.isAside_of_isUpkeep (hbefore e he)
  have hlarge (child : Nat) : AtLarge Event.concludes child
      (es ++ .launched command outlet environment spawned :: before) ↔
        spawned = some child ∧ ∀ e ∈ es, e.concludes child = false := by
    constructor
    · intro h
      rcases AtLarge.append_iff.mp h with h | ⟨h, hopen⟩
      · exact absurd h (AtLarge.not_of_attending hes)
      · cases h with
        | spawned => exact ⟨rfl, hopen⟩
        | since _ h => exact absurd h (AtLarge.not_of_aside haside)
    · rintro ⟨rfl, hopen⟩
      exact AtLarge.append_iff.mpr (Or.inr ⟨.spawned, hopen⟩)
  have htrouble :
      (∃ e ∈ es ++ .launched command outlet environment spawned :: before, e.isTrouble) ↔
        ∃ e ∈ es, e.isTrouble := by
    constructor
    · rintro ⟨e, he, htrouble⟩
      rcases List.mem_append.mp he with he | he
      · exact ⟨e, he, htrouble⟩
      · rcases List.mem_cons.mp he with rfl | he
        · exact absurd htrouble Bool.false_ne_true
        · rw [Event.isTrouble_of_isAside (haside e he)] at htrouble
          exact absurd htrouble Bool.false_ne_true
    · rintro ⟨e, he, htrouble⟩
      exact ⟨e, List.mem_append_left _ he, htrouble⟩
  refine ⟨_, hpast, hcount.imp_right fun hiff => ?_⟩
  rw [htrouble, ← hiff]
  exact exists_congr hlarge

end Accounts

section Commands

/-! ## Commands -/

theorem keeps_print {kind : Event → Bool} (hkind : ∀ text, kind (.printed text))
    (text : String) : (print text).Keeps (Adds kind) :=
  Keeps.modify fun w => record_adds (hkind _) w

theorem keeps_complain {kind : Event → Bool} (hkind : ∀ text, kind (.complained text))
    (text : String) : (complain text).Keeps (Adds kind) :=
  Keeps.modify fun w => record_adds (hkind _) w

theorem keeps_refuse {kind : Event → Bool} (hkind : ∀ text, kind (.complained text))
    (c : Option Command) (fault : UsageFault) : (refuse c fault).Keeps (Adds kind) :=
  Keeps.bind (keeps_complain hkind _) fun _ => .pure _

theorem keeps_showAtOnce (c : Option Command) (role : OptionRole) :
    (showAtOnce c role).Keeps (Adds Event.isAside) := by
  cases role <;> exact Keeps.bind (keeps_print (fun _ => rfl) _) fun _ => .pure _

theorem keeps_unknownCommand (host : Host) (name : String) (words : List String) :
    (unknownCommand host name words).Keeps (Adds Event.isAside) := by
  refine Keeps.ite ?_ (keeps_refuse (fun _ => rfl) _ _)
  rcases readGroup host words with fault | ⟨role | _⟩
  · exact keeps_refuse (fun _ => rfl) none fault
  · exact keeps_showAtOnce none role
  · exact keeps_refuse (fun _ => rfl) none _

/-- An answer to a shell is printed, and the shell may be asked for its version. -/
theorem keeps_answerShell (request : Request) :
    (answerShell request).Keeps (Adds Event.isAside) := by
  have hversion (shell : Shell) : (checkVersion shell).Keeps (Adds Event.isAside) := by
    refine Keeps.ite (Keeps.bind .get fun w => ?_) (.pure _)
    cases w.host.program? "bash" with
    | none => exact keeps_complain (fun _ => rfl) _
    | some bash =>
        exact Keeps.bind (Keeps.modify fun w => record_adds rfl w) fun _ => .throw _
  cases request with
  | unknown => exact .pure _
  | script shell =>
      exact Keeps.bind (hversion shell) fun _ =>
        Keeps.bind (Keeps.modify fun w => record_adds rfl w) fun _ => .pure _
  | complete shell =>
      exact Keeps.bind .get fun w => Keeps.bind (.ofExcept _) fun line =>
        Keeps.bind (Keeps.modify fun w => record_adds rfl w) fun _ => .pure _

/-- The dry run prints a command and nothing else. -/
theorem keeps_runArgs (context : LaunchContext) (o : ServerOptions) (asJson : Bool) :
    (runArgs context o asJson).Keeps (Adds Event.isAside) := by
  refine Keeps.bind (keeps_prepare context o false) fun result => ?_
  cases result with
  | error fault => exact .pure _
  | ok handle => exact Keeps.bind (keeps_print (fun _ => rfl) _) fun _ => .pure _

/-- A handle that is prepared is launched once, and that accounts for its child. -/
theorem withHandle_spec {context : LaunchContext} {o : ServerOptions} {hasConsole : Bool}
    {w w₁ : World} {handle : Handle} (ho : ∀ n, o.timeout = some n → ∃ x, n = .float x)
    (hprepare : prepare context o hasConsole w = (.ok (.ok handle), w₁)) :
    LaunchesOnce handle.command w₁ (withHandle handle launchAndWait w₁).2 ∧
      Accounts w₁ (withHandle handle launchAndWait w₁) := by
  rcases prepare_eq_ok ho hprepare with ⟨hchild, ⟨l, hlog⟩, x, htimeout⟩
  have hl : LogSource.Settled w₁ handle.log l := by
    rw [hlog]
    exact .given l
  rcases hrun : launchAndWait (handle, w₁) with ⟨r, h', w₂⟩
  have hwith : withHandle handle launchAndWait w₁ = (r, w₂) := by
    unfold withHandle
    rw [zoom_apply, hrun]
  rcases launchAndWait_spec hchild hl htimeout hrun with
    ⟨outlet, spawned, before, es, hpass, hbefore, hes, hcount⟩
  rw [hwith]
  exact ⟨⟨outlet, _, spawned, before, es, hpass.past, hbefore, hes⟩,
    .of_launch hpass.past hbefore hes hcount⟩

theorem runStart_accounts {context : LaunchContext} {o : ServerOptions} {hasConsole : Bool}
    (ho : ∀ n, o.timeout = some n → ∃ x, n = .float x) (w : World) :
    Accounts w (runStart context o hasConsole w) := by
  refine .bind_after (keeps_prepare context o hasConsole w) fun result w₁ hprepare => ?_
  cases result with
  | error fault => exact .of_adds (.refl _ w₁)
  | ok handle => exact (withHandle_spec ho hprepare).2.bind_before fun code => .pure _

/-- Errors of the launcher are reported, and a run that never ends stays one. -/
theorem reportErrors_accounts {a : WorldAct (Except UsageFault Int)} {w : World}
    (h : Accounts w (a w)) : Accounts w (reportErrors a w) := by
  unfold reportErrors
  rw [bind_ok (attempt_apply a w)]
  rcases ha : a w with ⟨outcome, w₁⟩
  rw [ha] at h
  cases outcome with
  | ok result => exact h
  | error e =>
      cases e with
      | launch e => exact h.before (keeps_complain (fun _ => rfl) _ w₁) fun h => nomatch h
      | _ => exact h

theorem Command.perform_accounts (c : Command) {context : LaunchContext} {o : ServerOptions}
    {own : Bool} (ho : ∀ n, o.timeout = some n → ∃ x, n = .float x) (w : World) :
    Accounts w (c.perform context o own w) := by
  cases c with
  | args => exact reportErrors_accounts (.of_adds (keeps_runArgs context o own w))
  | start => exact reportErrors_accounts (runStart_accounts ho w)

theorem Command.run_accounts (c : Command) (context : LaunchContext) (words : List String)
    (w : World) : Accounts w (c.run context words w) := by
  unfold run
  cases parseWords true c.options words with
  | error fault => exact .of_adds (keeps_refuse (fun _ => rfl) _ _ w)
  | ok p =>
      dsimp only
      cases p.eager? with
      | some role => exact .of_adds (keeps_showAtOnce _ _ w)
      | none =>
          dsimp only
          rw [bind_ok (get_apply w)]
          cases hread : readServerOptions w.host p with
          | error fault => exact .of_adds (keeps_refuse (fun _ => rfl) _ _ w)
          | ok o =>
              have hperform : Accounts w (c.perform context o (c.hasOwn p) w) :=
                c.perform_accounts (readServerOptions_timeout hread) w
              refine hperform.bind_before fun result => ?_
              cases result with
              | ok code => exact .pure _
              | error fault => exact keeps_refuse (fun _ => rfl) _ _

theorem dispatch_accounts (words : List String) (w : World) :
    Accounts w (dispatch words w) := by
  unfold dispatch
  rw [bind_ok (get_apply w)]
  rcases readGroup w.host words with fault | ⟨role | ⟨path, isVerbose, _ | ⟨name, rest⟩⟩⟩
  · exact .of_adds (keeps_refuse (fun _ => rfl) _ _ w)
  · exact .of_adds (keeps_showAtOnce _ _ w)
  · exact .of_adds (keeps_showAtOnce _ _ w)
  · dsimp only
    cases Command.ofName? name with
    | none => exact .of_adds (keeps_unknownCommand _ _ _ w)
    | some c =>
        have haside := (LaunchContext.keeps_create path isVerbose none w).adds
          fun _ => Event.isAside_of_isLogging
        exact .bind_after haside fun context w₁ _ => c.run_accounts context rest w₁

theorem runWords_accounts (words : List String) (w : World) :
    Accounts w (runWords words w) := by
  have h := dispatch_accounts words w
  unfold runWords
  rw [bind_ok (attempt_apply _ w)]
  rcases ha : dispatch words w with ⟨outcome, w₁⟩
  rw [ha] at h
  cases outcome with
  | ok result => exact h
  | error e =>
      cases e with
      | interrupted => exact h.before (keeps_complain (fun _ => rfl) _ w₁) fun h => nomatch h
      | _ => exact h

theorem run_accounts (words : List String) (w : World) : Accounts w (run words w) := by
  unfold run
  rw [bind_ok (get_apply w)]
  cases Request.ofEnvironment? w.host with
  | none => exact runWords_accounts words w
  | some request => exact .of_adds (keeps_answerShell request w)

end Commands

/-- Whatever the command line and whatever the world, when the program ends it leaves a child at
    large exactly if a question whether a server is ready has failed: the user interrupted it,
    or the answer was none of HTTP. -/
theorem run_orphan_iff (words : List String) (w : World)
    (hends : (run words w).1 ≠ .error .endless) :
    ∃ es, (run words w).2.past = es ++ w.past ∧
      ((∃ child, AtLarge Event.concludes child es) ↔ ∃ e ∈ es, e.isTrouble) := by
  rcases run_accounts words w with ⟨es, hes, hendless | hiff⟩
  · exact absurd hendless hends
  · exact ⟨es, hes, hiff⟩

/-- A world in which the user interrupts every question to a server. -/
def impatient : World :=
  { twoFiles with script := { (default : ChildScript) with ping := fun _ => .interrupted } }

/-- A user who interrupts the first question of a start leaves its child behind. -/
theorem run_orphan_iff_impatient :
    ∃ es child, (run ["start", "--node", "node", "--main-script", "main.js"] impatient).1 = .ok 1 ∧
      (run ["start", "--node", "node", "--main-script", "main.js"] impatient).2.past
        = es ++ impatient.past ∧
      AtLarge Event.concludes child es := by
  have hcode :
      (run ["start", "--node", "node", "--main-script", "main.js"] impatient).1 = .ok 1 := by
    have hsome : (run ["start", "--node", "node", "--main-script", "main.js"]
        impatient).1.toOption = some 1 := by decide +kernel
    generalize (run _ impatient).1 = r at hsome
    cases r with
    | ok code => rw [Option.some.inj hsome]
    | error e =>
        exact absurd hsome (by simp only [Except.toOption, reduceCtorEq, not_false_eq_true])
  rcases run_orphan_iff ["start", "--node", "node", "--main-script", "main.js"] impatient
    (by rw [hcode]; exact fun h => nomatch h) with ⟨es, hpast, hiff⟩
  have htrouble : ∃ e ∈ es, e.isTrouble := by
    refine ⟨.pinged "http://127.0.0.1:4723/status" .interrupted, ?_, rfl⟩
    rw [← List.append_nil es, ← show _ = es ++ [] from hpast]
    decide +kernel
  rcases hiff.mpr htrouble with ⟨child, hlarge⟩
  exact ⟨es, child, hcode, hpast, hlarge⟩

end CommandLine

end ServerLaunch
