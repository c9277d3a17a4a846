import ServerLaunch.Proofs.Launch

/-!
# Supervision

One handle never has two servers, whatever is called on it and however the world answers.

A handle is called over and over, and calls fail halfway: the logger cannot be made, the
program is missing, a question to the server is interrupted, a wait runs out. The caller may
go on after any of it, and the children may be other ones by then. `HandleTurn` collects all
that may happen, and `runTurns` lets it happen in any order.

What holds over such a run is an invariant on the handle and the history together. Only the
child that the handle holds may be at large; and a handle that holds one has a known logger,
without which it could let go of the child and then fail to end it. One turn keeps this by
the description of each operation as a stretch of events, and a run keeps it turn by turn.

## Main definitions

* `HandleTurn`, `HandleTurn.perform`, `runTurns`: What may happen to a handle.
* `OneAtATime`: No child is launched while another one may be at large.
* `Handle.Supervised`: The invariant.
* `Handle.plain`: A handle of a server that needs nothing.

## Theorems

* `OneAtATime.launch`: A launch when no child may be at large.
* `Handle.Supervised.tend`, `Handle.Supervised.launch`: The invariant over the two kinds of
  stretches.
* `Handle.Supervised.turn`, `Handle.Supervised.turns`: The invariant over a turn and a run.
* `Handle.one_server`: A handle never has two servers.
* `Handle.one_server_plain`: A run with a kill and a restart.
-/

namespace ServerLaunch

open Act World

/-- What may happen to a handle: it is called, or the children become other ones. -/
inductive HandleTurn where
  | start
  | stop
  | wait
  | isRunning
  | enter
  | leave
  | outside (script : ChildScript)

/-- Lets something happen to a handle; what it gives is dropped. A handle that is entered is
    started, and one that is left is stopped. -/
def HandleTurn.perform : HandleTurn → HandleAct Unit
  | .start | .enter => Handle.start
  | .stop | .leave => Handle.stop
  | .wait => do
    let _ ← Handle.wait
  | .isRunning => do
    let _ ← Handle.isRunning
  | .outside script => Handle.inWorld (modify fun w => w.withScript script)

/-- Lets one thing after the other happen to a handle, whether or not it fails. -/
def runTurns (turns : List HandleTurn) (s : Handle × World) : Handle × World :=
  turns.foldl (fun s turn => (turn.perform s).2) s

/-- No child is launched while an earlier one may be at large. -/
def OneAtATime : List Event → Prop
  | [] => True
  | e :: past =>
    ((∃ command outlet environment child, e = .launched command outlet environment (some child)) →
      ∀ child, ¬ AtLarge Event.ends child past) ∧ OneAtATime past

namespace OneAtATime

variable {es past : List Event}

/-- Events without a launch go on with what was before. -/
theorem tend {before after : Option Nat} (htend : Tending before after es)
    (h : OneAtATime past) : OneAtATime (es ++ past) := by
  -- Only the kind of the events is needed, and it passes on to the rest of the stretch.
  have hkind := htend.kind
  clear htend
  induction es with
  | nil => exact h
  | cons e es ih =>
      rcases List.forall_mem_cons.mp hkind with ⟨he, hes⟩
      refine ⟨?_, ih hes⟩
      rintro ⟨command, outlet, environment, child, rfl⟩
      exact absurd he Bool.false_ne_true

/-- A child that is launched when no other one may be at large. -/
theorem launch {e : Event} (hlarge : ∀ child, ¬ AtLarge Event.ends child past)
    (h : OneAtATime past) : OneAtATime (e :: past) :=
  ⟨fun _ => hlarge, h⟩

/-- At every launch of a history no child may be at large. -/
theorem not_atLarge {newer older : List Event} {command : List String} {outlet : Outlet}
    {environment : Table Value} {child : Nat}
    (h : OneAtATime (newer ++ .launched command outlet environment (some child) :: older))
    (c : Nat) : ¬ AtLarge Event.ends c older := by
  induction newer with
  | nil => exact h.1 ⟨command, outlet, environment, child, rfl⟩ c
  | cons e newer ih => exact ih h.2

end OneAtATime

namespace Handle

/-- What holds of a handle and of the events since some point of the history: only the child
    that the handle holds may be at large, and if it holds one, its logger is known. -/
structure Supervised (base : List Event) (s : Handle × World) (es : List Event) : Prop where
  past : s.2.past = es ++ base
  settled : ∀ child, s.1.child = some child → ∃ l, LogSource.Settled s.2 s.1.log l
  held : ∀ child, AtLarge Event.ends child es → s.1.child = some child
  once : OneAtATime es
  kills : KillsFollow es

namespace Supervised

variable {base es : List Event} {s t : Handle × World}

/-- The invariant over a stretch of events without a launch. -/
theorem tend {es' : List Event} (h : Supervised base s es) (hpass : Passes s t es')
    (hchild : t.1.child = s.1.child ∨ t.1.child = none)
    (htend : Tending s.1.child t.1.child es') : Supervised base t (es' ++ es) := by
  refine ⟨by rw [hpass.past, h.past, List.append_assoc], ?_, ?_, h.once.tend htend,
    htend.kills.append h.kills⟩
  · intro child ht
    rcases hchild with hchild | hchild
    · rcases h.settled child (by rw [← hchild, ht]) with ⟨l, hl⟩
      exact ⟨l, hpass.settled hl⟩
    · rw [ht] at hchild
      exact absurd hchild (by simp only [reduceCtorEq, not_false_eq_true])
  · exact fun child hlarge => htend.held (h.held child) hlarge

/-- The invariant over a stretch of events with a launch in it. Before the launch the child
    at hand is over, and after it only the new one may be at large. -/
theorem launch {before es' : List Event} {command : List String} {outlet : Outlet}
    {environment : Table Value} {spawned : Option Nat} (h : Supervised base s es)
    (hpass : Passes s t (es' ++ .launched command outlet environment spawned :: before))
    (hl : ∃ l, LogSource.Settled t.2 t.1.log l) (hbefore : Tending s.1.child none before)
    (htend : Tending spawned t.1.child es') :
    Supervised base t (es' ++ .launched command outlet environment spawned :: before ++ es) := by
  -- Only the child at hand could be at large, and it is over by the launch.
  have hfree (child : Nat) : ¬ AtLarge Event.ends child (before ++ es) := fun hlarge =>
    absurd (hbefore.held (h.held child) hlarge) (by simp only [reduceCtorEq, not_false_eq_true])
  have honce : OneAtATime (.launched command outlet environment spawned :: (before ++ es)) :=
    .launch hfree (h.once.tend hbefore)
  have hkills : KillsFollow (.launched command outlet environment spawned :: (before ++ es)) :=
    ⟨fun _ heq => (nomatch heq), hbefore.kills.append h.kills⟩
  rw [List.append_assoc, List.cons_append]
  refine ⟨?_, fun _ _ => hl, fun child hlarge => htend.held ?_ hlarge, honce.tend htend,
    htend.kills.append hkills⟩
  · rw [hpass.past, h.past]
    simp only [List.append_assoc, List.cons_append]
  · -- What is at large right after the launch is the new child.
    intro hnew
    cases hnew with
    | spawned => rfl
    | since _ hold => exact absurd hold (hfree child)

/-- After a stop there is no child, whatever the stop came back with. -/
theorem stopped (h : Supervised base s es) : (stop s).2.1.child = none := by
  cases hchild : s.1.child with
  | none =>
      rw [stop_of_none hchild]
      exact hchild
  | some child =>
      rcases h.settled child hchild with ⟨l, hl⟩
      exact (stop_spec hchild hl rfl).1

/-- The invariant over one turn. -/
theorem turn (h : Supervised base s es) (turn : HandleTurn) :
    ∃ es', Supervised base (turn.perform s).2 es' := by
  have hstart : ∃ es', Supervised base (start s).2 es' := by
    rcases start_spec h.settled rfl with ⟨hchild, es', hpass, htend⟩ |
      ⟨hl, outlet, spawned, before, es', hpass, hbefore, htend⟩
    · exact ⟨_, h.tend hpass (Or.inl hchild) htend⟩
    · exact ⟨_, h.launch hpass hl hbefore htend⟩
  have hstop : ∃ es', Supervised base (stop s).2 es' := by
    cases hchild : s.1.child with
    | none =>
        rw [stop_of_none hchild]
        exact ⟨es, h⟩
    | some child =>
        rcases h.settled child hchild with ⟨l, hl⟩
        rcases hrun : stop s with ⟨r, t⟩
        rcases stop_spec hchild hl hrun with ⟨hnone, _, es', hpass, htend, _⟩
        refine ⟨_, h.tend hpass (Or.inr hnone) ?_⟩
        rw [hchild, hnone]
        exact htend
  -- What a turn gives is dropped, so its state is that of the operation.
  cases turn with
  | start => exact hstart
  | enter => exact hstart
  | stop => exact hstop
  | leave => exact hstop
  | wait =>
      rcases wait_spec s with ⟨hsame, es', hpass, htend⟩
      change ∃ es', Supervised base ((wait >>= fun _ => pure ()) s).2 es'
      rw [drop_snd]
      exact ⟨_, h.tend hpass (Or.inl (by rw [hsame])) (by rwa [hsame])⟩
  | isRunning =>
      rcases isRunning_spec s with ⟨hsame, es', hpass, htend⟩
      change ∃ es', Supervised base ((isRunning >>= fun _ => pure ()) s).2 es'
      rw [drop_snd]
      exact ⟨_, h.tend hpass (Or.inl (by rw [hsame])) (by rwa [hsame])⟩
  | outside script =>
      -- New children answer otherwise from now on, but nothing happens yet.
      have hquiet : Passes s (s.1, s.2.withScript script) [] := ⟨rfl, rfl, fun _ _ hkey => hkey⟩
      refine ⟨_, h.tend hquiet (Or.inl rfl) (.of_upkeep fun _ he => ?_)⟩
      exact absurd he List.not_mem_nil

/-- The invariant over a run. -/
theorem turns (h : Supervised base s es) (turns : List HandleTurn) :
    ∃ es', Supervised base (runTurns turns s) es' := by
  induction turns generalizing s es with
  | nil => exact ⟨es, h⟩
  | cons turn turns ih =>
      rcases h.turn turn with ⟨es', h'⟩
      exact ih h'

end Supervised

/-- A handle never has two servers. Take any handle without a child in any world, and let
    anything happen to it in any order; then of the events since, latest first:

    * between two launches that give a child, the earlier child is seen to have ended or is
      asked to end;
    * once the handle has no child, every child that was launched is over in this sense;
    * what stands right before a kill is a wait of the grace period that ran out and a request
      to the same child to end, and at most messages in between;
    * a start of a handle whose child still runs leaves the handle as it is and adds nothing
      but messages to that answer of the child;
    * stopping a handle without a child does nothing, and so does stopping it again. -/
theorem one_server (turns : List HandleTurn) {h : Handle} (hchild : h.child = none) (w : World) :
    ∃ es s, s = runTurns turns (h, w) ∧ s.2.past = es ++ w.past ∧
      (∀ newer middle older command command' outlet outlet' environment environment' c d,
        es = newer ++ .launched command outlet environment (some d) ::
          (middle ++ .launched command' outlet' environment' (some c) :: older) →
        ∃ e ∈ middle, e.ends c) ∧
      (s.1.pid s.2 = none → ∀ newer older command outlet environment c,
        es = newer ++ .launched command outlet environment (some c) :: older →
        ∃ e ∈ newer, e.ends c) ∧
      (∀ newer older c, es = newer ++ .killed c :: older → Follows c older) ∧
      (∀ c, s.1.child = some c → s.2.script.poll s.2.polls = none →
        ∃ t messages, start s = (.ok (), t) ∧ t.1 = s.1 ∧
          t.2.past = messages ++ .polled c none :: s.2.past ∧ ∀ e ∈ messages, e.isMessage) ∧
      (s.1.pid s.2 = none → stop s = (.ok (), s)) ∧
      stop (stop s).2 = (.ok (), (stop s).2) := by
  have hstart : Supervised w.past (h, w) [] := by
    refine ⟨rfl, fun child hsome => ?_, fun child hlarge => (nomatch hlarge),
      trivial, trivial⟩
    rw [hchild] at hsome
    exact absurd hsome (by simp only [reduceCtorEq, not_false_eq_true])
  rcases hstart.turns turns with ⟨es, hrun⟩
  -- A handle without a child is one that tells no number of it.
  have hpid {s : Handle × World} (hnone : s.1.pid s.2 = none) : s.1.child = none :=
    Option.map_eq_none_iff.mp hnone
  refine ⟨es, runTurns turns (h, w), rfl, hrun.past, ?_, ?_, ?_, ?_, fun hnone =>
    stop_of_none (hpid hnone), stop_of_none ?_⟩
  · rintro newer middle older command command' outlet outlet' environment environment' c d rfl
    exact AtLarge.of_spawned (hrun.once.not_atLarge c)
  · rintro hnone newer older command outlet environment c rfl
    have hfree : ¬ AtLarge Event.ends c
        (newer ++ .launched command outlet environment (some c) :: older) := by
      intro hlarge
      have hheld := hrun.held c hlarge
      rw [hpid hnone] at hheld
      exact absurd hheld (by simp only [reduceCtorEq, not_false_eq_true])
    exact AtLarge.of_spawned hfree
  · rintro newer older c rfl
    exact hrun.kills.follows
  · intro c hc hruns
    rcases hrun.settled c hc with ⟨l, hl⟩
    rcases start_of_running hc hl hruns with ⟨t, messages, ht, hsame, hpass, hes⟩
    refine ⟨t, messages, ht, hsame, ?_, hes⟩
    rw [hpass.past, List.append_assoc]
    rfl
  · exact hrun.stopped

/-- A handle of a server that needs nothing. -/
def plain : Handle :=
  { address := "127.0.0.1", executable := ⟨.single, ["node"]⟩, port := 4723
    timeout := .float (Binary64.ofInt 20), arguments := ["/main.js"], environment := []
    hasStream := false, basePath := none, child := none, pipe := none
    log := .given (.logger .journal) }

/-- A server that has to be killed, and the next one, which a further start leaves alone. -/
theorem one_server_plain :
    ∃ es s, s = runTurns [.outside { (default : ChildScript) with wait := fun _ => .timedOut },
        .start, .stop, .enter] (plain, World.start default default .seconds) ∧
      s.1.child = some 1 ∧ .killed 0 ∈ es ∧
      (∀ newer older c, es = newer ++ .killed c :: older → Follows c older) ∧
      ∃ t messages, start s = (.ok (), t) ∧ t.1 = s.1 ∧
        t.2.past = messages ++ .polled 1 none :: s.2.past ∧ ∀ e ∈ messages, e.isMessage := by
  rcases one_server [.outside { (default : ChildScript) with wait := fun _ => .timedOut },
    .start, .stop, .enter] (h := plain) rfl (World.start default default .seconds) with
    ⟨es, s, rfl, hpast, _, _, hkills, hstart, _⟩
  refine ⟨es, _, rfl, by decide +kernel, ?_, hkills,
    hstart 1 (by decide +kernel) (by decide +kernel)⟩
  rw [← List.append_nil es, ← show _ = es ++ [] from hpast]
  decide +kernel

end Handle

end ServerLaunch
