import ServerLaunch.Proofs.Supervision

/-!
# Ends of Pipes

That the launcher never keeps the end of a pipe that it writes nothing to.

The reader of a pipe comes to the end of its input when all writing ends are closed. The child
closes its own by ending; the launcher has to close the one that it made for the child, and has
to do so before it waits for the reader, or it waits in vain. A pipe is made, closed, replaced
and let go of in different places, and in between a start can fail in many ways.

All of these come down to one pattern. A pipe is made right before the launch it is for and
closed right after it, whether or not there is a child, and nothing that can fail stands in
between. `Piping` describes the histories that are put together from such launches; whatever
else a handle does is aside of them, save waiting for the reader of a pipe that is closed. What
holds of a handle is that its history is one of these and that its pipe, if there is one, was
closed in it. Each operation preserves this whether or not it fails, and so does a run.

## Main definitions

* `Event.isUnpiped`: Events that have to do neither with pipes nor with launches.
* `HeldOpen`: The writing end of a pipe is open.
* `Placed`: Where the events stand that have to do with pipes.
* `Piping`: Histories in which pipes are closed right after the launches they are made for.
* `Handle.Sealed`: What holds of a handle between two calls.
* `Handle.Unpiped`: Nothing happens to pipes.

## Theorems

* `Piping.count`: Which pipes were made and closed, and that it was once each.
* `Piping.not_heldOpen`, `Piping.placed`: What is read off a history.
* `Handle.stays_launch`: A launch closes its pipe.
* `Handle.Sealed.turns`: The invariant over a run.
* `Handle.pipes_closed`: No pipe is left open, whatever happens to a handle.
-/

namespace ServerLaunch

open Act World

/-- Whatever has nothing to do with pipes, nor with the launch of a child that may use one. -/
def Event.isUnpiped : Event → Bool
  | .openedPipe _ | .closedPipe _ | .joinedPipe _ | .launched .. => false
  | _ => true

theorem Event.isUnpiped_of_isLogging {e : Event} (h : e.isLogging) : e.isUnpiped := by
  cases e <;> first | rfl | exact absurd h Bool.false_ne_true

/-- The writing end of a pipe was made, and nothing has closed it since. -/
inductive HeldOpen (pipe : Nat) : List Event → Prop
  | opened {past : List Event} : HeldOpen pipe (.openedPipe pipe :: past)
  | since {e : Event} {past : List Event} (he : e ≠ .closedPipe pipe) (h : HeldOpen pipe past) :
      HeldOpen pipe (e :: past)

/-- Where an event that has to do with pipes stands: between the later events and the earlier
    ones. -/
inductive Placed (hasStream : Bool) : List Event → Event → List Event → Prop
  | streamed {newer older : List Event} {command : List String} {environment : Table Value}
      {child : Option Nat} (hstream : hasStream = true) :
      Placed hasStream newer (.launched command .stream environment child) older
  | opened {newer older : List Event} {pipe : Nat} {command : List String}
      {environment : Table Value} {child : Option Nat} :
      Placed hasStream
        (newer ++ [.closedPipe pipe, .launched command .pipe environment child])
        (.openedPipe pipe) older
  | piped {newer older : List Event} {pipe : Nat} {command : List String}
      {environment : Table Value} {child : Option Nat} :
      Placed hasStream (newer ++ [.closedPipe pipe])
        (.launched command .pipe environment child) (.openedPipe pipe :: older)
  | closed {newer older : List Event} {pipe : Nat} {command : List String}
      {environment : Table Value} {child : Option Nat} :
      Placed hasStream newer (.closedPipe pipe)
        (.launched command .pipe environment child :: .openedPipe pipe :: older)
  | joined {newer older : List Event} {pipe : Nat} (hclosed : .closedPipe pipe ∈ older) :
      Placed hasStream newer (.joinedPipe pipe) older

/-- An event that comes later changes nothing of the place of another one. -/
theorem Placed.cons {hasStream : Bool} {newer older : List Event} {e : Event} (e' : Event)
    (h : Placed hasStream newer e older) : Placed hasStream (e' :: newer) e older := by
  cases h with
  | streamed hstream => exact .streamed hstream
  | opened =>
      rw [← List.cons_append]
      exact .opened
  | piped =>
      rw [← List.cons_append]
      exact .piped
  | closed => exact .closed
  | joined hclosed => exact .joined hclosed

/-- Histories in which every pipe is made for a launch and closed right after it, and only
    readers of closed pipes are waited for. Pipes are numbered from the one after those that
    were made before, up to the next one; without the need for a pipe there is none. -/
inductive Piping (hasStream : Bool) (made : Nat) : Nat → List Event → Prop
  | start : Piping hasStream made made []
  | aside {next : Nat} {e : Event} {es : List Event} (he : e.isUnpiped)
      (h : Piping hasStream made next es) : Piping hasStream made next (e :: es)
  | streamed {next : Nat} {command : List String} {environment : Table Value}
      {child : Option Nat} {es : List Event} (hstream : hasStream = true)
      (h : Piping hasStream made next es) :
      Piping hasStream made next (.launched command .stream environment child :: es)
  | piped {next : Nat} {command : List String} {environment : Table Value}
      {child : Option Nat} {es : List Event} (hstream : hasStream = false)
      (h : Piping hasStream made next es) :
      Piping hasStream made (next + 1) (.closedPipe next ::
        .launched command .pipe environment child :: .openedPipe next :: es)
  | joined {next pipe : Nat} {es : List Event} (hclosed : .closedPipe pipe ∈ es)
      (h : Piping hasStream made next es) : Piping hasStream made next (.joinedPipe pipe :: es)

namespace Piping

variable {hasStream : Bool} {made next pipe : Nat} {es es' newer older : List Event}
  {command : List String} {outlet : Outlet} {environment : Table Value} {child : Option Nat}

/-- Events aside go on with what was before. -/
theorem append (hes : ∀ e ∈ es', e.isUnpiped) (h : Piping hasStream made next es) :
    Piping hasStream made next (es' ++ es) := by
  induction es' with
  | nil => exact h
  | cons e es' ih =>
      rcases List.forall_mem_cons.mp hes with ⟨he, hes⟩
      exact .aside he (ih hes)

/-- The pipes that are numbered were made once and closed once each, and no others. -/
theorem count (h : Piping hasStream made next es) (pipe : Nat) :
    made ≤ next ∧ es.count (.openedPipe pipe) = (if made ≤ pipe ∧ pipe < next then 1 else 0) ∧
      es.count (.closedPipe pipe) = if made ≤ pipe ∧ pipe < next then 1 else 0 := by
  induction h with
  | start =>
      rw [if_neg fun hnumber => absurd hnumber.2 (Nat.not_lt.mpr hnumber.1)]
      exact ⟨Nat.le_refl made, rfl, rfl⟩
  | aside he _ ih =>
      rw [List.count_cons_of_ne (by rintro rfl; exact absurd he Bool.false_ne_true),
        List.count_cons_of_ne (by rintro rfl; exact absurd he Bool.false_ne_true)]
      exact ih
  | streamed _ _ ih =>
      simpa only [List.count_cons, beq_iff_eq, reduceCtorEq, if_false, Nat.add_zero] using ih
  | @piped next _ _ _ _ _ _ ih =>
      rcases ih with ⟨hle, hopened, hclosed⟩
      simp only [List.count_cons, beq_iff_eq, reduceCtorEq, if_false, Nat.add_zero, hopened,
        hclosed, Event.openedPipe.injEq, Event.closedPipe.injEq]
      -- The pipe that is new was not counted before.
      by_cases hpipe : next = pipe
      · rw [if_pos hpipe, if_neg (by omega), if_pos (by omega)]
        exact ⟨Nat.le_succ_of_le hle, rfl, rfl⟩
      · have hnumber : (made ≤ pipe ∧ pipe < next + 1) ↔ made ≤ pipe ∧ pipe < next := by omega
        simp only [if_neg hpipe, hnumber]
        exact ⟨Nat.le_succ_of_le hle, rfl, rfl⟩
  | joined _ _ ih =>
      simpa only [List.count_cons, beq_iff_eq, reduceCtorEq, if_false, Nat.add_zero] using ih

/-- No writing end is open in the end. -/
theorem not_heldOpen (h : Piping hasStream made next es) : ¬ HeldOpen pipe es := by
  induction h with
  | start => exact fun hopen => nomatch hopen
  | aside he _ ih =>
      intro hopen
      cases hopen with
      | opened => exact absurd he Bool.false_ne_true
      | since _ hopen => exact ih hopen
  | streamed _ _ ih =>
      intro hopen
      cases hopen with
      | since _ hopen => exact ih hopen
  | piped _ _ ih =>
      intro hopen
      -- The pipe that was made for the launch is the one that is closed after it.
      cases hopen with
      | since hclosed hopen =>
          cases hopen with
          | since _ hopen =>
              cases hopen with
              | opened => exact hclosed rfl
              | since _ hopen => exact ih hopen
  | joined _ _ ih =>
      intro hopen
      cases hopen with
      | since _ hopen => exact ih hopen

/-- An event of a history is the latest one, or it is among those that were there before. -/
theorem first_or_rest {e e' : Event} (hes : e' :: es = newer ++ e :: older) :
    (newer = [] ∧ e = e' ∧ older = es) ∨ ∃ rest, newer = e' :: rest ∧ es = rest ++ e :: older := by
  rcases List.cons_eq_append_iff.mp hes with ⟨hnil, hcons⟩ | hrest
  · exact Or.inl ⟨hnil, List.cons.inj hcons⟩
  · exact Or.inr hrest

/-- Every event that has to do with pipes has its place. -/
theorem placed (h : Piping hasStream made next es) {e : Event} (he : e.isUnpiped = false)
    (hes : es = newer ++ e :: older) : Placed hasStream newer e older := by
  induction h generalizing newer with
  | start => exact absurd hes.symm (List.append_ne_nil_of_right_ne_nil _ (List.cons_ne_nil _ _))
  | aside haside _ ih =>
      rcases first_or_rest hes with ⟨_, rfl, _⟩ | ⟨rest, rfl, hrest⟩
      · rw [haside] at he
        exact absurd he Bool.noConfusion
      · exact (ih hrest).cons _
  | streamed hstream _ ih =>
      rcases first_or_rest hes with ⟨rfl, rfl, rfl⟩ | ⟨rest, rfl, hrest⟩
      · exact .streamed hstream
      · exact (ih hrest).cons _
  | piped _ _ ih =>
      -- It is one of the three events of a launch, or it was there before.
      rcases first_or_rest hes with ⟨rfl, rfl, rfl⟩ | ⟨rest, rfl, hes₁⟩
      · exact .closed
      rcases first_or_rest hes₁ with ⟨rfl, rfl, rfl⟩ | ⟨rest, rfl, hes₂⟩
      · exact @Placed.piped _ [] _ _ _ _ _
      rcases first_or_rest hes₂ with ⟨rfl, rfl, rfl⟩ | ⟨rest, rfl, hrest⟩
      · exact @Placed.opened _ [] _ _ _ _ _
      · exact (((ih hrest).cons _).cons _).cons _
  | joined hclosed _ ih =>
      rcases first_or_rest hes with ⟨rfl, rfl, rfl⟩ | ⟨rest, rfl, hrest⟩
      · exact .joined hclosed
      · exact (ih hrest).cons _

/-- Where no pipe is needed none is made. -/
theorem next_eq (h : Piping true made next es) : next = made := by
  induction h with
  | start => rfl
  | aside _ _ ih => exact ih
  | streamed _ _ ih => exact ih
  | piped hstream => exact absurd hstream Bool.noConfusion
  | joined _ _ ih => exact ih

end Piping

namespace Handle

/-- Nothing happens to pipes, and nothing is launched. -/
structure Unpiped (s t : Handle × World) : Prop where
  hasStream : t.1.hasStream = s.1.hasStream
  pipe : t.1.pipe = s.1.pipe
  pipes : t.2.pipes = s.2.pipes
  adds : Adds Event.isUnpiped s.2 t.2

namespace Unpiped

variable {s t u : Handle × World}

theorem trans (h : Unpiped s t) (h' : Unpiped t u) : Unpiped s u :=
  ⟨h'.hasStream.trans h.hasStream, h'.pipe.trans h.pipe, h'.pipes.trans h.pipes,
    h.adds.trans h'.adds⟩

instance : Std.Refl Unpiped := ⟨fun s => ⟨rfl, rfl, rfl, .refl _ s.2⟩⟩

instance : IsTrans (Handle × World) Unpiped := ⟨fun _ _ _ => trans⟩

/-- One event aside, while the handle stays as it is. -/
theorem single {e : Event} (he : e.isUnpiped) (hhandle : t.1 = s.1)
    (hpipes : t.2.pipes = s.2.pipes) (hpast : t.2.past = e :: s.2.past) : Unpiped s t :=
  ⟨by rw [hhandle], by rw [hhandle], hpipes, [e], hpast, List.forall_mem_singleton.mpr he⟩

end Unpiped

section Aside

/-! ## Actions that have nothing to do with pipes -/

theorem unpiped_inWorld {α : Type} {a : WorldAct α} (ha : a.Keeps (Onward Event.isLogging)) :
    (inWorld a).Keeps Unpiped := by
  rintro ⟨h, w⟩
  have honward := ha w
  refine ⟨rfl, rfl, ?_, honward.adds fun _ => Event.isUnpiped_of_isLogging⟩
  change (a w).2.pipes = w.pipes
  rw [honward.frame]

theorem unpiped_note (level : LogLevel) (message : String) :
    (note level message).Keeps Unpiped :=
  Keeps.bind .get fun h => unpiped_inWorld (h.log.keeps_log level message)

theorem unpiped_pollChild (child : Nat) : (inWorld (pollChild child)).Keeps Unpiped :=
  fun _ => .single rfl rfl rfl rfl

theorem unpiped_waitForChild (child : Nat) (limit : Option Number) :
    (inWorld (waitForChild child limit)).Keeps Unpiped :=
  fun _ => .single rfl rfl rfl rfl

theorem unpiped_record {e : Event} (he : e.isUnpiped) : (inWorld (record e)).Keeps Unpiped :=
  fun _ => .single he rfl rfl rfl

theorem unpiped_sleep : (inWorld sleep).Keeps Unpiped :=
  fun _ => .single rfl rfl rfl rfl

/-- Waiting for a child takes one answer, whatever that comes to. -/
theorem unpiped_waitForExit (child : Nat) : (inWorld (waitForExit child)).Keeps Unpiped := by
  intro s
  have hstate : (inWorld (waitForExit child) s).2 = (inWorld (waitForChild child none) s).2 := by
    rw [inWorld_apply, inWorld_apply]
    unfold waitForExit
    rcases hwait : waitForChild child none s.2 with ⟨_ | answer, w⟩
    · rw [bind_error hwait]
    · rw [bind_ok hwait]
      cases answer <;> rfl
  rw [hstate]
  exact unpiped_waitForChild child none s

/-- Asking a server takes one answer, whether or not that is a failure. -/
theorem unpiped_ping : ping.Keeps Unpiped := by
  intro s
  rcases ping_spec s with ⟨t, url, answer, hpass, hhandle, hping⟩
  have hstate : (ping s).2 = t := by
    rcases hping with ⟨isReady, hping, _⟩ | ⟨e, _, hping, _⟩
    · rw [hping]
    · rw [hping]
  have hpipes : (ping s).2.2.pipes = s.2.pipes := by
    unfold ping
    rw [bind_ok (self_apply s), inWorld_apply]
    unfold pingServer askServer
    rw [bind_ok (modifyGet_apply _ s.2)]
    dsimp only
    cases s.2.script.ping s.2.pings <;> rfl
  rw [hstate] at hpipes ⊢
  exact .single rfl hhandle hpipes hpass.past

theorem unpiped_hasLiveChild : hasLiveChild.Keeps Unpiped := by
  refine Keeps.bind .get fun h => ?_
  cases h.child with
  | none => exact .pure _
  | some child => exact Keeps.bind (unpiped_pollChild child) fun _ => .pure _

theorem unpiped_isRunning : isRunning.Keeps Unpiped :=
  Keeps.bind unpiped_hasLiveChild fun _ => .ite unpiped_ping (.pure _)

theorem unpiped_wait : wait.Keeps Unpiped := by
  refine Keeps.bind .get fun h => ?_
  cases h.child with
  | none => exact .throw _
  | some child => exact unpiped_waitForExit child

theorem unpiped_endChild (child : Nat) : (endChild child).Keeps Unpiped := by
  refine Keeps.bind .get fun _ => Keeps.bind (unpiped_note _ _) fun _ => ?_
  refine Keeps.bind (unpiped_record rfl) fun _ => ?_
  refine Keeps.bind (unpiped_waitForChild child _) fun answer => ?_
  cases answer with
  | exited code => exact .pure _
  | interrupted => exact .throw _
  | timedOut =>
      refine Keeps.bind .get fun _ => Keeps.bind (unpiped_note _ _) fun _ => ?_
      exact Keeps.bind (unpiped_record rfl) fun _ =>
        Keeps.bind (unpiped_waitForExit child) fun _ => .pure _

theorem unpiped_logOutput (logger : Logger) (lines : List String) :
    (inWorld (logOutput logger lines)).Keeps Unpiped :=
  unpiped_inWorld (keeps_logOutput logger lines)

end Aside

/-- What holds of a handle between two calls: all pipes of the history since some world are
    closed, the one that the handle has included. -/
structure Sealed (hasStream : Bool) (base : World) (s : Handle × World) : Prop where
  stream : s.1.hasStream = hasStream
  history : ∃ es, s.2.past = es ++ base.past ∧ Piping hasStream base.pipes s.2.pipes es ∧
    ∀ pipe, s.1.pipe = some pipe → pipe.isOpen = false ∧ .closedPipe pipe.number ∈ es

/-- A handle stays as it has to be between two calls. -/
def StaysSealed (hasStream : Bool) (base : World) (s t : Handle × World) : Prop :=
  Sealed hasStream base s → Sealed hasStream base t

variable {hasStream : Bool} {base : World} {s t : Handle × World}

instance : Std.Refl (StaysSealed hasStream base) := ⟨fun _ h => h⟩

instance : IsTrans (Handle × World) (StaysSealed hasStream base) :=
  ⟨fun _ _ _ h h' hs => h' (h hs)⟩

theorem Unpiped.stays (h : Unpiped s t) : StaysSealed hasStream base s t := by
  rintro ⟨hstream, es, hpast, hpiping, hclosed⟩
  rcases h.adds with ⟨es', hpast', hes'⟩
  refine ⟨h.hasStream.trans hstream, es' ++ es, ?_, ?_, ?_⟩
  · rw [hpast', hpast, List.append_assoc]
  · rw [h.pipes]
    exact hpiping.append hes'
  · intro pipe hpipe
    rw [h.pipe] at hpipe
    rcases hclosed pipe hpipe with ⟨hopen, hmem⟩
    exact ⟨hopen, List.mem_append_right es' hmem⟩

theorem keeps_unpiped {α : Type} {a : HandleAct α} (ha : a.Keeps Unpiped) :
    a.Keeps (StaysSealed hasStream base) :=
  ha.mono fun _ _ => Unpiped.stays

/-- A handle that takes or drops its child does nothing to its pipe. -/
theorem keeps_child (child : Option Nat) :
    (change fun h => { h with child }).Keeps (StaysSealed hasStream base) :=
  fun _ h => ⟨h.stream, h.history⟩

/-- The state once the writing end of a pipe is closed. -/
def pipeClosed (pipe : OutputPipe) (s : Handle × World) : Handle × World :=
  ({ s.1 with pipe := some { pipe with isOpen := false } }, s.2.record (.closedPipe pipe.number))

theorem closePipe_of_open {pipe : OutputPipe} (h : pipe.isOpen = true) (s : Handle × World) :
    closePipe pipe s = (.ok (), pipeClosed pipe s) := by
  unfold closePipe
  rw [if_pos h]
  rfl

theorem closePipe_of_closed {pipe : OutputPipe} (h : pipe.isOpen = false) (s : Handle × World) :
    closePipe pipe s = (.ok (), s) := by
  unfold closePipe
  rw [h, if_neg Bool.false_ne_true]
  rfl

/-- Letting go of the pipe waits for a reader that comes to its end. -/
theorem stays_releaseOutput : releaseOutput.Keeps (StaysSealed hasStream base) := by
  intro s
  rintro ⟨hstream, es, hpast, hpiping, hclosed⟩
  unfold releaseOutput
  rw [bind_ok (self_apply s)]
  cases hpipe : s.1.pipe with
  | none =>
      refine ⟨hstream, es, hpast, hpiping, fun pipe heq => ?_⟩
      rw [show s.1.pipe = some pipe from heq] at hpipe
      cases hpipe
  | some pipe =>
      rcases hclosed pipe hpipe with ⟨hopen, hmem⟩
      dsimp only
      rw [bind_ok (closePipe_of_closed hopen s), bind_ok (change_apply _ s), inWorld_apply]
      exact ⟨hstream, .joinedPipe pipe.number :: es, congrArg _ hpast, hpiping.joined hmem,
        fun _ heq => nomatch heq⟩

/-- A pipe that is closed is handed over by having it read. -/
theorem stays_handOverPipe : handOverPipe.Keeps (StaysSealed hasStream base) := by
  intro s hs
  rcases hs.history with ⟨es, _, _, hclosed⟩
  unfold handOverPipe
  rw [bind_ok (self_apply s)]
  cases hpipe : s.1.pipe with
  | none => exact hs
  | some pipe =>
      dsimp only
      rw [bind_ok (closePipe_of_closed (hclosed pipe hpipe).1 s), bind_ok (get_apply s)]
      exact (unpiped_logOutput pipe.logger _ s).stays hs

section Operations

/-! ## Operations -/

theorem stays_stop : stop.Keeps (StaysSealed hasStream base) := by
  refine Keeps.bind .get fun h => ?_
  cases h.child with
  | none => exact .pure _
  | some child =>
      refine Keeps.bind (keeps_child none) fun _ => ?_
      refine Keeps.bind (keeps_unpiped (unpiped_pollChild child)) fun exit => ?_
      cases exit with
      | none =>
          exact Keeps.bind (keeps_unpiped (unpiped_endChild child)) fun _ => stays_releaseOutput
      | some code => exact stays_releaseOutput

theorem stays_giveUp : giveUp.Keeps (StaysSealed hasStream base) :=
  Keeps.bind .get fun _ => Keeps.bind (keeps_unpiped (unpiped_note _ _)) fun _ =>
    Keeps.bind stays_stop fun _ => Keeps.bind .get fun _ => .throw _

/-- The wait for a server, by induction on its rounds: a round asks the child and the server,
    and lets go of the pipe if the child has ended. -/
theorem stays_awaitReady (child : Nat) (deadline : Instant) (rounds : Nat) :
    (awaitReady child deadline rounds).Keeps (StaysSealed hasStream base) := by
  induction rounds with
  | zero => exact Keeps.bind .get fun _ => .ite (.throw _) stays_giveUp
  | succ rounds ih =>
      refine Keeps.bind .get fun _ => .ite ?_ stays_giveUp
      refine Keeps.bind (keeps_unpiped (unpiped_pollChild child)) fun exit => ?_
      cases exit with
      | some code =>
          exact Keeps.bind (keeps_child none) fun _ => Keeps.bind stays_releaseOutput fun _ =>
            Keeps.bind .get fun _ => .throw _
      | none =>
          refine Keeps.bind (keeps_unpiped unpiped_ping) fun isReady => .ite ?_ ?_
          · exact Keeps.bind .get fun _ => keeps_unpiped (unpiped_note _ _)
          · exact Keeps.bind (keeps_unpiped unpiped_sleep) fun _ => ih

theorem stays_attend (child : Nat) (timeout : Value) :
    (attend child timeout).Keeps (StaysSealed hasStream base) := by
  refine Keeps.bind (keeps_child _) fun _ => Keeps.bind stays_handOverPipe fun _ => ?_
  refine Keeps.bind .get fun _ => Keeps.bind (keeps_unpiped (unpiped_note _ _)) fun _ => ?_
  refine Keeps.bind .get fun _ => Keeps.bind (.ofExcept _) fun _ => ?_
  exact stays_awaitReady _ _ _

/-- Whoever lets go of an open pipe closes it first. -/
theorem releaseOutput_of_open {pipe : OutputPipe} (hpipe : s.1.pipe = some pipe)
    (hopen : pipe.isOpen) : releaseOutput s = releaseOutput (pipeClosed pipe s) := by
  unfold releaseOutput
  rw [bind_ok (self_apply s), bind_ok (self_apply (pipeClosed pipe s)), hpipe]
  have hskip : closePipe { pipe with isOpen := false } (pipeClosed pipe s) =
      (.ok (), pipeClosed pipe s) := closePipe_of_closed rfl _
  dsimp only [pipeClosed] at hskip ⊢
  rw [bind_ok (closePipe_of_open hopen s), bind_ok hskip]
  rfl

/-- Whoever hands an open pipe over closes it first. -/
theorem handOverPipe_of_open {pipe : OutputPipe} (hpipe : s.1.pipe = some pipe)
    (hopen : pipe.isOpen) : handOverPipe s = handOverPipe (pipeClosed pipe s) := by
  unfold handOverPipe
  rw [bind_ok (self_apply s), bind_ok (self_apply (pipeClosed pipe s)), hpipe]
  have hskip : closePipe { pipe with isOpen := false } (pipeClosed pipe s) =
      (.ok (), pipeClosed pipe s) := closePipe_of_closed rfl _
  dsimp only [pipeClosed] at hskip ⊢
  rw [bind_ok (closePipe_of_open hopen s), bind_ok hskip]
  rfl

theorem attend_of_open {pipe : OutputPipe} (hpipe : s.1.pipe = some pipe) (hopen : pipe.isOpen)
    (child : Nat) (timeout : Value) :
    attend child timeout s = attend child timeout (pipeClosed pipe s) := by
  have hchild : handOverPipe ({ s.1 with child := some child }, s.2)
      = handOverPipe (pipeClosed pipe ({ s.1 with child := some child }, s.2)) :=
    handOverPipe_of_open hpipe hopen
  unfold attend
  rw [bind_ok (change_apply _ s), bind_ok (change_apply _ _)]
  change Act.andThen handOverPipe _ _ = Act.andThen handOverPipe _ _
  unfold Act.andThen
  rw [hchild]
  rfl

/-- A child is asked for, and the event says whether there is one. Nothing else changes that
    has to do with pipes. -/
theorem launchChild_unpiped (s : Handle × World) (outlet : Outlet) :
    ∃ spawned t, inWorld (launchChild s.1.command outlet s.1.environment) s = (.ok spawned, t) ∧
      t.1 = s.1 ∧ t.2.pipes = s.2.pipes ∧
      t.2.past = .launched s.1.command outlet s.1.environment spawned :: s.2.past := by
  cases hspawn : s.2.script.spawnError with
  | some text => exact ⟨none, _, launchChild_of_some hspawn, rfl, rfl, rfl⟩
  | none => exact ⟨some s.2.children, _, launchChild_of_none hspawn, rfl, rfl, rfl⟩

/-- A launch into a stream needs no pipe. -/
theorem spawn_streamed (hs : Sealed true base s) : Sealed true base (spawn s).2 := by
  unfold spawn
  rw [bind_ok (self_apply s), hs.stream, if_pos rfl]
  rcases launchChild_unpiped s .stream with ⟨spawned, t, hspawn, hhandle, hpipes, hpast⟩
  rw [bind_ok hspawn]
  have ht : Sealed true base t := by
    rcases hs.history with ⟨es, hpast', hpiping, hclosed⟩
    refine ⟨by rw [hhandle, hs.stream],
      .launched s.1.command .stream s.1.environment spawned :: es, ?_, ?_, fun pipe hpipe => ?_⟩
    · rw [hpast, hpast']
      rfl
    · rw [hpipes]
      exact hpiping.streamed rfl
    · rw [hhandle] at hpipe
      exact ⟨(hclosed pipe hpipe).1, List.mem_cons_of_mem _ (hclosed pipe hpipe).2⟩
  cases spawned with
  | none => exact Keeps.bind stays_releaseOutput (fun _ => .throw _) t ht
  | some child => exact stays_attend child s.1.timeout t ht

/-- The state once a pipe is made for the output of a child. -/
def pipeMade (logger : Logger) (s : Handle × World) : Handle × World :=
  ({ s.1 with pipe := some ⟨s.2.pipes, true, logger⟩ },
    { s.2 with pipes := s.2.pipes + 1 }.record (.openedPipe s.2.pipes))

/-- A pipe is made unless there is no logger for it. -/
theorem openPipe_cases (s : Handle × World) :
    (∃ e t, openPipe s = (.error e, t) ∧ Unpiped s t) ∨
      ∃ logger t, openPipe s = (.ok (), pipeMade logger t) ∧ Unpiped s t := by
  have hunpiped := unpiped_inWorld s.1.log.keeps_logger s
  unfold openPipe
  rw [bind_ok (self_apply s)]
  rcases hlogger : inWorld s.1.log.logger s with ⟨e | logger, t⟩
  · rw [hlogger] at hunpiped
    rw [bind_error hlogger]
    exact Or.inl ⟨e, t, rfl, hunpiped⟩
  · rw [hlogger] at hunpiped
    rw [bind_ok hlogger]
    exact Or.inr ⟨logger, t, rfl, hunpiped⟩

/-- A launch into a pipe that was made for it closes the pipe, whether or not there is a child.
    Nothing stands in between that could fail. -/
theorem spawn_piped (hs : Sealed false base s) (logger : Logger) :
    Sealed false base (spawn (pipeMade logger s)).2 := by
  unfold spawn
  rw [bind_ok (self_apply _),
    show (pipeMade logger s).1.hasStream = false from hs.stream, if_neg Bool.false_ne_true]
  rcases launchChild_unpiped (pipeMade logger s) .pipe with
    ⟨spawned, t, hspawn, hhandle, hpipes, hpast⟩
  rw [bind_ok hspawn]
  have hpipe : t.1.pipe = some ⟨s.2.pipes, true, logger⟩ := by rw [hhandle]; rfl
  -- The three events of the launch come on top of a history that was in order.
  have ht : Sealed false base (pipeClosed ⟨s.2.pipes, true, logger⟩ t) := by
    rcases hs.history with ⟨es, hpast', hpiping, _⟩
    refine ⟨?_, .closedPipe s.2.pipes :: .launched (pipeMade logger s).1.command .pipe
      (pipeMade logger s).1.environment spawned :: .openedPipe s.2.pipes :: es, ?_, ?_, ?_⟩
    · change t.1.hasStream = false
      rw [hhandle]
      exact hs.stream
    · change _ :: t.2.past = _
      rw [hpast]
      change _ :: _ :: _ :: s.2.past = _
      rw [hpast']
      rfl
    · change Piping false base.pipes t.2.pipes _
      rw [hpipes]
      exact hpiping.piped rfl
    · rintro pipe ⟨⟩
      exact ⟨rfl, List.mem_cons_self⟩
  cases spawned with
  | none =>
      dsimp only
      have hrelease := releaseOutput_of_open hpipe rfl
      have hok := releaseOutput_ok t
      rw [bind_ok (Prod.ext hok rfl), hrelease]
      exact stays_releaseOutput _ ht
  | some child =>
      dsimp only
      rw [attend_of_open hpipe rfl]
      exact stays_attend child _ _ ht

/-- A launch closes the pipe that it makes, however it ends. -/
theorem stays_launch : launch.Keeps (StaysSealed hasStream base) := by
  rw [launch_eq]
  refine Keeps.bind .get fun h => Keeps.bind (keeps_unpiped (unpiped_note _ _)) fun _ => ?_
  intro s hs
  rw [bind_ok (self_apply s)]
  cases hasStream with
  | true =>
      rw [hs.stream, if_pos rfl]
      exact spawn_streamed hs
  | false =>
      rw [hs.stream, if_neg Bool.false_ne_true]
      rcases openPipe_cases s with ⟨e, t, hopen, ht⟩ | ⟨logger, t, hopen, ht⟩
      · rw [bind_error hopen]
        exact ht.stays hs
      · rw [bind_ok hopen]
        exact spawn_piped (ht.stays hs) logger

theorem stays_start : start.Keeps (StaysSealed hasStream base) := by
  refine Keeps.bind (keeps_unpiped unpiped_hasLiveChild) fun _ => .ite ?_ stays_launch
  exact Keeps.bind .get fun _ => keeps_unpiped (unpiped_note _ _)

end Operations

namespace Sealed

/-- The invariant over one turn. -/
theorem turn (h : Sealed hasStream base s) (turn : HandleTurn) :
    Sealed hasStream base (turn.perform s).2 := by
  cases turn with
  | start => exact stays_start s h
  | enter => exact stays_start s h
  | stop => exact stays_stop s h
  | leave => exact stays_stop s h
  | wait => exact Keeps.bind (keeps_unpiped unpiped_wait) (fun _ => .pure _) s h
  | isRunning => exact Keeps.bind (keeps_unpiped unpiped_isRunning) (fun _ => .pure _) s h
  | outside script => exact ⟨h.stream, h.history⟩

/-- The invariant over a run. -/
theorem turns (h : Sealed hasStream base s) (turns : List HandleTurn) :
    Sealed hasStream base (runTurns turns s) := by
  induction turns generalizing s with
  | nil => exact h
  | cons turn turns ih => exact ih (h.turn turn)

end Sealed

/-- Take any handle that has no pipe yet in any world, and let anything happen to it in any
    order, whether or not it fails; then of the events since, latest first:

    * no writing end of a pipe is open, and every pipe that was made was made once and closed
      once;
    * the reader of a pipe is only waited for once the pipe is closed;
    * the pipe that the handle still has, if there is one, is closed;
    * unless the output goes to a stream of the caller, every launch has a pipe that was made
      right before it and was closed right after it;
    * if it does go to such a stream, no pipe was made. -/
theorem pipes_closed (turns : List HandleTurn) {h : Handle} (hpipe : h.pipe = none) (w : World) :
    ∃ es s, s = runTurns turns (h, w) ∧ s.2.past = es ++ w.past ∧
      (∀ pipe, ¬ HeldOpen pipe es) ∧
      (∀ pipe, .openedPipe pipe ∈ es →
        es.count (.openedPipe pipe) = 1 ∧ es.count (.closedPipe pipe) = 1) ∧
      (∀ newer older pipe, es = newer ++ .joinedPipe pipe :: older → .closedPipe pipe ∈ older) ∧
      (∀ pipe, s.1.pipe = some pipe → pipe.isOpen = false ∧ .closedPipe pipe.number ∈ es) ∧
      (h.hasStream = false → ∀ newer older command outlet environment child,
        es = newer ++ .launched command outlet environment child :: older →
        outlet = .pipe ∧ ∃ pipe after before, newer = after ++ [.closedPipe pipe] ∧
          older = .openedPipe pipe :: before) ∧
      (h.hasStream = true → ∀ pipe, .openedPipe pipe ∉ es) := by
  have hstart : Sealed h.hasStream w (h, w) :=
    ⟨rfl, [], rfl, .start, fun pipe heq => by rw [hpipe] at heq; cases heq⟩
  rcases (hstart.turns turns).history with ⟨es, hpast, hpiping, hclosed⟩
  refine ⟨es, runTurns turns (h, w), rfl, hpast, fun _ => hpiping.not_heldOpen, ?_,
    fun newer older pipe hes => ?_, hclosed, ?_, ?_⟩
  · intro pipe hmem
    rcases hpiping.count pipe with ⟨_, hopened, hclosed⟩
    -- A pipe that was made is one of those that are numbered.
    have hpos : 0 < es.count (.openedPipe pipe) := List.count_pos_iff.mpr hmem
    by_cases hnumber : w.pipes ≤ pipe ∧ pipe < (runTurns turns (h, w)).2.pipes
    · rw [if_pos hnumber] at hopened hclosed
      exact ⟨hopened, hclosed⟩
    · rw [hopened, if_neg hnumber] at hpos
      exact absurd hpos (Nat.lt_irrefl 0)
  · cases hpiping.placed rfl hes with
    | joined hmem => exact hmem
  · intro hstream newer older command outlet environment child hes
    rw [hstream] at hpiping
    cases hpiping.placed rfl hes with
    | streamed hneeded => exact absurd hneeded Bool.false_ne_true
    | piped => exact ⟨rfl, _, _, _, rfl, rfl⟩
  · intro hstream pipe
    rw [hstream] at hpiping
    rcases hpiping.count pipe with ⟨_, hopened, _⟩
    rw [hpiping.next_eq,
      if_neg fun hnumber => absurd hnumber.2 (Nat.not_lt.mpr hnumber.1)] at hopened
    exact List.count_eq_zero.mp hopened

/-- A server that is stopped, and the next one, whose start fails with a malformed answer while
    its child is left running: both pipes are closed, and the first one was read to its end. -/
theorem pipes_closed_restarted :
    ∃ es s, s = runTurns [.start, .stop,
        .outside { (default : ChildScript) with ping := fun _ => .malformed "" }, .start]
        (plain, World.start default default .seconds) ∧
      s.1.child = some 1 ∧ .joinedPipe 0 ∈ es ∧ .openedPipe 1 ∈ es ∧
      (∀ pipe, ¬ HeldOpen pipe es) ∧ es.count (.closedPipe 1) = 1 := by
  rcases pipes_closed [.start, .stop,
    .outside { (default : ChildScript) with ping := fun _ => .malformed "" }, .start]
    (h := plain) rfl (World.start default default .seconds) with
    ⟨es, s, rfl, hpast, hclosed, honce, _⟩
  have hes : es = (runTurns [.start, .stop,
      .outside { (default : ChildScript) with ping := fun _ => .malformed "" }, .start]
      (plain, World.start default default .seconds)).2.past := by
    rw [← List.append_nil es]
    exact hpast.symm
  have hmade : .openedPipe 1 ∈ es := by
    rw [hes]
    decide +kernel
  refine ⟨es, _, rfl, by decide +kernel, ?_, hmade, hclosed, (honce 1 hmade).2⟩
  rw [hes]
  decide +kernel

end Handle

end ServerLaunch
