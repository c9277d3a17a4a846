import ServerLaunch.Proofs.History
import ServerLaunch.Server.Handle

/-!
# What a History Says of Children

Which children may still run, read off the events alone.

A launcher knows of a child only what it was told, so a child counts as at large from its
launch on until something says that it is over. What counts as such a sign is left open,
for there are two readings: a poll with an exit code or a request to end, and besides these
a wait that came back with an exit code.

A handle keeps the number of the child that may be at large. `Tending` describes a stretch of
events between two such numbers: nothing is launched and nothing is looked up in it, a kill
is always the last of three steps, and a child that the handle lets go of is over. Stretches
are put together end to end, so each step of supervision is described on its own.

Histories are lists with the latest event first.

## Main definitions

* `Event.ends`, `Event.concludes`: The signs that a child is over.
* `Event.isUpkeep`, `Event.isAside`, `Event.isTending`, `Event.isAttending`: Kinds of events.
* `AtLarge`: A child was launched and nothing has said since that it is over.
* `KillsFollow`: No kill but after a request to end that went unheard.
* `Tending`: A stretch of events in which no child is launched.

## Theorems

* `AtLarge.append_iff`: A child at large after two stretches of events.
* `AtLarge.of_spawned`: A child is at large unless it is over by now.
* `KillsFollow.follows`: What stands right before a kill.
* `Tending.append`: Two stretches, one after the other.
* `Tending.killed`: The three steps to the end of a child by force.
* `Tending.held`: Which child may be at large after a stretch.
-/

namespace ServerLaunch

namespace Event

/-- A child is seen to have ended, or it is asked to end. -/
def ends (child : Nat) : Event → Bool
  | .polled c (some _) => c == child
  | .terminated c => c == child
  | _ => false

/-- A child is seen to have ended, be it by a wait, or it is asked to end. -/
def concludes (child : Nat) : Event → Bool
  | .waited c _ (.exited _) => c == child
  | e => e.ends child

/-- A server is asked whether it is ready, and the answer is a failure. -/
def isTrouble : Event → Bool
  | .pinged _ (.malformed _) => true
  | .pinged _ .interrupted => true
  | _ => false

/-- What a handle does besides dealing with its child: messages, pipes, and pauses. -/
def isUpkeep : Event → Bool
  | .openedPipe _ | .closedPipe _ | .joinedPipe _ | .slept => true
  | e => e.isLogging

/-- Whatever has nothing to do with a child. -/
def isAside : Event → Bool
  | .launched .. | .polled .. | .pinged .. | .terminated _ | .killed _ | .waited .. => false
  | _ => true

/-- Whatever a handle does about a child once it is launched. -/
def isTending : Event → Bool
  | .polled .. | .pinged .. | .terminated _ | .killed _ | .waited .. => true
  | e => e.isUpkeep

/-- Whatever a command does about its child: besides, the user is told. -/
def isAttending : Event → Bool
  | .printed _ | .complained _ => true
  | e => e.isTending

theorem isUpkeep_of_isLogging {e : Event} (h : e.isLogging) : e.isUpkeep := by
  cases e <;> first | rfl | exact h

theorem isTending_of_isUpkeep {e : Event} (h : e.isUpkeep) : e.isTending := by
  cases e <;> first | rfl | exact h

theorem isAttending_of_isTending {e : Event} (h : e.isTending) : e.isAttending := by
  cases e <;> first | rfl | exact h

theorem isAside_of_isUpkeep {e : Event} (h : e.isUpkeep) : e.isAside := by
  cases e <;> first | rfl | exact absurd h Bool.false_ne_true

theorem isAside_of_isLogging {e : Event} (h : e.isLogging) : e.isAside :=
  isAside_of_isUpkeep (isUpkeep_of_isLogging h)

theorem isAside_of_isPreparation {e : Event} (h : e.isPreparation) : e.isAside := by
  cases e <;> first | rfl | exact absurd h Bool.false_ne_true

/-- What has nothing to do with a child does not say that it is over. -/
theorem concludes_of_isAside {e : Event} (h : e.isAside) (child : Nat) :
    e.concludes child = false := by
  cases e <;> first | rfl | exact absurd h Bool.false_ne_true

theorem isTrouble_of_isAside {e : Event} (h : e.isAside) : e.isTrouble = false := by
  cases e <;> first | rfl | exact absurd h Bool.false_ne_true

theorem isTrouble_of_isUpkeep {e : Event} (h : e.isUpkeep) : e.isTrouble = false :=
  isTrouble_of_isAside (isAside_of_isUpkeep h)

theorem isTrouble_of_isMessage {e : Event} (h : e.isMessage) : e.isTrouble = false :=
  isTrouble_of_isUpkeep (isUpkeep_of_isLogging (isLogging_of_isMessage h))

theorem calm_of_upkeep {es : List Event} (hes : ∀ e ∈ es, e.isUpkeep) :
    ∀ e ∈ es, e.isTrouble = false :=
  fun e he => isTrouble_of_isUpkeep (hes e he)

theorem calm_of_messages {es : List Event} (hes : ∀ e ∈ es, e.isMessage) :
    ∀ e ∈ es, e.isTrouble = false :=
  fun e he => isTrouble_of_isMessage (hes e he)

/-- One reading of the end of a child is narrower than the other. -/
theorem concludes_of_ends {e : Event} {child : Nat} (h : e.ends child) : e.concludes child := by
  cases e <;> first | exact h | exact absurd h Bool.false_ne_true

end Event

/-- A child was launched, and nothing has said since that it is over. -/
inductive AtLarge (ended : Nat → Event → Bool) (child : Nat) : List Event → Prop
  | spawned {command : List String} {outlet : Outlet} {environment : Table Value}
      {past : List Event} :
      AtLarge ended child (.launched command outlet environment (some child) :: past)
  | since {e : Event} {past : List Event} (he : ended child e = false)
      (h : AtLarge ended child past) : AtLarge ended child (e :: past)

namespace AtLarge

variable {ended : Nat → Event → Bool} {child : Nat} {es past : List Event}

/-- A child at large was launched lately, or before and nothing since says that it is
    over. -/
theorem append_iff : AtLarge ended child (es ++ past) ↔
    AtLarge ended child es ∨ (AtLarge ended child past ∧ ∀ e ∈ es, ended child e = false) := by
  -- The latest event comes first, so the induction goes back in time.
  induction es with
  | nil =>
      constructor
      · exact fun h => Or.inr ⟨h, fun _ he => absurd he List.not_mem_nil⟩
      · rintro (h | h)
        · cases h
        · exact h.1
  | cons e es ih =>
      constructor
      · intro h
        cases h with
        | spawned => exact Or.inl .spawned
        | since he h =>
            rcases ih.mp h with h | ⟨h, hes⟩
            · exact Or.inl (.since he h)
            · exact Or.inr ⟨h, List.forall_mem_cons.mpr ⟨he, hes⟩⟩
      · rintro (h | ⟨h, hes⟩)
        · cases h with
          | spawned => exact .spawned
          | since he h => exact .since he (ih.mpr (Or.inl h))
        · rcases List.forall_mem_cons.mp hes with ⟨he, hes⟩
          exact .since he (ih.mpr (Or.inr ⟨h, hes⟩))

/-- Unless something says that it is over, a child that was launched is at large. -/
theorem of_spawned {newer older : List Event} {command : List String} {outlet : Outlet}
    {environment : Table Value} (h : ¬ AtLarge ended child
      (newer ++ .launched command outlet environment (some child) :: older)) :
    ∃ e ∈ newer, ended child e := by
  by_cases hsign : ∃ e ∈ newer, ended child e
  · exact hsign
  · refine absurd (append_iff.mpr (Or.inr ⟨.spawned, fun e he => ?_⟩)) h
    exact Bool.eq_false_iff.mpr fun hover => hsign ⟨e, he, hover⟩

/-- Where nothing is launched, no child comes at large. -/
theorem not_of_forall (hes : ∀ e ∈ es, ∀ command outlet environment,
    e ≠ .launched command outlet environment (some child)) : ¬ AtLarge ended child es := by
  induction es with
  | nil => exact fun h => by cases h
  | cons e es ih =>
      rcases List.forall_mem_cons.mp hes with ⟨he, hes⟩
      intro h
      cases h with
      | spawned => exact he _ _ _ rfl
      | since _ h => exact ih hes h

theorem not_of_aside (hes : ∀ e ∈ es, e.isAside) : ¬ AtLarge ended child es := by
  refine not_of_forall fun e he command outlet environment heq => ?_
  have haside := hes e he
  rw [heq] at haside
  exact absurd haside Bool.false_ne_true

theorem not_of_attending (hes : ∀ e ∈ es, e.isAttending) : ¬ AtLarge ended child es := by
  refine not_of_forall fun e he command outlet environment heq => ?_
  have hattending := hes e he
  rw [heq] at hattending
  exact absurd hattending Bool.false_ne_true

end AtLarge

/-- A kill comes right after a request to the same child to end, a wait of the grace period
    that ran out, and at most messages. -/
def Follows (child : Nat) (past : List Event) : Prop :=
  ∃ messages before, past = messages ++
    .waited child (some gracePeriod) .timedOut :: .terminated child :: before ∧
    ∀ e ∈ messages, e.isMessage

theorem Follows.append {child : Nat} {es : List Event} (h : Follows child es)
    (past : List Event) : Follows child (es ++ past) := by
  rcases h with ⟨messages, before, rfl, hmessages⟩
  refine ⟨messages, before ++ past, ?_, hmessages⟩
  simp only [List.append_assoc, List.cons_append]

/-- Every kill follows a request to end that went unheard. -/
def KillsFollow : List Event → Prop
  | [] => True
  | e :: past => (∀ child, e = .killed child → Follows child past) ∧ KillsFollow past

namespace KillsFollow

variable {es es' : List Event}

theorem append (h' : KillsFollow es') (h : KillsFollow es) : KillsFollow (es' ++ es) := by
  induction es' with
  | nil => exact h
  | cons e es' ih => exact ⟨fun child he => (h'.1 child he).append es, ih h'.2⟩

/-- Where nothing is killed there is nothing to follow. -/
theorem of_forall (hes : ∀ e ∈ es, ∀ child, e ≠ .killed child) : KillsFollow es := by
  induction es with
  | nil => trivial
  | cons e es ih =>
      rcases List.forall_mem_cons.mp hes with ⟨he, hes⟩
      exact ⟨fun child heq => absurd heq (he child), ih hes⟩

/-- What stands right before a kill. -/
theorem follows {newer older : List Event} {child : Nat}
    (h : KillsFollow (newer ++ .killed child :: older)) : Follows child older := by
  induction newer with
  | nil => exact h.1 child rfl
  | cons e newer ih => exact ih h.2

end KillsFollow

/-- A stretch of events in which nothing is launched and nothing is looked up, between the
    number of the child that may be at large before it and the one after it. -/
structure Tending (before after : Option Nat) (es : List Event) : Prop where
  kind : ∀ e ∈ es, e.isTending
  kills : KillsFollow es
  handed : ∀ child, before = some child → after = some child ∨ ∃ e ∈ es, e.ends child

namespace Tending

variable {before between after : Option Nat} {es es' : List Event}

/-- Nothing is done about a child. -/
theorem of_upkeep (hes : ∀ e ∈ es, e.isUpkeep) : Tending before before es := by
  refine ⟨fun e he => Event.isTending_of_isUpkeep (hes e he), .of_forall ?_, fun _ h => Or.inl h⟩
  rintro e he child rfl
  exact absurd (hes _ he) Bool.false_ne_true

theorem of_messages (hes : ∀ e ∈ es, e.isMessage) : Tending before before es :=
  of_upkeep fun e he => Event.isUpkeep_of_isLogging (Event.isLogging_of_isMessage (hes e he))

/-- Two stretches, one after the other. -/
theorem append (h : Tending before between es) (h' : Tending between after es') :
    Tending before after (es' ++ es) := by
  refine ⟨List.forall_mem_append.mpr ⟨h'.kind, h.kind⟩, h'.kills.append h.kills,
    fun child hbefore => ?_⟩
  rcases h.handed child hbefore with hbetween | ⟨e, he, hends⟩
  · rcases h'.handed child hbetween with hafter | ⟨e, he, hends⟩
    · exact Or.inl hafter
    · exact Or.inr ⟨e, List.mem_append_left es he, hends⟩
  · exact Or.inr ⟨e, List.mem_append_right es' he, hends⟩

/-- One event that is no kill. -/
theorem single {e : Event} (he : e.isTending) (hkill : ∀ child, e ≠ .killed child)
    (hhanded : ∀ child, before = some child → after = some child ∨ e.ends child) :
    Tending before after [e] := by
  refine ⟨List.forall_mem_singleton.mpr he, .of_forall (List.forall_mem_singleton.mpr hkill),
    fun child hbefore => ?_⟩
  rcases hhanded child hbefore with hafter | hends
  · exact Or.inl hafter
  · exact Or.inr ⟨e, List.mem_singleton.mpr rfl, hends⟩

/-- One event that is no kill, where no child may be at large. -/
theorem single_none {e : Event} (he : e.isTending) (hkill : ∀ child, e ≠ .killed child) :
    Tending none none [e] :=
  single he hkill fun _ h => nomatch h

/-- Asking a child does not end it. -/
theorem polled (before : Option Nat) (child : Nat) (exit : Option Int) :
    Tending before before [.polled child exit] :=
  single rfl (fun _ h => nomatch h) fun _ h => Or.inl h

theorem pinged (before : Option Nat) (url : String) (answer : PingAnswer) :
    Tending before before [.pinged url answer] :=
  single rfl (fun _ h => nomatch h) fun _ h => Or.inl h

/-- A child that is seen to have ended is let go of. -/
theorem exited (child : Nat) (code : Int) :
    Tending (some child) none [.polled child (some code)] := by
  refine single rfl (fun _ h => nomatch h) ?_
  rintro _ ⟨⟩
  exact Or.inr (beq_self_eq_true child)

theorem terminated (child : Nat) : Tending (some child) none [.terminated child] := by
  refine single rfl (fun _ h => nomatch h) ?_
  rintro _ ⟨⟩
  exact Or.inr (beq_self_eq_true child)

/-- A child is asked to end and, when it does not, ended by force. -/
theorem killed {child : Nat} {messages : List Event} (hmessages : ∀ e ∈ messages, e.isMessage) :
    Tending (some child) none (.killed child ::
      (messages ++ [.waited child (some gracePeriod) .timedOut, .terminated child])) := by
  have hwaited : Tending none none [.waited child (some gracePeriod) .timedOut] :=
    single_none rfl fun _ h => nomatch h
  -- The request to end is what makes the child over; the kill only comes on top of it.
  have hasked := ((terminated child).append hwaited).append (of_messages hmessages)
  refine ⟨List.forall_mem_cons.mpr ⟨rfl, hasked.kind⟩, ⟨?_, hasked.kills⟩, fun c hc => ?_⟩
  · rintro _ ⟨⟩
    exact ⟨messages, [], rfl, hmessages⟩
  · rcases hasked.handed c hc with h | ⟨e, he, hends⟩
    · exact Or.inl h
    · exact Or.inr ⟨e, List.mem_cons_of_mem _ he, hends⟩

/-- No child comes at large. -/
theorem not_atLarge (h : Tending before after es) (ended : Nat → Event → Bool) (child : Nat) :
    ¬ AtLarge ended child es := by
  exact AtLarge.not_of_attending fun e he => Event.isAttending_of_isTending (h.kind e he)

/-- A child that is let go of is over. -/
theorem concluded {child : Nat} (h : Tending (some child) none es) :
    ∃ e ∈ es, e.concludes child := by
  rcases h.handed child rfl with hnone | ⟨e, he, hends⟩
  · exact absurd hnone (by simp only [reduceCtorEq, not_false_eq_true])
  · exact ⟨e, he, Event.concludes_of_ends hends⟩

/-- If only the child before the stretch may be at large, then only the one after it may be
    when the stretch is over. -/
theorem held {past : List Event} {child : Nat} (h : Tending before after es)
    (hbefore : AtLarge Event.ends child past → before = some child)
    (hlarge : AtLarge Event.ends child (es ++ past)) : after = some child := by
  rcases AtLarge.append_iff.mp hlarge with hlarge | ⟨hlarge, hopen⟩
  · exact absurd hlarge (h.not_atLarge Event.ends child)
  · rcases h.handed child (hbefore hlarge) with hafter | ⟨e, he, hends⟩
    · exact hafter
    · rw [hopen e he] at hends
      exact absurd hends Bool.false_ne_true

end Tending

end ServerLaunch
