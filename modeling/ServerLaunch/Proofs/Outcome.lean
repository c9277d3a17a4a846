import ServerLaunch.Proofs.Logging

/-!
# Outcomes

How an action ends, in each of its two ways.

`Act.Keeps` compares the two states of an action and does not ask whether it failed. Often
that is the question: which failures may come out of an action, what has led to them, and
what is left behind by each. `Act.Ends` speaks of one run of an action. What is asked of it
is a relation between the state before, the failure, if there is one, and the state after.
An action that goes on after its first part has to meet it there without a failure, and so
the relation is built up along the parts, by `Act.Ends.bind`, until one of them fails.

As a first use, the failures for the sake of a logger are told from the others: a directory
that may not be made, a recipe that fails by itself or for want of another service, recipes that
ask for each other without end, and an object that is no logger.

## Main definitions

* `Act.Sequential`: Relations that can be built up along the parts of an action.
* `Act.Ends`: What holds of the end of an action.
* `Failure.isUnheard`: The failures for the sake of a logger.

## Theorems

* `Act.Ends.bind`: One action after another.
* `LogSource.logger_failsOnly`: Why there may be no logger.
* `LogSource.log_error_iff`: A message fails if there is no logger, and for nothing else.
* `LogSource.log_first`: What is known after the first message.
-/

namespace ServerLaunch

namespace Act

variable {σ α β : Type}

/-- A relation that holds of doing nothing, and that passes from the rest of an action to the
    whole of it. -/
class Sequential (R : σ → Option Failure → σ → Prop) : Prop where
  refl (s : σ) : R s none s
  trans {s t u : σ} {o : Option Failure} (h : R s none t) (h' : R t o u) : R s o u

/-- From one state an action ends as a relation has it, and if it gives a value then that and
    the state it leaves have a property. -/
def Ends (R : σ → Option Failure → σ → Prop) (Q : α → σ → Prop) (a : Act σ α) (s : σ) : Prop :=
  match a s with
  | (.ok x, t) => R s none t ∧ Q x t
  | (.error e, t) => R s (some e) t

namespace Ends

variable {R : σ → Option Failure → σ → Prop} {Q Q' : α → σ → Prop} {a : Act σ α} {s t : σ}

theorem of_ok {x : α} (hrun : a s = (.ok x, t)) (hR : R s none t) (hQ : Q x t) : Ends R Q a s := by
  simp only [Ends, hrun]
  exact ⟨hR, hQ⟩

theorem of_error {e : Failure} (hrun : a s = (.error e, t)) (hR : R s (some e) t) :
    Ends R Q a s := by
  simp only [Ends, hrun]
  exact hR

theorem throw {e : Failure} (hR : R s (some e) s) : Ends R Q (throw e) s :=
  hR

theorem ok {x : α} (h : Ends R Q a s) (hrun : a s = (.ok x, t)) : R s none t ∧ Q x t := by
  simpa only [Ends, hrun] using h

theorem error {e : Failure} (h : Ends R Q a s) (hrun : a s = (.error e, t)) :
    R s (some e) t := by
  simpa only [Ends, hrun] using h

theorem mono (h : Ends R Q a s) (hQ : ∀ x t, Q x t → Q' x t) : Ends R Q' a s := by
  rcases hrun : a s with ⟨_ | x, t⟩
  · exact of_error hrun (h.error hrun)
  · exact of_ok hrun (h.ok hrun).1 (hQ x t (h.ok hrun).2)

section Sequences

variable [Sequential R]

theorem pure {x : α} (hQ : Q x s) : Ends R Q (pure x) s :=
  ⟨Sequential.refl s, hQ⟩

/-- One action after another: the second one starts where the first has led without a
    failure. -/
theorem bind {P : β → σ → Prop} {next : α → Act σ β} (ha : Ends R Q a s)
    (hnext : ∀ x t, R s none t → Q x t → Ends R P (next x) t) : Ends R P (a >>= next) s := by
  rcases hrun : a s with ⟨_ | x, t⟩
  · exact of_error (bind_error hrun) (ha.error hrun)
  · rcases ha.ok hrun with ⟨hR, hQ⟩
    have hrest := hnext x t hR hQ
    rcases hrun' : next x t with ⟨_ | y, u⟩
    · exact of_error ((bind_ok hrun).trans hrun') (Sequential.trans hR (hrest.error hrun'))
    · rcases hrest.ok hrun' with ⟨hR', hP⟩
      exact of_ok ((bind_ok hrun).trans hrun') (Sequential.trans hR hR') hP

/-- A first part that is known to do well. -/
theorem step {x : β} {b : Act σ β} {next : β → Act σ α} (hrun : b s = (.ok x, t))
    (hR : R s none t) (hnext : Ends R Q (next x) t) : Ends R Q (b >>= next) s := by
  refine bind (Q := fun y u => y = x ∧ u = t) (of_ok hrun hR ⟨rfl, rfl⟩) ?_
  rintro _ _ _ ⟨rfl, rfl⟩
  exact hnext

/-- A first part that only reads. -/
theorem read {x : β} {b : Act σ β} {next : β → Act σ α} (hrun : b s = (.ok x, s))
    (hnext : Ends R Q (next x) s) : Ends R Q (b >>= next) s :=
  step hrun (Sequential.refl s) hnext

end Sequences

end Ends

/-- An action fails with nothing but failures of a kind, from whatever state. -/
def FailsOnly (kind : Failure → Bool) (a : Act σ α) : Prop :=
  ∀ s e, (a s).1 = .error e → kind e

namespace FailsOnly

variable {kind : Failure → Bool} {a : Act σ α}

theorem never {f : σ → α × σ} : FailsOnly kind (fun s => (.ok (f s).1, (f s).2)) :=
  fun _ _ h => nomatch h

theorem get : FailsOnly kind (get : Act σ σ) :=
  fun _ _ h => nomatch h

theorem pure (x : α) : FailsOnly kind (Pure.pure x : Act σ α) :=
  fun _ _ h => nomatch h

theorem throw {e : Failure} (he : kind e) : FailsOnly kind (throw e : Act σ α) := by
  rintro s _ ⟨rfl⟩
  exact he

theorem bind {next : α → Act σ β} (ha : FailsOnly kind a)
    (hnext : ∀ x, FailsOnly kind (next x)) : FailsOnly kind (a >>= next) := by
  intro s e h
  rcases hrun : a s with ⟨_ | x, t⟩
  · rw [bind_error hrun] at h
    cases h
    exact ha s e (by rw [hrun])
  · rw [bind_ok hrun] at h
    exact hnext x t e h

theorem ite {c : Prop} [Decidable c] {b : Act σ α} (ha : FailsOnly kind a)
    (hb : FailsOnly kind b) : FailsOnly kind (if c then a else b) := by
  split
  · exact ha
  · exact hb

end FailsOnly

end Act

open Act World

/-- Whether a failure is one for the sake of a logger. -/
def Failure.isUnheard : Failure → Bool
  | .denied _ | .usedUp | .noVariable _ | .bodyFailed _ | .unregistered _ | .nesting
  | .noSuchPart => true
  | _ => false

section Services

/-! ## Services -/

theorem makeDirectory_failsOnly (path : Path) :
    (makeDirectory path).FailsOnly Failure.isUnheard := by
  intro w e h
  unfold makeDirectory at h
  cases hrefusal : w.host.refusal with
  | none => rw [hrefusal] at h; cases h
  | some text => rw [hrefusal] at h; cases h; rfl

theorem openLogger_failsOnly (config : LoggingConfig) (name : String) :
    (openLogger config name).FailsOnly Failure.isUnheard := by
  refine FailsOnly.bind .never fun _ => FailsOnly.ite ?_ (FailsOnly.bind .never fun _ => .pure _)
  refine FailsOnly.bind .get fun _ => FailsOnly.bind (makeDirectory_failsOnly _) fun _ => ?_
  exact FailsOnly.bind .never fun _ => FailsOnly.bind .never fun _ =>
    FailsOnly.bind .never fun _ => .pure _

theorem registerProvider_failsOnly (interface : Interface) (provider : Provider) :
    (registerProvider interface provider).FailsOnly Failure.isUnheard :=
  FailsOnly.bind .never fun _ => .never

theorem keepResult_failsOnly (interface : Interface) (result : Option Provided) :
    (keepResult interface result).FailsOnly Failure.isUnheard := by
  refine FailsOnly.bind .never fun c => ?_
  cases (c.find? interface).bind Provider.recipe? with
  | none => exact .pure _
  | some recipe =>
      cases result with
      | none => exact registerProvider_failsOnly interface _
      | some object => exact FailsOnly.bind .never fun _ => registerProvider_failsOnly interface _

section Asking

variable {ask : Interface → Bool → WorldAct (Option Provided)}
  (hask : ∀ interface insists, (ask interface insists).FailsOnly Failure.isUnheard)

include hask

/-- A method passes on the failures of asking, or has trouble by itself. -/
theorem Method.follow_failsOnly (method : Method) :
    (method.follow ask).FailsOnly Failure.isUnheard := by
  induction method with
  | gives result => exact .pure _
  | fails trouble => cases trouble <;> exact .throw rfl
  | asks interface insists catches next ih =>
      intro w e h
      unfold Method.follow at h
      rw [bind_ok (attempt_apply _ w)] at h
      cases hrun : (ask interface insists w).1 with
      | ok found =>
          rw [hrun] at h
          exact ih _ _ e h
      | error e' =>
          rw [hrun] at h
          refine FailsOnly.ite (ih _) (.throw (hask interface insists w e' hrun)) _ e h

theorem followRecipe_failsOnly (interface : Interface) (recipe : Recipe) :
    (followRecipe ask interface recipe).FailsOnly Failure.isUnheard := by
  cases recipe with
  | launcherLog config => exact FailsOnly.bind (openLogger_failsOnly config _) fun _ => .pure _
  | methods method times =>
      exact FailsOnly.bind .never fun _ =>
        FailsOnly.bind (registerProvider_failsOnly interface _) fun _ =>
          Method.follow_failsOnly hask _

theorem serve_failsOnly (interface : Interface) (insists : Bool) :
    (serve ask interface insists).FailsOnly Failure.isUnheard := by
  refine FailsOnly.bind .never fun c => ?_
  rcases c.find? interface with _ | object | recipe | ⟨recipe, object⟩
  · exact FailsOnly.ite (.throw rfl) (.pure _)
  · exact .pure _
  · exact FailsOnly.bind (followRecipe_failsOnly hask interface recipe) fun result =>
      FailsOnly.bind (keepResult_failsOnly interface result) fun _ => .pure _
  · exact .pure _

end Asking

theorem asking_failsOnly (depth : Nat) (interface : Interface) (insists : Bool) :
    (asking depth interface insists).FailsOnly Failure.isUnheard := by
  induction depth generalizing interface insists with
  | zero => exact .throw rfl
  | succ depth ih => exact serve_failsOnly ih interface insists

theorem tryResolve_failsOnly (interface : Interface) :
    (tryResolve interface).FailsOnly Failure.isUnheard :=
  FailsOnly.bind .get fun _ => serve_failsOnly (asking_failsOnly _) interface false

theorem registeredLogger_failsOnly : registeredLogger.FailsOnly Failure.isUnheard := by
  refine FailsOnly.bind (tryResolve_failsOnly .logger) fun found => ?_
  cases found with
  | none => exact FailsOnly.bind .never fun _ => .pure _
  | some object => exact .pure _

theorem asLogger_failsOnly (object : Provided) :
    (asLogger object).FailsOnly Failure.isUnheard := by
  cases object <;> first | exact .pure _ | exact .throw rfl

end Services

namespace LogSource

theorem object_failsOnly (source : LogSource) : source.object.FailsOnly Failure.isUnheard := by
  cases source with
  | given object => exact .pure _
  | onDemand key =>
      intro w
      -- Only a source that was not asked before asks for the registered logger.
      cases hkey : w.chosenLoggers.lookup key with
      | some object =>
          rw [object_onDemand_some hkey]
          exact fun _ h => nomatch h
      | none =>
          rw [object_onDemand_none hkey]
          exact FailsOnly.bind registeredLogger_failsOnly
            (fun _ => FailsOnly.bind .never fun _ => .pure _) w

/-- There are few reasons for which there is no logger. -/
theorem logger_failsOnly (source : LogSource) : source.logger.FailsOnly Failure.isUnheard :=
  FailsOnly.bind source.object_failsOnly asLogger_failsOnly

/-- A message fails if there is no logger, and for nothing else. -/
theorem log_error_iff (source : LogSource) (level : LogLevel) (message : String) (w : World)
    (e : Failure) :
    (source.log level message w).1 = .error e ↔ (source.logger w).1 = .error e := by
  unfold LogSource.log
  rcases hrun : source.logger w with ⟨_ | logger, w'⟩
  · rw [bind_error hrun]
    exact ⟨fun h => by cases h; rfl, fun h => by cases h; rfl⟩
  · rw [bind_ok hrun, logger.log_apply]
    simp only [reduceCtorEq]

/-- The first message is refused for want of a logger, or the logger is known from then on. -/
theorem log_first (source : LogSource) (level : LogLevel) (message : String) (w : World) :
    ∃ r w', source.log level message w = (r, w') ∧ Onward Event.isLogging w w' ∧
      ((∃ e, r = .error e ∧ (source.logger w).1 = .error e) ∨
      r = .ok () ∧ (source.logger w).1.isOk ∧ ∃ l, Settled w' source l) := by
  have honward := source.keeps_log level message w
  rcases hlog : source.log level message w with ⟨r, w'⟩
  rw [hlog] at honward
  refine ⟨r, w', rfl, honward, ?_⟩
  cases r with
  | error e => exact Or.inl ⟨e, rfl, (source.log_error_iff level message w e).mp (by rw [hlog])⟩
  | ok _ =>
      refine Or.inr ⟨rfl, ?_, settled_of_log hlog⟩
      rcases hlogger : (source.logger w).1 with e | l
      · have hfails := (source.log_error_iff level message w e).mpr hlogger
        rw [hlog] at hfails
        cases hfails
      · rfl

end LogSource

end ServerLaunch
