import ServerLaunch.Container.Resolve
import ServerLaunch.Proofs.History

/-!
# Writing Messages

What a message costs, and why it cannot fail once a first one was written.

An object that was given no logger takes the registered one with its first message. That may
run a recipe, make directories and open a log file, and it may fail. From then on the object
has its logger, and a message is nothing but a record in the history. `Settled` is that
point: after it nothing in the launcher can fail for the sake of a message, which is what
makes it safe to write one between letting go of a child and asking it to end.

## Main definitions

* `LogSource.Settled`: The logger of a source is known.
* `Logger.written`: The world after a message to a logger.

## Theorems

* `Logger.log_onward`: A message is all that writing one adds.
* `LogSource.keeps_log`: Writing a message never does more than logging.
* `Settled.log_apply`: Writing a message with a known logger.
* `Settled.of_log`: After the first message the logger is known.
* `Settled.of_chosen`: A known logger stays known.
-/

namespace ServerLaunch

open Act World

/-- Adding one event to the world, or none, where all that may be added is of a kind. -/
theorem onward_ite {kind : Event → Bool} {c : Prop} [Decidable c] {w u v : World}
    (hu : Onward kind w u) (hv : Onward kind w v) : Onward kind w (if c then u else v) := by
  split
  · exact hu
  · exact hv

theorem World.file_onward (w : World) (name : String) (entry : LogRecord) :
    Onward Event.isMessage w (w.file name entry) := by
  unfold World.file
  cases w.logs.streams.lookup name with
  | none => exact .refl _ w
  | some stream =>
      have hlogs : Onward Event.isMessage w
          { w with logs := w.logs.filed w.host.sizeAt name stream entry } := .quiet rfl rfl rfl
      exact hlogs.trans (record_onward rfl _)

theorem Channel.write_onward (channel : Channel) (entry : LogRecord) (w : World) :
    Onward Event.isMessage w (channel.write entry w) := by
  unfold Channel.write
  have hshown : Onward Event.isMessage w
      (if channel.console then w.record (.shown entry) else w) :=
    onward_ite (record_onward rfl w) (.refl _ w)
  exact onward_ite (hshown.trans (World.file_onward _ _ _)) hshown

theorem World.writeLog_onward (w : World) (name : String) (level : LogLevel) (message : String) :
    Onward Event.isMessage w (w.writeLog name level message) := by
  unfold World.writeLog
  refine onward_ite (onward_ite (onward_ite (record_onward rfl w) (.refl _ w)) ?_) (.refl _ w)
  exact Channel.write_onward _ _ w

namespace Logger

/-- The world after a message to a logger. -/
def written (logger : Logger) (writer : Writer) (level : LogLevel) (message : String)
    (w : World) : World :=
  (logger.log writer level message w).2

/-- A message never fails, and all it adds to the history is itself. -/
theorem log_apply (logger : Logger) (writer : Writer) (level : LogLevel) (message : String)
    (w : World) :
    logger.log writer level message w = (.ok (), logger.written writer level message w) := rfl

theorem written_onward (logger : Logger) (writer : Writer) (level : LogLevel) (message : String)
    (w : World) : Onward Event.isMessage w (logger.written writer level message w) := by
  cases logger with
  | silent serial => exact .refl _ w
  | journal => exact record_onward rfl w
  | launcher serial name file => exact w.writeLog_onward name level message

theorem keeps_log (logger : Logger) (writer : Writer) (level : LogLevel) (message : String) :
    (logger.log writer level message).Keeps (Onward Event.isMessage) :=
  logger.written_onward writer level message

end Logger

section Services

/-! ## Services -/

/-- A message is a case of all that logging does. -/
theorem Logger.keeps_log_wide (logger : Logger) (writer : Writer) (level : LogLevel)
    (message : String) : (logger.log writer level message).Keeps (Onward Event.isLogging) :=
  (logger.keeps_log writer level message).mono fun _ _ h =>
    h.mono fun _ => Event.isLogging_of_isMessage

theorem keeps_newSerial {kind : Event → Bool} : newSerial.Keeps (Onward kind) :=
  Keeps.modifyGet fun _ => .quiet rfl rfl rfl

theorem keeps_currentContainer {kind : Event → Bool} : currentContainer.Keeps (Onward kind) := by
  refine Keeps.modifyGet fun w => ?_
  cases w.container with
  | some c => exact .refl kind w
  | none => exact .quiet rfl rfl rfl

theorem keeps_registerProvider {kind : Event → Bool} (interface : Interface)
    (provider : Provider) : (registerProvider interface provider).Keeps (Onward kind) :=
  Keeps.bind keeps_currentContainer fun _ => Keeps.modify fun _ => .quiet rfl rfl rfl

theorem keeps_makeDirectory (path : Path) :
    (makeDirectory path).Keeps (Onward Event.isOpening) := by
  intro w
  unfold makeDirectory
  cases w.host.refusal with
  | some text => exact .refl _ w
  | none => exact record_onward rfl w

theorem keeps_openChannel {kind : Event → Bool} (name : String) (config : LoggingConfig)
    (file : Option Path) : (openChannel name config file).Keeps (Onward kind) :=
  Keeps.modify fun _ => .quiet rfl rfl rfl

theorem keeps_openLogFile (name : String) (path : Path) :
    (openLogFile name path).Keeps (Onward Event.isOpening) := by
  refine Keeps.modify fun w => ?_
  have hlogs : Onward Event.isOpening w
      { w with logs := w.logs.openAt w.host.sizeAt name (w.host.locate path) } := .quiet rfl rfl rfl
  exact hlogs.trans (record_onward rfl _)

/-- A logger is opened with nothing but a directory and a file for it. -/
theorem keeps_openLogger (config : LoggingConfig) (name : String) :
    (openLogger config name).Keeps (Onward Event.isOpening) := by
  refine Keeps.bind (keeps_openChannel _ config none) fun _ => ?_
  refine Keeps.ite (Keeps.bind .get fun w => ?_) (Keeps.bind keeps_newSerial fun _ => .pure _)
  refine Keeps.bind (keeps_makeDirectory _) fun _ => Keeps.bind (keeps_openLogFile _ _) fun _ => ?_
  exact Keeps.bind (keeps_openChannel _ config _) fun _ =>
    Keeps.bind keeps_newSerial fun _ => .pure _

/-- A method keeps what asking for services keeps, for that is all that it does. -/
theorem Method.keeps_follow {R : World → World → Prop} [Std.Refl R] [IsTrans World R]
    {ask : Interface → Bool → WorldAct (Option Provided)}
    (hask : ∀ interface insists, (ask interface insists).Keeps R) (method : Method) :
    (method.follow ask).Keeps R := by
  induction method with
  | gives result => exact .pure _
  | fails trouble => exact .throw _
  | asks interface insists catches next ih =>
      unfold Method.follow
      refine Keeps.bind (hask interface insists).attempt fun answer => ?_
      cases answer with
      | ok found => exact ih _
      | error e => exact Keeps.ite (ih _) (.throw _)

section Asking

variable {ask : Interface → Bool → WorldAct (Option Provided)}
  (hask : ∀ interface insists, (ask interface insists).Keeps (Onward Event.isLogging))

include hask

theorem keeps_followRecipe (interface : Interface) (recipe : Recipe) :
    (followRecipe ask interface recipe).Keeps (Onward Event.isLogging) := by
  cases recipe with
  | launcherLog config =>
      exact Keeps.bind ((keeps_openLogger config _).mono fun _ _ h =>
        h.mono fun _ => Event.isLogging_of_isOpening) fun _ => .pure _
  | methods method times =>
      exact Keeps.bind (keeps_record rfl) fun _ =>
        Keeps.bind (keeps_registerProvider interface _) fun _ => Method.keeps_follow hask _

omit hask in
theorem keeps_keepResult (interface : Interface) (result : Option Provided) :
    (keepResult interface result).Keeps (Onward Event.isLogging) := by
  refine Keeps.bind keeps_currentContainer fun c => ?_
  cases (c.find? interface).bind Provider.recipe? with
  | none => exact .pure _
  | some recipe =>
      cases result with
      | none => exact keeps_registerProvider interface _
      | some object =>
          exact Keeps.bind (keeps_record rfl) fun _ => keeps_registerProvider interface _

theorem keeps_serve (interface : Interface) (insists : Bool) :
    (serve ask interface insists).Keeps (Onward Event.isLogging) := by
  refine Keeps.bind keeps_currentContainer fun c => ?_
  rcases c.find? interface with _ | object | recipe | ⟨recipe, object⟩
  · exact Keeps.ite (.throw _) (.pure _)
  · exact .pure _
  · exact Keeps.bind (keeps_followRecipe hask interface recipe) fun result =>
      Keeps.bind (keeps_keepResult interface result) fun _ => .pure _
  · exact .pure _

end Asking

theorem keeps_asking (depth : Nat) (interface : Interface) (insists : Bool) :
    (asking depth interface insists).Keeps (Onward Event.isLogging) := by
  induction depth generalizing interface insists with
  | zero => exact .throw _
  | succ depth ih => exact keeps_serve ih interface insists

/-- Asking for a service makes it if need be, and does nothing else. -/
theorem keeps_tryResolve (interface : Interface) :
    (tryResolve interface).Keeps (Onward Event.isLogging) :=
  Keeps.bind .get fun _ => keeps_serve (keeps_asking _) interface false

theorem keeps_resolve (interface : Interface) :
    (resolve interface).Keeps (Onward Event.isLogging) :=
  Keeps.bind .get fun _ => keeps_serve (keeps_asking _) interface true

theorem keeps_registeredLogger : registeredLogger.Keeps (Onward Event.isLogging) := by
  refine Keeps.bind (keeps_tryResolve .logger) fun found => ?_
  cases found with
  | none => exact Keeps.bind keeps_newSerial fun _ => .pure _
  | some object => exact .pure _

theorem keeps_asLogger {kind : Event → Bool} (object : Provided) :
    (asLogger object).Keeps (Onward kind) := by
  cases object <;> first | exact .pure _ | exact .throw _

end Services

/-- A logger kept under a number that had none hides nothing that was kept before. -/
theorem choose_onward {kind : Event → Bool} {w w' : World} {key : Nat} (object : Provided)
    (hkey : w.chosenLoggers.lookup key = none) (h : Onward kind w w') :
    Onward kind w { w' with chosenLoggers := (key, object) :: w'.chosenLoggers } := by
  refine ⟨h.past, by rw [h.frame], fun key' object' hkey' => ?_⟩
  -- A number that has a logger is another one, so its logger is found behind the new one.
  have hne : (key' == key) = false := by
    rw [beq_eq_false_iff_ne]
    rintro rfl
    rw [hkey] at hkey'
    exact absurd hkey' (by simp only [reduceCtorEq, not_false_eq_true])
  simp only [List.lookup_cons, hne]
  exact h.chosen key' object' hkey'

namespace LogSource

/-- The logger of an object that was not asked before: the registered one, which it keeps. -/
theorem object_onDemand_none {w : World} {key : Nat} (hkey : w.chosenLoggers.lookup key = none) :
    (LogSource.onDemand key).object w = (do
      let object ← registeredLogger
      modify fun w => { w with chosenLoggers := (key, object) :: w.chosenLoggers }
      return object : WorldAct Provided) w := by
  change ((get : WorldAct World) >>= _) w = _
  rw [bind_ok (get_apply w), hkey]

theorem object_onDemand_some {w : World} {key : Nat} {object : Provided}
    (hkey : w.chosenLoggers.lookup key = some object) :
    (LogSource.onDemand key).object w = (.ok object, w) := by
  change ((get : WorldAct World) >>= _) w = _
  rw [bind_ok (get_apply w), hkey]
  rfl

/-- A source that was not asked before takes the registered logger and keeps it. -/
theorem keeps_object (source : LogSource) : source.object.Keeps (Onward Event.isLogging) := by
  intro w
  -- Only a source that was not asked before makes anything happen.
  cases source with
  | given object => exact .refl _ w
  | onDemand key =>
      cases hkey : w.chosenLoggers.lookup key with
      | some object =>
          rw [object_onDemand_some hkey]
          exact .refl _ w
      | none =>
          rw [object_onDemand_none hkey]
          have hlogger := keeps_registeredLogger w
          rcases h : registeredLogger w with ⟨_ | object, w'⟩
          · rw [h] at hlogger
            rw [bind_error h]
            exact hlogger
          · rw [h] at hlogger
            rw [bind_ok h]
            exact choose_onward object hkey hlogger

theorem keeps_logger (source : LogSource) : source.logger.Keeps (Onward Event.isLogging) :=
  Keeps.bind source.keeps_object keeps_asLogger

/-- Writing a message never does more than logging does. -/
theorem keeps_log (source : LogSource) (level : LogLevel) (message : String) :
    (source.log level message).Keeps (Onward Event.isLogging) :=
  Keeps.bind source.keeps_logger fun logger => logger.keeps_log_wide .launcher level message

/-- The logger of a source is known in a world: it was given, or it was chosen before. -/
inductive Settled (w : World) : LogSource → Logger → Prop
  | given (logger : Logger) : Settled w (.given (.logger logger)) logger
  | chosen {key : Nat} {logger : Logger}
      (h : w.chosenLoggers.lookup key = some (.logger logger)) : Settled w (.onDemand key) logger

namespace Settled

variable {w w' : World} {source : LogSource} {l : Logger}

/-- A known logger stays known while what was chosen stays chosen. -/
theorem of_chosen (hl : Settled w source l) (h : ∀ key object,
    w.chosenLoggers.lookup key = some object → w'.chosenLoggers.lookup key = some object) :
    Settled w' source l := by
  cases hl with
  | given => exact .given l
  | chosen hkey => exact .chosen (h _ _ hkey)

theorem onward {kind : Event → Bool} (hl : Settled w source l) (h : Onward kind w w') :
    Settled w' source l :=
  hl.of_chosen h.chosen

theorem object_apply (hl : Settled w source l) : source.object w = (.ok (.logger l), w) := by
  cases hl with
  | given => rfl
  | chosen hkey => exact object_onDemand_some hkey

/-- A source has one logger. -/
theorem unique {l' : Logger} (hl : Settled w source l) (hl' : Settled w source l') : l = l' := by
  cases hl.object_apply.symm.trans hl'.object_apply
  rfl

theorem logger_apply (hl : Settled w source l) : source.logger w = (.ok l, w) := by
  unfold LogSource.logger
  rw [bind_ok hl.object_apply]
  rfl

/-- Writing a message with a known logger cannot fail, and is all that happens. -/
theorem log_apply (hl : Settled w source l) (level : LogLevel) (message : String) :
    source.log level message w = (.ok (), l.written .launcher level message w) := by
  unfold LogSource.log
  rw [bind_ok hl.logger_apply]
  rfl

end Settled

/-- A source that has given an object has it known from then on. -/
theorem settled_of_object {w w' : World} {source : LogSource} {l : Logger}
    (h : source.object w = (.ok (.logger l), w')) : Settled w' source l := by
  cases source with
  | given object =>
      cases h
      exact .given l
  | onDemand key =>
      cases hkey : w.chosenLoggers.lookup key with
      | some object =>
          rw [object_onDemand_some hkey] at h
          cases h
          exact .chosen hkey
      | none =>
          rw [object_onDemand_none hkey] at h
          rcases bind_eq_ok.mp h with ⟨object, w₁, _, h⟩
          cases h
          exact .chosen List.lookup_cons_self

/-- After a message that did not fail the logger is known. -/
theorem settled_of_log {w w' : World} {source : LogSource} {level : LogLevel} {message : String}
    (h : source.log level message w = (.ok (), w')) : ∃ l, Settled w' source l := by
  rcases bind_eq_ok.mp h with ⟨l, w₁, hlogger, hlog⟩
  rcases bind_eq_ok.mp hlogger with ⟨object, w₂, hobject, has⟩
  cases object with
  | logger l' =>
      cases has
      -- The logger is chosen before the message is written, and writing keeps it.
      have hw : l.written .launcher level message w₁ = w' := (Prod.mk.inj hlog).2
      have honward : Onward Event.isMessage w₁ w' :=
        hw ▸ l.written_onward .launcher level message w₁
      exact ⟨l, (settled_of_object hobject).onward honward⟩
  | _ => exact absurd has (by simp only [asLogger, throw_apply, Prod.mk.injEq, reduceCtorEq,
      false_and, not_false_eq_true])

end LogSource

end ServerLaunch
