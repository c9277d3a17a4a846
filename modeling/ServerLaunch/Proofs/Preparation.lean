import ServerLaunch.CommandLine.Run
import ServerLaunch.Proofs.BuilderRun
import ServerLaunch.Proofs.Children

/-!
# Preparing a Command

What happens before a command does what it is for, and the handle that comes of it.

Settings are loaded, the launcher is made ready, a builder is made and filled from the
options, and the launch is built. Much of this can fail, and all of it can be seen in the
history, but none of it has to do with a child. That is stated for every part, whatever the
part comes back with, so that the histories of the two commands can be compared from the
point on where they part.

A handle that is prepared is a new one. Two facts about it make all the difference later:
its logger is known before its first message, and its timeout is a number that every clock
can add, so a start of it is never refused and never without a deadline.

## Main definitions

* `Builder.Ready`: A builder with a known logger and a timeout for every clock.

## Theorems

* `keeps_loadSettings`, `keeps_bootstrap`, `LaunchContext.keeps_create`: What comes before the
  builder.
* `CommandLine.keeps_prepare`: Preparing has nothing to do with a child.
* `CommandLine.readServerOptions_timeout`: A timeout that is read is a floating point number.
* `CommandLine.prepare_eq_ok`: The handle that is prepared.
-/

namespace ServerLaunch

open Act World

section Settings

/-! ## Settings -/

theorem keeps_noteRegistered (level : LogLevel) (message : String) :
    (noteRegistered level message).Keeps (Onward Event.isLogging) :=
  Keeps.bind keeps_registeredLogger fun object => Keeps.bind (keeps_asLogger object) fun l =>
    l.keeps_log_wide .launcher level message

section Messages

-- Of the state, loading settings changes only what its messages change.
variable {R : World → World → Prop} [Std.Refl R] [IsTrans World R]
  (hnote : ∀ level message, (noteRegistered level message).Keeps R)

include hnote

theorem keeps_sharesConfig (file : Path) : (sharesConfig file).Keeps R := by
  refine Keeps.bind .get fun w => Keeps.bind (.ofExcept _) fun answer => ?_
  cases answer with
  | ok project => exact .ofExcept _
  | error fault => exact Keeps.bind (hnote _ _) fun _ => .pure _

theorem keeps_configOf? (directory : Path) : (configOf? directory).Keeps R := by
  refine Keeps.bind (keeps_lookAt _) fun _ => Keeps.ite (.pure _) ?_
  refine Keeps.bind (keeps_lookAt _) fun _ => Keeps.ite ?_ (.pure _)
  exact Keeps.bind (keeps_sharesConfig hnote _) fun _ => Keeps.ite (.pure _) (.pure _)

theorem keeps_firstConfig? (directories : List Path) : (firstConfig? directories).Keeps R := by
  induction directories with
  | nil => exact .pure _
  | cons directory directories ih =>
      refine Keeps.bind (keeps_configOf? hnote directory) fun found => ?_
      cases found with
      | some file => exact .pure _
      | none => exact ih

theorem keeps_findConfig (start : Option String) : (findConfig start).Keeps R :=
  Keeps.bind .get fun _ => keeps_firstConfig? hnote _

theorem keeps_readSettings (file : Path) : (readSettings file).Keeps R := by
  refine Keeps.bind .get fun w => Keeps.bind (.ofExcept _) fun answer => ?_
  cases answer with
  | ok table => exact .ofExcept _
  | error fault => exact Keeps.bind (hnote _ _) fun _ => .pure _

theorem keeps_readGiven (file : Option Path) : (match file with
      | some file => readSettings file
      | none => return .dict [] : WorldAct Value).Keeps R := by
  cases file with
  | some file => exact keeps_readSettings hnote file
  | none => exact .pure _

theorem TomlSource.keeps_readFirst (source : TomlSource) : source.readFirst.Keeps R := by
  unfold readFirst
  cases source.path with
  | some file => exact Keeps.bind (.pure _) (keeps_readGiven hnote)
  | none => exact Keeps.bind (keeps_findConfig hnote _) (keeps_readGiven hnote)

/-- Loading settings reads files and writes messages, and that is all. -/
theorem keeps_loadSettings (path : Option Path) (start : Option String) :
    (loadSettings path start).Keeps R := by
  refine Keeps.bind (Keeps.bind .get fun w => Keeps.bind (.ofExcept _) fun environment => ?_)
    fun es => .ofExcept _
  exact Keeps.bind (TomlSource.keeps_readFirst hnote _) fun contents => .ofExcept _

end Messages

end Settings

section Context

/-! ## The context of a command -/

theorem keeps_registerCore {kind : Event → Bool} (settings : Settings) :
    (registerCore settings).Keeps (Onward kind) := by
  refine Keeps.bind keeps_newSerial fun serial => ?_
  refine Keeps.bind (keeps_registerProvider _ _) fun _ => ?_
  exact Keeps.bind (keeps_registerProvider _ _) fun _ => Keeps.modify fun _ => .quiet rfl rfl rfl

theorem keeps_bootstrap {load : WorldAct Settings}
    (hload : load.Keeps (Onward Event.isLogging)) :
    (bootstrap load).Keeps (Onward Event.isLogging) := by
  refine Keeps.bind keeps_currentContainer fun container => Keeps.bind .get fun w => ?_
  exact Keeps.ite (.pure _) (Keeps.bind hload fun settings =>
    Keeps.bind (keeps_registerCore settings) fun _ => .pure _)

theorem LaunchContext.keeps_create (path : Option Path) (isVerbose : Bool) (cwd : Option Path) :
    (LaunchContext.create path isVerbose cwd).Keeps (Onward Event.isLogging) := by
  refine Keeps.bind .get fun w => Keeps.bind (keeps_loadSettings keeps_noteRegistered _ _)
    fun loaded => ?_
  refine Keeps.bind (keeps_bootstrap (.pure _)) fun _ =>
    Keeps.bind (keeps_resolve .logger) fun found => ?_
  cases found with
  | some logger => exact .pure _
  | none => exact .pure _

end Context

namespace Builder

/-! ## The builder -/

theorem keeps_registeredConfig : registeredConfig.Keeps (Onward Event.isLogging) := by
  refine Keeps.bind (keeps_tryResolve .settings) fun found => ?_
  rcases found with _ | ⟨_ | _⟩
  all_goals first | exact .pure _ | exact .throw _

theorem keeps_chosenLog (logger : Option Logger) : (match logger with
      | some l => return .ofLogger l
      | none => LogSource.new : WorldAct LogSource).Keeps (Onward Event.isLogging) := by
  cases logger with
  | some l => exact .pure _
  | none => exact Keeps.bind keeps_newSerial fun _ => .pure _

/-- Making a builder looks up what it was not given, and reads the environment. -/
theorem keeps_create (config : Option ServerConfig) (locator : Option Locator)
    (hasStream : Bool) (logger : Option Logger) :
    (create config locator hasStream logger).Keeps (Onward Event.isLogging) := by
  have hsource := keeps_chosenLog logger
  have hmake (config : ServerConfig) (locator : Locator) (log : LogSource) : (do
      let environment := (← get).host.environment
      refusable (ofConfig config environment locator hasStream log) : WorldAct Builder).Keeps
        (Onward Event.isLogging) := Keeps.bind .get fun _ => .ofExcept _
  unfold create
  -- Whichever configuration it is, the locator is made with it unless there is one.
  cases config
  all_goals
    refine Keeps.bind (by first | exact .pure _ | exact keeps_registeredConfig) fun config =>
      Keeps.bind hsource fun log => ?_
    cases locator
    · exact Keeps.bind (.map hsource) fun locator => hmake config locator log
    · exact Keeps.bind (.pure _) fun locator => hmake config locator log

/-- The builder has a known logger, and a timeout that every clock can add. -/
structure Ready (l : Logger) (b : Builder) : Prop where
  log : b.log = .given (.logger l)
  timeout : ∃ x, b.timeout = .float x

namespace Ready

variable {l : Logger} {b b' : Builder}

/-- What touches neither the logger nor the timeout leaves a builder ready. -/
theorem of_eq (h : Ready l b) (hlog : b'.log = b.log) (htimeout : b'.timeout = b.timeout) :
    Ready l b' := by
  rcases h.timeout with ⟨x, hx⟩
  exact ⟨by rw [hlog, h.log], x, by rw [htimeout, hx]⟩

theorem addArgument {flag : FlagName} {value : Option String} (h : Ready l b)
    (hadd : b.addArgument flag value = .ok b') : Ready l b' := by
  rcases addArgument_eq_ok hadd with ⟨_, rfl⟩ | ⟨text, _, hcase⟩
  · exact h.of_eq rfl rfl
  · rcases hcase with
      ⟨_, _, _, _, rfl⟩ | ⟨_, rfl⟩ | ⟨_, rfl⟩ | ⟨_, _, _, rfl⟩ | ⟨_, _, _, _, rfl⟩
    all_goals exact h.of_eq rfl rfl

theorem setPort {port : Int} (h : Ready l b) (hset : b.setPort port = .ok b') : Ready l b' := by
  rw [(setPort_eq_ok hset).2]
  exact h.of_eq rfl rfl

theorem setTimeout {x : Binary64} (h : Ready l b) (hset : b.setTimeout (.float x) = .ok b') :
    Ready l b' := by
  rw [(setTimeout_eq_ok hset).2]
  exact ⟨h.log, x, rfl⟩

/-- A builder that is made with a logger is ready: a configured timeout is a floating point
    number. -/
theorem create {config : Option ServerConfig} {locator : Option Locator} {hasStream : Bool}
    {w w' : World} (h : create config locator hasStream (some l) w = (.ok b, w')) :
    Ready l b := by
  rcases create_eq_ok h with ⟨config', environment, locator', log, hconfig, hlog⟩
  rw [hlog l rfl] at hconfig
  rcases ofConfig_eq_ok hconfig with ⟨b₀, rfl, hb⟩
  have hready : Ready l { blank locator' hasStream (.ofLogger l) with
      address := some config'.address, port := config'.port
      timeout := .float config'.startupTimeout
      environment := environment.map fun e => (e.1, .text e.2) } := ⟨rfl, _, rfl⟩
  rcases hb with rfl | hadd
  · exact hready
  · exact hready.addArgument hadd

end Ready

end Builder

namespace CommandLine

/-- A value that is given changes something, and one that is not changes nothing. -/
theorem given_eq_ok {α β ε : Type} {value : Option β} {f : α → β → Except ε α} {a a' : α}
    (h : given value f a = .ok a') :
    (value = none ∧ a' = a) ∨ ∃ b, value = some b ∧ f a b = .ok a' := by
  cases value with
  | none => exact Or.inl ⟨rfl, (Except.ok.inj h).symm⟩
  | some b => exact Or.inr ⟨b, rfl, h⟩

theorem addArguments_ready {l : Logger} {arguments : List String} {b b' : Builder}
    (hb : b.Ready l) (h : addArguments b arguments = .ok b') : b'.Ready l := by
  induction arguments generalizing b with
  | nil => rwa [← Except.ok.inj h]
  | cons raw arguments ih =>
      unfold addArguments at h
      split at h
      · next b₁ hadd => exact ih (hb.addArgument hadd) h
      · exact absurd h (by simp only [reduceCtorEq, not_false_eq_true])

/-- Options leave a builder ready, unless their timeout is no floating point number. -/
theorem ServerOptions.apply_ready {o : ServerOptions} {l : Logger} {b b' : Builder}
    (ho : ∀ n, o.timeout = some n → ∃ x, n = .float x) (hb : b.Ready l)
    (h : o.apply b = .ok b') : b'.Ready l := by
  have hsame {β : Type} {value : Option β} {f : Builder → β → Builder} {c c' : Builder}
      (hf : ∀ v, c.Ready l → (f c v).Ready l) (hc : c.Ready l)
      (hgiven : given value (fun c v => (.ok (f c v) : Except LaunchError Builder)) c = .ok c') :
      c'.Ready l := by
    rcases given_eq_ok hgiven with ⟨_, rfl⟩ | ⟨v, _, hset⟩
    · exact hc
    · rw [← Except.ok.inj hset]
      exact hf v hc
  unfold apply at h
  -- One setting after the other, in the order of the options. Only the port, the timeout and the
  -- flags can be refused.
  rcases except_bind_eq_ok.mp h with ⟨b₁, hport, h⟩
  have hb₁ : b₁.Ready l := by
    rcases given_eq_ok hport with ⟨_, rfl⟩ | ⟨port, _, hset⟩
    · exact hb
    · exact hb.setPort hset
  rcases except_bind_eq_ok.mp h with ⟨b₂, haddress, h⟩
  have hb₂ := hsame (fun _ hc => hc.of_eq rfl rfl) hb₁ haddress
  rcases except_bind_eq_ok.mp h with ⟨b₃, hlog, h⟩
  have hb₃ := hsame (fun _ hc => hc.of_eq rfl rfl) hb₂ hlog
  rcases except_bind_eq_ok.mp h with ⟨b₄, hnode, h⟩
  have hb₄ := hsame (fun _ hc => hc.of_eq rfl rfl) hb₃ hnode
  rcases except_bind_eq_ok.mp h with ⟨b₅, hscript, h⟩
  have hb₅ := hsame (fun _ hc => hc.of_eq rfl rfl) hb₄ hscript
  rcases except_bind_eq_ok.mp h with ⟨b₆, htimeout, h⟩
  have hb₆ : b₆.Ready l := by
    rcases given_eq_ok htimeout with ⟨_, rfl⟩ | ⟨n, hn, hset⟩
    · exact hb₅
    · rcases ho n hn with ⟨x, rfl⟩
      exact hb₅.setTimeout hset
  exact addArguments_ready hb₆ h

theorem ServerOptions.applyCaps_ready {o : ServerOptions} {l : Logger} {b b' : Builder}
    (hb : b.Ready l) (h : o.applyCaps b = .ok (.ok b')) : b'.Ready l := by
  unfold applyCaps at h
  split at h
  · cases h
    exact hb
  · split at h
    all_goals first
      | (cases h; exact hb.of_eq rfl rfl)
      | exact absurd h (by simp only [reduceCtorEq, Except.ok.injEq, not_false_eq_true])

/-- A timeout that is read is a floating point number. -/
theorem readTimeout_eq_ok {s : String} {n : Number} (h : readTimeout s = .ok n) :
    ∃ x, n = .float x := by
  unfold readTimeout at h
  split at h
  · exact absurd h (by simp only [reduceCtorEq, not_false_eq_true])
  · next x _ =>
      dsimp only at h
      split at h
      · exact absurd h (by simp only [reduceCtorEq, not_false_eq_true])
      · exact ⟨x, (Except.ok.inj h).symm⟩

/-- Setting an option makes no timeout but a floating point number. -/
theorem ServerOptions.set_timeout {host : Host} {options options' : ServerOptions}
    {o : OptionSpec} {values : List String} (h : options.set host o values = .ok options')
    (hold : ∀ n, options.timeout = some n → ∃ x, n = .float x) :
    ∀ n, options'.timeout = some n → ∃ x, n = .float x := by
  unfold set at h
  split at h
  -- The ninth case is the timeout, and every other option leaves it as it was.
  case h_9 =>
    rcases except_map_eq_ok.mp h with ⟨timeout, hread, rfl⟩
    rintro _ ⟨⟩
    exact readTimeout_eq_ok hread
  all_goals first
    | (rcases except_map_eq_ok.mp h with ⟨_, _, rfl⟩; exact hold)
    | (cases h; exact hold)

theorem setAll_timeout {host : Host} {p : ParsedWords} {specs : List OptionSpec}
    {options options' : ServerOptions} (h : setAll host p specs options = .ok options')
    (hold : ∀ n, options.timeout = some n → ∃ x, n = .float x) :
    ∀ n, options'.timeout = some n → ∃ x, n = .float x := by
  induction specs generalizing options with
  | nil =>
      rw [← Except.ok.inj h]
      exact hold
  | cons o specs ih =>
      unfold setAll at h
      split at h
      · next options₁ hset => exact ih h (ServerOptions.set_timeout hset hold)
      · exact absurd h (by simp only [reduceCtorEq, not_false_eq_true])

/-- Options that are read have a floating point number for a timeout, or none. -/
theorem readServerOptions_timeout {host : Host} {p : ParsedWords} {o : ServerOptions}
    (h : readServerOptions host p = .ok o) : ∀ n, o.timeout = some n → ∃ x, n = .float x := by
  unfold readServerOptions at h
  split at h
  · exact absurd h (by simp only [reduceCtorEq, not_false_eq_true])
  · next options hall =>
      split at h
      · rw [← Except.ok.inj h]
        exact setAll_timeout hall fun _ hn => nomatch hn
      · exact absurd h (by simp only [reduceCtorEq, not_false_eq_true])

/-- A handle that is prepared has no child, and the logger and the timeout of a builder that
    is ready. -/
theorem prepare_eq_ok {context : LaunchContext} {o : ServerOptions} {hasStream : Bool}
    {w w' : World} {handle : Handle} (ho : ∀ n, o.timeout = some n → ∃ x, n = .float x)
    (h : prepare context o hasStream w = (.ok (.ok handle), w')) :
    handle.child = none ∧ (∃ l, handle.log = .given (.logger l)) ∧
      ∃ x, handle.timeout = .float x := by
  unfold prepare at h
  rcases bind_eq_ok.mp h with ⟨l, w₁, _, h⟩
  rcases bind_eq_ok.mp h with ⟨b₁, w₂, hcreate, h⟩
  rcases bind_eq_ok.mp h with ⟨b₂, w₃, happly, h⟩
  rcases bind_eq_ok.mp h with ⟨result, w₄, hcaps, h⟩
  have hb₂ : b₂.Ready l := by
    have hset : (o.apply b₁).mapError Failure.launch = .ok b₂ := (Prod.mk.inj happly).1
    exact ServerOptions.apply_ready ho (.create hcreate) (mapError_eq_ok.mp hset)
  cases result with
  | error fault => exact absurd h (by simp only [pure_apply, Prod.mk.injEq, Except.ok.injEq,
      reduceCtorEq, false_and, not_false_eq_true])
  | ok b₃ =>
      have hb₃ : b₃.Ready l := ServerOptions.applyCaps_ready hb₂ (Prod.mk.inj hcaps).1
      rcases bind_eq_ok.mp h with ⟨handle', w₅, hbuild, h⟩
      cases h
      rw [zoom_apply] at hbuild
      rcases hrun : Builder.build (b₃, w₄) with ⟨outcome, b', w''⟩
      rw [hrun] at hbuild
      cases hbuild
      rcases Builder.build_eq_ok hrun with
        ⟨executable, script, last, logger, hb', _, hhandle, ⟨w₆, hlogger⟩, _⟩
      -- The logger of the handle is asked for at the end of the build, but it was known before.
      have hlog : logger = .logger l := by
        rw [hb₃.log] at hlogger
        exact (Except.ok.inj (Prod.mk.inj hlogger).1).symm
      rcases hb₃.timeout with ⟨x, hx⟩
      refine ⟨by rw [hhandle]; rfl, ⟨l, by rw [hhandle, hlog]; rfl⟩, x, ?_⟩
      rw [hhandle, hb']
      exact hx

/-- Preparing a handle has nothing to do with a child, whatever it comes back with. -/
theorem keeps_prepare (context : LaunchContext) (o : ServerOptions) (hasStream : Bool) :
    (prepare context o hasStream).Keeps (Adds Event.isAside) := by
  have haside {α : Type} {a : WorldAct α} (ha : a.Keeps (Onward Event.isLogging)) :
      a.Keeps (Adds Event.isAside) :=
    ha.mono fun _ _ h => h.adds fun _ => Event.isAside_of_isLogging
  refine Keeps.bind (haside (keeps_asLogger _)) fun logger => ?_
  refine Keeps.bind (haside (Builder.keeps_create _ _ _ _)) fun b => ?_
  refine Keeps.bind (.ofExcept _) fun b => Keeps.bind (.ofExcept _) fun result => ?_
  -- Of the build only the world is kept, and the handle that it gives.
  cases result with
  | error fault => exact .pure _
  | ok b =>
      refine Keeps.bind (Keeps.zoom (fun w t ht => ?_) Builder.keeps_build) fun handle => .pure _
      exact ht.world.adds fun _ => Event.isAside_of_isPreparation

end CommandLine

end ServerLaunch
