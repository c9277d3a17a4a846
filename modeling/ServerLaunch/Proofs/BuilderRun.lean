import Mathlib.Data.List.Nodup
import ServerLaunch.Proofs.Builder

/-!
# Builders with a Past

The builders that can come up, whatever was done to them and in whatever world.

A builder is made from a configuration and then called, over and over: settings are made and
refused, command lines are written, launches are built and fail halfway. Between two calls
the world may have become any other. `Reachable` collects the builders that come of this,
and what holds of a new builder and is kept by every call holds of them all.

A setting may be refused, and a build may stop anywhere, so the calls are described by the
builder they leave and not by what they give: a build adds what it finds and touches no
setting, and `addArgument_eq_ok` says where a flag may end up.

## Main definitions

* `BuilderCall`, `BuilderCall.perform`: The calls.
* `Builder.Reachable`: The builders that come of a new one by calls.

## Theorems

* `Table.nodup_put`: Putting in keeps the names of a table distinct.
* `Builder.addArgument_eq_ok`: Where a flag ends up.
* `Builder.usePort_eq`, `Builder.useTimeout_eq`, `Builder.useArgument_eq`: Actions that check
  before they change anything.
* `BuilderCall.perform_table`, `BuilderCall.perform_arguments`: A call puts at most one flag into
  the table.
* `Builder.Reachable.nodup_arguments`: No flag is in the table twice.
-/

namespace ServerLaunch

open Act World

namespace Table

variable {α : Type}

/-- A table stays as it is, or a value is put in. -/
def Next (table table' : Table α) : Prop :=
  table' = table ∨ ∃ name a, table' = table.put name a

/-- Putting in a name adds it at the end, unless it is there. -/
theorem names_put (table : Table α) (name : String) (a : α) :
    (table.put name a).map Prod.fst
      = if name ∈ table.map Prod.fst then table.map Prod.fst else table.map Prod.fst ++ [name] := by
  induction table with
  | nil => rfl
  | cons e rest ih =>
      rcases e with ⟨key, b⟩
      by_cases hkey : key = name
      · simp only [put, hkey, if_true, List.map_cons, List.mem_cons, true_or]
      · have hne : ¬ name = key := fun h => hkey h.symm
        simp only [put, hkey, if_false, List.map_cons, ih, List.mem_cons, hne, false_or]
        split
        · rfl
        · rfl

/-- Putting in keeps names distinct. -/
theorem nodup_put {table : Table α} (h : (table.map Prod.fst).Nodup) (name : String) (a : α) :
    ((table.put name a).map Prod.fst).Nodup := by
  rw [names_put]
  split
  · exact h
  · next hname =>
      rw [← List.concat_eq_append]
      exact List.Nodup.concat hname h

theorem Next.nodup {table table' : Table α} (hnext : table.Next table')
    (h : (table.map Prod.fst).Nodup) : (table'.map Prod.fst).Nodup := by
  rcases hnext with rfl | ⟨name, a, rfl⟩
  · exact h
  · exact nodup_put h name a

end Table

namespace Builder

section Settings

/-! ## Settings -/

theorem setPort_eq_ok {b b' : Builder} {port : Int} (h : b.setPort port = .ok b') :
    0 ≤ port ∧ b' = { b with port } := by
  unfold setPort at h
  split at h
  · exact absurd h (by simp only [reduceCtorEq, not_false_eq_true])
  · next hport => exact ⟨Int.not_lt.mp hport, (Except.ok.inj h).symm⟩

theorem setTimeout_eq_ok {b b' : Builder} {timeout : Number} (h : b.setTimeout timeout = .ok b') :
    timeout.isNotPositive = false ∧ b' = { b with timeout := .number timeout } := by
  unfold setTimeout at h
  split at h
  · exact absurd h (by simp only [reduceCtorEq, not_false_eq_true])
  · next htimeout => exact ⟨Bool.eq_false_iff.mpr htimeout, (Except.ok.inj h).symm⟩

/-- A timeout that is given as any value changes nothing but the timeout. -/
theorem setTimeoutValue_eq_ok {b b' : Builder} {v : Value} (h : b.setTimeoutValue v = .ok b') :
    b' = { b with timeout := b'.timeout } := by
  cases v with
  | number n =>
      have hset : b.setTimeout n = .ok b' := mapError_eq_ok.mp h
      rw [(setTimeout_eq_ok hset).2]
  | bool value =>
      cases value with
      | false => simp only [setTimeoutValue, reduceCtorEq] at h
      | true =>
          simp only [setTimeoutValue, Except.ok.injEq] at h
          rw [← h]
  | _ => simp only [setTimeoutValue, reduceCtorEq] at h

theorem setPortText_eq_ok {b b' : Builder} {name value : String}
    (h : b.setPortText name value = .ok b') :
    ∃ port, Numeral.readInteger value = .ok port ∧ 0 ≤ port ∧ b' = { b with port } := by
  unfold setPortText at h
  split at h
  · next port hread => exact ⟨port, hread, setPort_eq_ok h⟩
  · exact absurd h (by simp only [reduceCtorEq, not_false_eq_true])

/-- Where a flag ends up: without a value in the table, whatever flag it is; with one in the
    field of its own, if it has one, and else in the table. -/
theorem addArgument_eq_ok {b b' : Builder} {flag : FlagName} {value : Option String}
    (h : b.addArgument flag value = .ok b') :
    (value = none ∧ b' = b.putArgument flag.argument "") ∨
    ∃ text, value = some text ∧
      ((isPortFlag flag.argument ∧ ∃ port, Numeral.readInteger text = .ok port ∧ 0 ≤ port ∧
        b' = { b with port }) ∨
      (isAddressFlag flag.argument ∧ b' = b.setAddress (some text)) ∨
      (isLogFlag flag.argument ∧ b' = b.setLogFile (some (Path.ofString text))) ∨
      (flag.argument = basePathFlag ∧ ∃ path, sanitizeBasePath (some text) = .ok path ∧
        b' = b.putArgument flag.argument path) ∨
      (isPortFlag flag.argument = false ∧ isAddressFlag flag.argument = false ∧
        isLogFlag flag.argument = false ∧ flag.argument ≠ basePathFlag ∧
        b' = b.putArgument flag.argument text)) := by
  cases value with
  | none => exact Or.inl ⟨rfl, (Except.ok.inj h).symm⟩
  | some text =>
      refine Or.inr ⟨text, rfl, ?_⟩
      simp only [addArgument] at h
      -- The flags with a field of their own are tried in turn, so each case knows that the flag
      -- is none of those before it.
      split at h
      · next hport =>
          exact Or.inl ⟨hport, setPortText_eq_ok h⟩
      · next hport =>
          split at h
          · next haddress => exact Or.inr (Or.inl ⟨haddress, (Except.ok.inj h).symm⟩)
          · next haddress =>
              split at h
              · next hlog => exact Or.inr (Or.inr (Or.inl ⟨hlog, (Except.ok.inj h).symm⟩))
              · next hlog =>
                  split at h
                  · next hbase =>
                      rcases hpath : sanitizeBasePath (some text) with e | path
                      · simp only [hpath, Except.map, reduceCtorEq] at h
                      · simp only [hpath, Except.map, Except.ok.injEq] at h
                        exact Or.inr (Or.inr (Or.inr (Or.inl
                          ⟨beq_iff_eq.mp hbase, path, rfl, h.symm⟩)))
                  · next hbase =>
                      refine Or.inr (Or.inr (Or.inr (Or.inr ⟨?_, ?_, ?_, ?_,
                        (Except.ok.inj h).symm⟩)))
                      · exact Bool.eq_false_iff.mpr hport
                      · exact Bool.eq_false_iff.mpr haddress
                      · exact Bool.eq_false_iff.mpr hlog
                      · exact fun heq => hbase (beq_iff_eq.mpr heq)

/-- A flag is put into the table, or the table stays as it is. -/
theorem addArgument_arguments {b b' : Builder} {flag : FlagName} {value : Option String}
    (h : b.addArgument flag value = .ok b') :
    b.arguments.Next b'.arguments := by
  rcases addArgument_eq_ok h with ⟨_, rfl⟩ | ⟨text, _, hcase⟩
  · exact Or.inr ⟨flag.argument, "", rfl⟩
  · rcases hcase with
      ⟨_, _, _, _, rfl⟩ | ⟨_, rfl⟩ | ⟨_, rfl⟩ | ⟨_, path, _, rfl⟩ | ⟨_, _, _, _, rfl⟩
    · exact Or.inl rfl
    · exact Or.inl rfl
    · exact Or.inl rfl
    · exact Or.inr ⟨flag.argument, path, rfl⟩
    · exact Or.inr ⟨flag.argument, text, rfl⟩

end Settings

/-- Changes a builder, unless the change is refused. -/
def adjust (f : Builder → Except Failure Builder) : BuilderAct Unit := do
  let b ← Act.ofExcept (f (← self))
  change fun _ => b

theorem adjust_apply (f : Builder → Except Failure Builder) (b : Builder) (w : World) :
    adjust f (b, w) = match f b with
      | .ok b' => (.ok (), (b', w))
      | .error e => (.error e, (b, w)) := by
  unfold adjust
  rw [bind_ok (self_apply (b, w))]
  cases hf : f b with
  | ok b' => rfl
  | error e => rfl

end Builder

/-- What can be called on a builder, with the values that are passed. -/
inductive BuilderCall where
  | port (port : Int)
  | timeout (v : Value)
  | argument (flag : FlagName) (value : Option String)
  | address (address : Option String)
  | logFile (path : Option Path)
  | executable (path : Path)
  | mainScript (path : Path)
  | environment (environment : Table Value)
  | capabilities (v : Value) (quote : Option Bool)
  | buildArguments
  | build

/-- Makes a call; what it gives is dropped. -/
def BuilderCall.perform : BuilderCall → BuilderAct Unit
  | .port p => Builder.usePort p
  | .timeout v => Builder.useTimeout v
  | .argument flag value => Builder.useArgument flag value
  | .address a => Builder.change fun b => b.setAddress a
  | .logFile path => Builder.change fun b => b.setLogFile path
  | .executable path => Builder.change fun b => b.setExecutable path
  | .mainScript path => Builder.change fun b => b.setMainScript path
  | .environment values => Builder.change fun b => b.setEnvironment values
  | .capabilities v quote => Builder.takeCapabilities v quote
  | .buildArguments => do
    let _ ← Builder.buildArguments
  | .build => do
    let _ ← Builder.build

/-- The builders that come of a new one by calls, each in a world of its own. -/
inductive Builder.Reachable : Builder → Prop
  | create {config : Option ServerConfig} {locator : Option Locator} {hasStream : Bool}
      {logger : Option Logger} {w w' : World} {b : Builder}
      (h : Builder.create config locator hasStream logger w = (.ok b, w')) : Reachable b
  | call {b : Builder} (hb : Reachable b) (c : BuilderCall) (w : World) :
      Reachable (c.perform (b, w)).2.1

namespace Builder

/-! Whatever is done step by step changes the builder at the very end, if at all. -/

theorem usePort_eq (port : Int) :
    usePort port = adjust fun b => (b.setPort port).mapError .launch := by
  funext s
  rw [adjust_apply]
  unfold usePort setPort
  by_cases hport : port < 0
  · rw [if_pos hport, if_pos hport]
    exact bind_error rfl
  · rw [if_neg hport, if_neg hport]
    exact bind_ok rfl

theorem useTimeout_eq (timeout : Value) :
    useTimeout timeout = adjust fun b => b.setTimeoutValue timeout := by
  funext s
  rw [adjust_apply]
  unfold useTimeout
  cases timeout with
  | number n =>
      have hasked : Act.ofExcept (isNoDuration (.number n)) s = (.ok n.isNotPositive, s) := rfl
      have htext : (Value.number n).displayText = n.text := String.ofList_toList
      refine (bind_ok hasked).trans ?_
      unfold setTimeoutValue setTimeout
      dsimp only
      cases n.isNotPositive with
      | false => rfl
      | true =>
          rw [htext]
          rfl
  | bool b => cases b <;> rfl
  | _ => rfl

theorem useArgument_eq (flag : FlagName) (value : Option String) :
    useArgument flag value = adjust fun b => (b.addArgument flag value).mapError .launch := by
  funext s
  rw [adjust_apply]
  unfold useArgument addArgument
  cases value with
  | none => rfl
  | some text =>
      dsimp only
      split
      · unfold setPortText
        cases Numeral.readInteger text with
        | ok port =>
            dsimp only
            rw [usePort_eq, adjust_apply]
        | error e => rfl
      · split
        · rfl
        · split
          · rfl
          · split
            · cases sanitizeBasePath (some text) <;> rfl
            · rfl

/-- A setting that is made changes the builder, and one that is refused does not. -/
theorem adjust_induction {P : Builder → Prop} {f : Builder → Except Failure Builder} {b : Builder}
    (hb : P b) (hf : ∀ b', f b = .ok b' → P b') (w : World) : P (adjust f (b, w)).2.1 := by
  rw [adjust_apply]
  cases hfb : f b with
  | ok b' => exact hf b' hfb
  | error e => exact hb

/-- Capabilities that are refused may still have chosen their form, and nothing else. -/
theorem takeCapabilities_arguments (v : Value) (quote : Option Bool) (s : Builder × World) :
    (takeCapabilities v quote s).2.1.arguments = s.1.arguments := by
  unfold takeCapabilities
  rw [bind_ok (change_apply _ s)]
  cases hpairs : v.toPairs.mapError Failure.entries with
  | error e => rw [bind_error (ofExcept_apply _ _)]; rfl
  | ok pairs => rw [bind_ok (ofExcept_apply _ _)]; rfl

end Builder

/-- A call leaves the table as it is, unless it is a flag that is taken. -/
theorem BuilderCall.perform_table (c : BuilderCall) (b : Builder) (w : World) :
    (c.perform (b, w)).2.1.arguments = b.arguments ∨
      ∃ flag value, b.addArgument flag value = .ok (c.perform (b, w)).2.1 := by
  -- Only a flag reaches the table; every other call leaves it as it is, also where it is refused
  -- or stops halfway.
  cases c with
  | port p =>
      rw [BuilderCall.perform, Builder.usePort_eq]
      refine Or.inl (Builder.adjust_induction (P := fun b' => b'.arguments = b.arguments) rfl
        (fun b' hb' => ?_) w)
      rw [(Builder.setPort_eq_ok (mapError_eq_ok.mp hb')).2]
  | argument flag value =>
      rw [BuilderCall.perform, Builder.useArgument_eq]
      refine Builder.adjust_induction (P := fun b' => b'.arguments = b.arguments ∨
        ∃ flag value, b.addArgument flag value = .ok b') (Or.inl rfl) (fun b' hb' => ?_) w
      exact Or.inr ⟨flag, value, mapError_eq_ok.mp hb'⟩
  | timeout v =>
      rw [BuilderCall.perform, Builder.useTimeout_eq]
      refine Or.inl (Builder.adjust_induction (P := fun b' => b'.arguments = b.arguments) rfl
        (fun b' hb' => ?_) w)
      rw [Builder.setTimeoutValue_eq_ok hb']
  | capabilities v quote => exact Or.inl (Builder.takeCapabilities_arguments v quote (b, w))
  | buildArguments =>
      exact Or.inl (Keeps.bind Builder.keeps_buildArguments (fun _ => .pure ()) (b, w)).arguments
  | build => exact Or.inl (Keeps.bind Builder.keeps_build (fun _ => .pure ()) (b, w)).arguments
  | _ => exact Or.inl rfl

/-- A call puts at most one flag into the table. -/
theorem BuilderCall.perform_arguments (c : BuilderCall) (b : Builder) (w : World) :
    b.arguments.Next (c.perform (b, w)).2.1.arguments := by
  rcases c.perform_table b w with hsame | ⟨flag, value, hadd⟩
  · exact Or.inl hsame
  · exact Builder.addArgument_arguments hadd

namespace Builder

/-- The settings of a configuration are made one after the other, and the base path last. -/
theorem ofConfig_eq_ok {config : ServerConfig} {environment : Table String}
    {locator : Locator} {hasStream : Bool} {log : LogSource} {b : Builder}
    (h : ofConfig config environment locator hasStream log = .ok b) :
    ∃ b₀ : Builder, b₀ = { blank locator hasStream log with
        address := some config.address, port := config.port
        timeout := .float config.startupTimeout
        environment := environment.map fun e => (e.1, .text e.2) } ∧
      (b = b₀ ∨ b₀.addArgument (.general .basePath) config.basePath = .ok b) := by
  unfold ofConfig at h
  rcases except_bind_eq_ok.mp h with ⟨b₁, hport, h⟩
  rcases except_bind_eq_ok.mp h with ⟨b₂, htimeout, h⟩
  -- The base path comes last, and only if there is one with a text.
  rw [(setTimeout_eq_ok htimeout).2, (setPort_eq_ok hport).2] at h
  refine ⟨_, rfl, ?_⟩
  cases hpath : config.basePath with
  | none =>
      rw [hpath] at h
      exact Or.inl (Except.ok.inj h).symm
  | some path =>
      simp only [hpath] at h
      split at h
      · exact Or.inl (Except.ok.inj h).symm
      · exact Or.inr h

/-- Whatever the configuration, a builder is made from it, a locator and the environment of
    the host. -/
theorem refusable_ofConfig_eq_ok {config : ServerConfig} {locator : Locator} {hasStream : Bool}
    {log : LogSource} {w w' : World} {b : Builder}
    (h : (do
      let environment := (← get).host.environment
      refusable (ofConfig config environment locator hasStream log) : WorldAct Builder) w
        = (.ok b, w')) :
    ofConfig config w.host.environment locator hasStream log = .ok b ∧ w' = w := by
  rw [bind_ok (get_apply w)] at h
  simp only [refusable, ofExcept_apply, Prod.mk.injEq] at h
  exact ⟨mapError_eq_ok.mp h.1, h.2.symm⟩

theorem chosenLog_of_logger {logger : Option Logger} {w w' : World} {log : LogSource}
    (h : (match logger with
      | some l => (return .ofLogger l : WorldAct LogSource)
      | none => LogSource.new) w = (.ok log, w')) : ∀ l, logger = some l → log = .ofLogger l := by
  rintro l rfl
  exact (Except.ok.inj (Prod.mk.inj h).1).symm

/-- A new builder is made from a configuration, its own or the registered one. It has the
    logger that it is given. -/
theorem create_eq_ok {config : Option ServerConfig} {locator : Option Locator}
    {hasStream : Bool} {logger : Option Logger} {w w' : World} {b : Builder}
    (h : create config locator hasStream logger w = (.ok b, w')) :
    ∃ config' environment locator' log,
      ofConfig config' environment locator' hasStream log = .ok b ∧
      ∀ l, logger = some l → log = .ofLogger l := by
  unfold create at h
  -- The configuration and the locator may have to be looked up, the rest is the same.
  cases config
  all_goals
    rcases bind_eq_ok.mp h with ⟨config', w₁, _, h⟩
    rcases bind_eq_ok.mp h with ⟨log, w₂, hlog, h⟩
    cases locator
    all_goals
      rcases bind_eq_ok.mp h with ⟨locator', w₃, _, h⟩
      exact ⟨_, _, _, _, (refusable_ofConfig_eq_ok h).1, chosenLog_of_logger hlog⟩

/-- A new builder has at most the flag of the base path. -/
theorem ofConfig_arguments {config : ServerConfig} {environment : Table String}
    {locator : Locator} {hasStream : Bool} {log : LogSource} {b : Builder}
    (h : ofConfig config environment locator hasStream log = .ok b) :
    Table.Next [] b.arguments := by
  rcases ofConfig_eq_ok h with ⟨b₀, hb₀, hsame | hflag⟩
  · rw [hsame, hb₀]
    exact Or.inl rfl
  · have hnext := addArgument_arguments hflag
    rw [hb₀] at hnext
    exact hnext

/-- No flag is in the table of a builder twice, whatever was done to it. -/
theorem Reachable.nodup_arguments {b : Builder} (h : b.Reachable) :
    (b.arguments.map Prod.fst).Nodup := by
  induction h with
  | create hcreate =>
      rcases create_eq_ok hcreate with ⟨config, environment, locator, log, hconfig, _⟩
      exact (ofConfig_arguments hconfig).nodup List.nodup_nil
  | call hb c w ih => exact (c.perform_arguments _ w).nodup ih

end Builder

end ServerLaunch
