import Mathlib
import ServerLaunch.Proofs.Completions

/-!
# Runs of the Container

What the container and the bootstrap of the program do over any sequence of calls.

A run is read off its log: the calls with the world that each of them found. Whether the
launcher is ready is a question about the bootstraps in it, and what is registered under an
interface is a question about the latest call that registered something there.

That the two pieces of state, the flag and the container, answer both is one invariant. A call
does one of three things to an interface: it takes away what is registered there, it registers
something, or it leaves the registration and follows its recipe at most. The last is what all of
the other calls do, also a bootstrap that fails while it loads settings, for its messages may want
the registered logger.

A recipe that makes nothing is followed again, like one that fails. So what a resolve gives is
fixed only once it is an object.

Recipes may ask for services themselves. Asking for one service may therefore make others, and
what others resolve to may depend on it, but only where the recipes lead. A recipe that leads back
to its own service may be followed to an end while it is already followed; what counts is then what
is made last, and if nothing comes of that because it fails, what was made before is kept.

## Main definitions

* `Call`, `Call.perform`: The calls.
* `Run`: A run, with its log.
* `IsReady`: A bootstrap succeeded since the last reset.
* `Registration`, `Registers`, `Latest`: What a call registers, and what was registered last.
* `Answer`: What may be the answer for a registration.
* `Call.Touches`: What a call may change.
* `OpensAlike`: Two answers that differ in the number of a logger at most.
* `Lawful`: What holds of a run.

## Theorems

* `perform_provider?`: What a call does to an interface.
* `Run.upkeep`: The invariant.
* `Run.lawful`: What holds of every run.
* `not_made_once`: Recipes that make more than one thing, or for more than one call.
-/

namespace ServerLaunch

open Act World

/-- A new world in which no directory can be made. -/
def World.denying : World :=
  World.start { (default : Host) with refusal := some "denied" } default .seconds

namespace Container

/-- A call on the container of the program, or a change of the host in between. -/
inductive Call where
  | bootstrap (given : Option Settings)
  | reset
  | register (i : Interface) (object : Option Provided) (recipe : Option Recipe)
  | resolve (i : Interface)
  | tryResolve (i : Interface)
  | outside (change : Host → Host)

namespace Call

/-- The settings of a bootstrap: those that are given, or else those that are loaded. -/
def settings : Option Settings → WorldAct Settings
  | some given => return given
  | none => loadSettings none none

/-- Performs a call. Only asking for a service gives anything. -/
def perform : Call → WorldAct (Option Provided)
  | .bootstrap given => do
    let _ ← ServerLaunch.bootstrap (settings given)
    return none
  | .reset => do
    resetContainer
    return none
  | .register i object recipe => do
    ServerLaunch.register i object recipe
    return none
  | .resolve i => ServerLaunch.resolve i
  | .tryResolve i => ServerLaunch.tryResolve i
  | .outside change => do
    modify fun w => { w with host := change w.host }
    return none

/-- A call that asks for the service of an interface. -/
def Asks (c : Call) (i : Interface) : Prop :=
  c = .resolve i ∨ c = .tryResolve i

/-- A call that is about one interface. -/
inductive IsFor : Call → Interface → Prop where
  | register (i : Interface) (object : Option Provided) (recipe : Option Recipe) :
      IsFor (.register i object recipe) i
  | resolve (i : Interface) : IsFor (.resolve i) i
  | tryResolve (i : Interface) : IsFor (.tryResolve i) i

end Call

/-- What a call about one interface may change: what it registers, or what it needs. -/
inductive Call.Touches (w : World) : Call → Interface → Prop where
  | register (i : Interface) (object : Option Provided) (recipe : Option Recipe) :
      Touches w (.register i object recipe) i
  | ask {c : Call} {i j : Interface} (h : c.Asks i) (hneeds : w.Needs i j) : Touches w c j

/-- The calls of a run, latest first, with the world that each of them found. -/
abbrev Log := List (Call × World)

/-- A run from a world without a container, up to a world. -/
inductive Run : Log → World → Prop where
  | start {w : World} (hcontainer : w.container = none) (hinit : w.isInitialized = false) :
      Run [] w
  | call {log : Log} {w : World} (h : Run log w) (c : Call) :
      Run ((c, w) :: log) (c.perform w).2

/-- A bootstrap succeeded since the last reset. -/
def IsReady (log : Log) : Prop :=
  ∃ later given w earlier, log = later ++ (.bootstrap given, w) :: earlier ∧
    ((Call.bootstrap given).perform w).1 = .ok none ∧ ∀ e ∈ later, e.1 ≠ .reset

/-- What is registered: an object, the settings of a bootstrap, or a recipe. -/
inductive Registration where
  | object (object : Provided)
  | settings (s : Settings)
  | recipe (r : Recipe)

/-- What a call registers under an interface. -/
inductive Registers : Call × World → Interface → Registration → Prop where
  | object (i : Interface) (object : Provided) (recipe : Option Recipe) (w : World) :
      Registers (.register i (some object) recipe, w) i (.object object)
  | recipe (i : Interface) (r : Recipe) (w : World) :
      Registers (.register i none (some r), w) i (.recipe r)
  | settings {given : Option Settings} {s : Settings} {w : World} (h : w.isInitialized = false)
      (hload : (Call.settings given w.opened).1 = .ok s) :
      Registers (.bootstrap given, w) .settings (.settings s)
  | logger {given : Option Settings} {s : Settings} {w : World} (h : w.isInitialized = false)
      (hload : (Call.settings given w.opened).1 = .ok s) :
      Registers (.bootstrap given, w) .logger (.recipe (.launcherLog s.logging))

/-- A call after which an earlier registration does not count. -/
def Replaces (e : Call × World) (i : Interface) : Prop :=
  e.1 = .reset ∨ ∃ reg, Registers e i reg

/-- The latest registration of an interface since the last reset. -/
def Latest (log : Log) (i : Interface) (reg : Registration) : Prop :=
  ∃ later e earlier, log = later ++ e :: earlier ∧ Registers e i reg ∧
    ∀ e' ∈ later, ¬ Replaces e' i

/-- What may be the answer for a registration: the object; what a recipe made before; or what
    comes of following now what is left of it. -/
inductive Answer (i : Interface) (w : World) :
    Registration → Except Failure (Option Provided) → Prop where
  | object (object : Provided) : Answer i w (.object object) (.ok (some object))
  | settings (serial : Nat) (s : Settings) :
      Answer i w (.settings s) (.ok (some (.settings serial s)))
  | made {r : Recipe} {object : Provided} (h : Recipe.Made i r object) :
      Answer i w (.recipe r) (.ok (some object))
  | follows {r r' : Recipe} (h : Recipe.Left r r') :
      Answer i w (.recipe r) (followRecipe (asking w.host.askLimit) i r' w).1

/-- Two answers for which a logger is opened: they fail alike, or it is the same logger but for
    its number. -/
inductive OpensAlike :
    Except Failure (Option Provided) → Except Failure (Option Provided) → Prop where
  | failed (e : Failure) : OpensAlike (.error e) (.error e)
  | opened (serial serial' : Nat) (name : String) (file : Option Path) :
      OpensAlike (.ok (some (.logger (.launcher serial name file))))
        (.ok (some (.logger (.launcher serial' name file))))

/-- What is found where a registration was made last. -/
inductive Serves (i : Interface) : Registration → Provider → Prop where
  | object (object : Provided) : Serves i (.object object) (.ready object)
  | settings (serial : Nat) (s : Settings) :
      Serves i (.settings s) (.ready (.settings serial s))
  | left {r r' : Recipe} (h : Recipe.Left r r') : Serves i (.recipe r) (.pending r')
  | made {r r' : Recipe} {object : Provided} (h : Recipe.Made i r object) :
      Serves i (.recipe r) (.made r' object)

/-- The state has what the log says. -/
structure Upkeep (log : Log) (w : World) : Prop where
  ready : w.isInitialized = true ↔ IsReady log
  container : w.isInitialized = true → w.container.isSome
  served : ∀ i, (w.provider? i = none ∧ ∀ reg, ¬ Latest log i reg) ∨
    ∃ reg p, Latest log i reg ∧ w.provider? i = some p ∧ Serves i reg p

/-- What holds of a run, by its log, in the world that it has come to. -/
structure Lawful (log : Log) (w : World) : Prop where
  /-- The launcher is ready if a bootstrap succeeded since the last reset. -/
  ready : w.isInitialized = true ↔ IsReady log
  /-- When it is ready a bootstrap changes nothing. -/
  again : w.isInitialized = true → ∀ given,
    (Call.bootstrap given).perform w = (.ok none, w)
  /-- Otherwise a bootstrap succeeds as soon as there are settings for it, -/
  boots : w.isInitialized = false → ∀ given s,
    (Call.settings given w.opened).1 = .ok s →
      ∃ w', (Call.bootstrap given).perform w = (.ok none, w') ∧ w'.isInitialized = true
  /-- and one that cannot load any registers nothing. -/
  unloaded : w.isInitialized = false → ∀ given e,
    (Call.settings given w.opened).1 = .error e →
      ∃ w', (Call.bootstrap given).perform w = (.error e, w') ∧
        w'.isInitialized = false ∧ (∀ i, w'.provider? i = none ↔ w.provider? i = none) ∧
        ∀ i reg, Latest ((.bootstrap given, w) :: log) i reg ↔ Latest log i reg
  /-- A registration of nothing is refused. -/
  refused : ∀ i, (Call.register i none none).perform w = (.error .noImplementation, w)
  /-- Resolving fails for want of a registration if there is none since the last reset, -/
  unregistered : ∀ i, ((Call.resolve i).perform w).1 = .error (.unregistered i) ↔
    ∀ reg, ¬ Latest log i reg
  /-- and trying gives nothing then. -/
  nothing : ∀ i, (∀ reg, ¬ Latest log i reg) → ((Call.tryResolve i).perform w).1 = .ok none
  /-- Where there is one, both answer from the latest. -/
  answers : ∀ i reg, Latest log i reg → ∀ c : Call, c.Asks i →
    Answer i w reg (c.perform w).1
  /-- An object that is given once is given, and nothing is made, until the next registration; -/
  same : ∀ i c object, Call.Asks c i → (c.perform w).1 = .ok (some object) →
    ∀ later w', Run (later ++ (c, w) :: log) w' → (∀ e ∈ later, ¬ Replaces e i) →
      ∀ c', Call.Asks c' i → c'.perform w' = (.ok (some object), w')
  /-- and what a recipe made is kept as long. -/
  kept : ∀ i r object, w.provider? i = some (.made r object) →
    ∀ later w', Run (later ++ log) w' → (∀ e ∈ later, ¬ Replaces e i) →
      w'.provider? i = some (.made r object)
  /-- Between two registrations something is made once at most, unless the recipe leads back to its
      own service. -/
  once : ∀ i c later w', Run (later ++ (c, w) :: log) w' → (∀ e ∈ later, ¬ Replaces e i) →
    (∀ e ∈ later, ¬ e.2.NeedsFurther i i) →
      w'.completions i ≤ (c.perform w).2.completions i + 1
  /-- A recipe that fails or makes nothing is followed again, unless it led back to its own service
      and was followed to an end on the way. -/
  retried : ∀ i c r, Call.Asks c i → Latest log i (.recipe r) →
    (∀ object, (c.perform w).1 ≠ .ok (some object)) →
      (∃ r', Recipe.Left r r' ∧ ∀ c', Call.Asks c' i →
        (c'.perform (c.perform w).2).1
          = (followRecipe (asking (c.perform w).2.host.askLimit) i r' (c.perform w).2).1) ∨
      w.NeedsFurther i i ∧ ∃ object, Recipe.Made i r object ∧ ∀ c', Call.Asks c' i →
        c'.perform (c.perform w).2 = (.ok (some object), (c.perform w).2)
  /-- A call for one interface leaves all others that it does not touch, with what was made of
      them, -/
  apart : ∀ c i j, Call.IsFor c i → ¬ Call.Touches w c j →
    (c.perform w).2.provider? j = w.provider? j
  /-- and the answers for them, if nothing that they need is touched and no logger is to be opened
      with another number: -/
  unmoved : ∀ c i j, Call.IsFor c i → (∀ k, w.Needs j k → ¬ Call.Touches w c k) →
    ((c.perform w).2.serials = w.serials ∨
      ∀ k, w.Needs j k → ∀ config, w.provider? k ≠ some (.pending (.launcherLog config))) →
      ∀ c', Call.Asks c' j → (c'.perform (c.perform w).2).1 = (c'.perform w).1
  /-- a logger that is still to be opened gets another number and is otherwise the same. -/
  opened : ∀ c i j, Call.IsFor c i → ¬ Call.Touches w c j →
    ∀ config, w.provider? j = some (.pending (.launcherLog config)) →
      ∀ c', Call.Asks c' j → OpensAlike (c'.perform (c.perform w).2).1 (c'.perform w).1

/-! ## Logs -/

section Logs

variable {log : Log} {e : Call × World} {i : Interface}
  {reg reg' : Registration}

theorem Registers.not_initialized {given : Option Settings} {w : World}
    (h : Registers (.bootstrap given, w) i reg) : w.isInitialized = false := by
  cases h <;> assumption

theorem Registers.loaded {given : Option Settings} {w : World}
    (h : Registers (.bootstrap given, w) i reg) :
    ∃ s, (Call.settings given w.opened).1 = .ok s := by
  cases h <;> exact ⟨_, ‹_›⟩

theorem Registers.interface {given : Option Settings} {w : World}
    (h : Registers (.bootstrap given, w) i reg) : i = .settings ∨ i = .logger := by
  cases h
  · exact .inl rfl
  · exact .inr rfl

theorem Registers.interface_register {j : Interface} {object : Option Provided}
    {recipe : Option Recipe} {w : World} (h : Registers (.register j object recipe, w) i reg) :
    j = i := by
  cases h <;> rfl

theorem Registers.unique (h : Registers e i reg) (h' : Registers e i reg') : reg = reg' := by
  cases h with
  | object => cases h'; rfl
  | recipe => cases h'; rfl
  | settings _ hload =>
      cases h' with
      | settings _ hload' => rw [Except.ok.inj (hload.symm.trans hload')]
  | logger _ hload =>
      cases h' with
      | logger _ hload' => rw [Except.ok.inj (hload.symm.trans hload')]

theorem latest_cons_iff :
    Latest (e :: log) i reg ↔ Registers e i reg ∨ ¬ Replaces e i ∧ Latest log i reg := by
  constructor
  · rintro ⟨later, e', earlier, hlog, hreg, hlater⟩
    cases later with
    | nil =>
        obtain ⟨rfl, rfl⟩ := List.cons.inj hlog
        exact .inl hreg
    | cons e'' later =>
        obtain ⟨rfl, rfl⟩ := List.cons.inj hlog
        exact .inr ⟨hlater _ List.mem_cons_self, later, e', earlier, rfl, hreg,
          fun d hd => hlater d (List.mem_cons_of_mem _ hd)⟩
  · rintro (hreg | ⟨hrep, later, e', earlier, rfl, hreg, hlater⟩)
    · exact ⟨[], e, log, rfl, hreg, fun _ hd => absurd hd List.not_mem_nil⟩
    · exact ⟨e :: later, e', earlier, rfl, hreg, List.forall_mem_cons.mpr ⟨hrep, hlater⟩⟩

theorem latest_of_not_replaces (h : ¬ Replaces e i) :
    Latest (e :: log) i reg ↔ Latest log i reg := by
  rw [latest_cons_iff]
  exact ⟨fun hlatest => hlatest.elim (fun hreg => absurd (.inr ⟨reg, hreg⟩) h) And.right,
    fun hlatest => .inr ⟨h, hlatest⟩⟩

theorem not_latest_nil : ¬ Latest [] i reg := by
  rintro ⟨later, e, earlier, hlog, -⟩
  cases later <;> cases hlog

theorem Latest.unique (h : Latest log i reg) (h' : Latest log i reg') : reg = reg' := by
  induction log with
  | nil => exact absurd h not_latest_nil
  | cons e log ih =>
      rcases latest_cons_iff.mp h with hreg | ⟨hrep, h⟩
      · rcases latest_cons_iff.mp h' with hreg' | ⟨hrep', -⟩
        · exact hreg.unique hreg'
        · exact absurd (.inr ⟨_, hreg⟩) hrep'
      · rcases latest_cons_iff.mp h' with hreg' | ⟨-, h'⟩
        · exact absurd (.inr ⟨_, hreg'⟩) hrep
        · exact ih h h'

theorem isReady_cons_iff {c : Call} {w : World} :
    IsReady ((c, w) :: log) ↔
      (∃ given, c = .bootstrap given ∧ (c.perform w).1 = .ok none) ∨ c ≠ .reset ∧ IsReady log := by
  constructor
  · rintro ⟨later, given, w', earlier, hlog, hok, hlater⟩
    cases later with
    | nil =>
        obtain ⟨he, rfl⟩ := List.cons.inj hlog
        obtain ⟨rfl, rfl⟩ := Prod.mk.inj he
        exact .inl ⟨given, rfl, hok⟩
    | cons e'' later =>
        obtain ⟨rfl, rfl⟩ := List.cons.inj hlog
        exact .inr ⟨hlater _ List.mem_cons_self, later, given, w', earlier, rfl, hok,
          fun d hd => hlater d (List.mem_cons_of_mem _ hd)⟩
  · rintro (⟨given, rfl, hok⟩ | ⟨hne, later, given, w', earlier, rfl, hok, hlater⟩)
    · exact ⟨[], given, w, log, rfl, hok, fun _ hd => absurd hd List.not_mem_nil⟩
    · exact ⟨(c, w) :: later, given, w', earlier, rfl, hok,
        List.forall_mem_cons.mpr ⟨hne, hlater⟩⟩

end Logs

/-! ## What a call does -/

namespace Call

variable {w : World} {given : Option Settings}

theorem perform_bootstrap_of_ok {c : Container} {u : World}
    (h : ServerLaunch.bootstrap (settings given) w = (.ok c, u)) :
    (bootstrap given).perform w = (.ok none, u) :=
  bind_ok h

theorem perform_bootstrap_of_error {e : Failure} {u : World}
    (h : ServerLaunch.bootstrap (settings given) w = (.error e, u)) :
    (bootstrap given).perform w = (.error e, u) :=
  bind_error h

theorem tallies_settings (given : Option Settings) : (settings given).Keeps Tallies := by
  cases given with
  | some s => exact .pure s
  | none => exact tallies_loadSettings none none

/-- A bootstrap leaves everything, or cannot load settings, or registers those that it loads. -/
theorem perform_bootstrap_cases (given : Option Settings) (w : World) :
    (w.isInitialized = true ∧ ((bootstrap given).perform w) = (.ok none, w.opened)) ∨
    (w.isInitialized = false ∧ ∃ e w', settings given w.opened = (.error e, w') ∧
      (bootstrap given).perform w = (.error e, w')) ∨
    (w.isInitialized = false ∧ ∃ s w' u, settings given w.opened = (.ok s, w') ∧
      (bootstrap given).perform w = (.ok none, u) ∧ u.isInitialized = true ∧
      u.container.isSome ∧ u.past = w'.past ∧ ∀ j, u.provider? j =
        if j = .logger then some (.pending (.launcherLog s.logging))
        else if j = .settings then some (.ready (.settings w'.serials s)) else w'.provider? j) := by
  cases hinit : w.isInitialized with
  | true =>
      rcases bootstrap_of_initialized hinit with ⟨c, h⟩
      exact .inl ⟨rfl, perform_bootstrap_of_ok h⟩
  | false =>
      rcases hload : settings given w.opened with ⟨e | s, w'⟩
      · exact .inr (.inl ⟨rfl, e, w', rfl, perform_bootstrap_of_error
          (bootstrap_of_error hinit hload)⟩)
      · rcases bootstrap_of_ok hinit hload with ⟨c, u, h, hu⟩
        exact .inr (.inr ⟨rfl, s, w', u, rfl, perform_bootstrap_of_ok h, hu⟩)

theorem tallies_settings_opened {given : Option Settings} {w w' : World}
    {outcome : Except Failure Settings} (h : settings given w.opened = (outcome, w')) :
    Tallies w w' := by
  have hload := tallies_settings given w.opened
  rw [h] at hload
  exact (tallies_opened w).trans hload

/-- A bootstrap that cannot load its settings follows recipes at most. -/
theorem perform_bootstrap_unloaded {e : Failure} (hinit : w.isInitialized = false)
    (hload : (settings given w.opened).1 = .error e) :
    ∃ w', (bootstrap given).perform w = (.error e, w') ∧ Settles w w' := by
  have hload' : settings given w.opened = (.error e, (settings given w.opened).2) :=
    Prod.ext hload rfl
  exact ⟨_, perform_bootstrap_of_error (bootstrap_of_error hinit hload'),
    (tallies_settings_opened hload').settles⟩

/-- Registering puts an object or a recipe in place of what was there, or is refused. -/
theorem perform_register_cases (i : Interface) (object : Option Provided) (recipe : Option Recipe)
    (w : World) :
    (∃ reg p, Registers (.register i object recipe, w) i reg ∧ Serves i reg p ∧
      (register i object recipe).perform w = (.ok none, w.withProvider i p)) ∨
    (object = none ∧ recipe = none ∧
      (register i object recipe).perform w = (.error .noImplementation, w)) := by
  rcases object with _ | object
  · rcases recipe with _ | r
    · exact .inr ⟨rfl, rfl, rfl⟩
    · exact .inl ⟨.recipe r, .pending r, .recipe i r w, .left (.refl r),
        bind_ok (registerProvider_apply _ _ _)⟩
  · exact .inl ⟨.object object, .ready object, .object i object recipe w, .object object,
      bind_ok (registerProvider_apply _ _ _)⟩

/-- A service is asked for with or without insisting on it. -/
theorem perform_ask {c : Call} {i : Interface} (h : c.Asks i) (w : World) :
    ∃ insists, c.perform w = serve (asking w.host.askLimit) i insists w := by
  rcases h with rfl | rfl
  · exact ⟨true, ServerLaunch.resolve_eq i w⟩
  · exact ⟨false, ServerLaunch.tryResolve_eq i w⟩

theorem tallies_ask {c : Call} {i : Interface} (h : c.Asks i) (w : World) :
    Tallies w (c.perform w).2 := by
  rcases perform_ask h w with ⟨insists, hrun⟩
  rw [hrun]
  exact tallies_serve (tallies_asking _) i insists w

end Call

theorem Serves.goes {i : Interface} {reg : Registration} {p p' : Provider} (h : Serves i reg p)
    (hgoes : Provider.Goes i p p') : Serves i reg p' := by
  cases hgoes with
  | same => exact h
  | left hleft =>
      cases h with
      | left h => exact .left (h.trans hleft)
  | made hmade =>
      cases h with
      | left h => exact .made (hmade.of_left h)

theorem not_replaces_of {c : Call} {w : World} {i : Interface} (hne : c ≠ .reset)
    (h : ∀ reg, ¬ Registers (c, w) i reg) : ¬ Replaces (c, w) i := by
  rintro (hreset | ⟨reg, hreg⟩)
  · exact hne hreset
  · exact h reg hreg

theorem not_replaces_unloaded {given : Option Settings} {w : World} {i : Interface} {e : Failure}
    (hload : (Call.settings given w.opened).1 = .error e) :
    ¬ Replaces (.bootstrap given, w) i := by
  refine not_replaces_of (fun h => nomatch h) fun reg hreg => ?_
  rcases hreg.loaded with ⟨s, hs⟩
  rw [hload] at hs
  cases hs

open Call in
/-- What a call does to an interface: it takes away what is registered, registers something, or
    leaves the registration and follows its recipe at most. -/
theorem perform_provider? (c : Call) (w : World) (i : Interface) :
    (c = .reset ∧ (c.perform w).2.provider? i = none) ∨
    (∃ reg p, Registers (c, w) i reg ∧ (c.perform w).2.provider? i = some p ∧ Serves i reg p) ∨
    (¬ Replaces (c, w) i ∧
      Option.Rel (Provider.Goes i) (w.provider? i) ((c.perform w).2.provider? i)) := by
  cases c with
  | bootstrap given =>
      rcases perform_bootstrap_cases given w with ⟨hinit, h⟩ | ⟨-, e, w', hload, h⟩ |
        ⟨hinit, s, w', u, hload, h, -, -, -, hu⟩
      -- Neither a launcher that is ready nor a loading that fails registers anything.
      · refine .inr (.inr ⟨not_replaces_of (fun h => nomatch h) fun reg hreg => ?_, ?_⟩)
        · exact absurd hinit (by rw [hreg.not_initialized]; exact Bool.false_ne_true)
        · rw [h]
          exact (settles_opened w).providers i
      · refine .inr (.inr ⟨not_replaces_unloaded (congrArg Prod.fst hload), ?_⟩)
        rw [h]
        exact (tallies_settings_opened hload).settles.providers i
      · have hok : (settings given w.opened).1 = .ok s := congrArg Prod.fst hload
        have hi := hu i
        rw [h]
        by_cases hlogger : i = .logger
        · subst hlogger
          exact .inr (.inl ⟨_, _, .logger hinit hok, hi, .left (.refl _)⟩)
        by_cases hsettings : i = .settings
        · subst hsettings
          exact .inr (.inl ⟨_, _, .settings hinit hok, hi, .settings _ s⟩)
        rw [if_neg hlogger, if_neg hsettings] at hi
        refine .inr (.inr ⟨not_replaces_of (fun h => nomatch h) fun reg hreg => ?_, ?_⟩)
        · exact hreg.interface.elim hsettings hlogger
        · rw [hi]
          exact (tallies_settings_opened hload).settles.providers i
  | reset => exact .inl ⟨rfl, rfl⟩
  | register j object recipe =>
      rcases perform_register_cases j object recipe w with ⟨reg, p, hreg, hserves, h⟩ |
        ⟨rfl, rfl, h⟩
      · by_cases hj : j = i
        · subst hj
          refine .inr (.inl ⟨reg, p, hreg, ?_, hserves⟩)
          rw [h, provider?_withProvider, if_pos rfl]
        · refine .inr (.inr ⟨not_replaces_of (fun h => nomatch h) fun _ hreg => ?_, ?_⟩)
          · exact hj hreg.interface_register
          · rw [h, provider?_withProvider, if_neg hj]
            exact (Std.Refl.refl (r := Settles) w).providers i
      · refine .inr (.inr ⟨not_replaces_of (fun h => nomatch h) (fun _ h => nomatch h), ?_⟩)
        exact (Std.Refl.refl (r := Settles) w).providers i
  | resolve j =>
      refine .inr (.inr ⟨not_replaces_of (fun h => nomatch h) (fun _ h => nomatch h), ?_⟩)
      exact (tallies_ask (.inl rfl) w).settles.providers i
  | tryResolve j =>
      refine .inr (.inr ⟨not_replaces_of (fun h => nomatch h) (fun _ h => nomatch h), ?_⟩)
      exact (tallies_ask (.inr rfl) w).settles.providers i
  | outside change =>
      refine .inr (.inr ⟨not_replaces_of (fun h => nomatch h) (fun _ h => nomatch h), ?_⟩)
      exact (Std.Refl.refl (r := Settles) w).providers i

theorem Call.initialized_register (i : Interface) (object : Option Provided)
    (recipe : Option Recipe) (w : World) :
    ((register i object recipe).perform w).2.isInitialized = w.isInitialized := by
  rcases perform_register_cases i object recipe w with ⟨reg, p, -, -, h⟩ | ⟨-, -, h⟩
  · rw [h]
    exact isInitialized_withProvider w i p
  · rw [h]

open Call in
/-- The launcher is ready after a bootstrap that succeeds, and until a reset. -/
theorem perform_isInitialized (c : Call) (w : World) :
    (c.perform w).2.isInitialized = true ↔
      (∃ given, c = .bootstrap given ∧ (c.perform w).1 = .ok none) ∨
        c ≠ .reset ∧ w.isInitialized = true := by
  -- What is neither a bootstrap nor a reset leaves the flag as it is.
  have hother : (∀ given, c ≠ .bootstrap given) → c ≠ .reset →
      (c.perform w).2.isInitialized = w.isInitialized →
      ((c.perform w).2.isInitialized = true ↔
        (∃ given, c = .bootstrap given ∧ (c.perform w).1 = .ok none) ∨
          c ≠ .reset ∧ w.isInitialized = true) := by
    intro hboot hreset h
    rw [h]
    exact ⟨fun hinit => .inr ⟨hreset, hinit⟩, fun hready => hready.elim
      (fun ⟨given, hgiven, _⟩ => absurd hgiven (hboot given)) And.right⟩
  cases c with
  | bootstrap given =>
      rcases perform_bootstrap_cases given w with ⟨hinit, h⟩ | ⟨hinit, e, w', hload, h⟩ |
        ⟨-, s, w', u, -, h, hu, -⟩
      · rw [h]
        exact ⟨fun _ => .inl ⟨given, rfl, rfl⟩,
          fun _ => (settles_opened w).initialized.trans hinit⟩
      · have hafter := (tallies_settings_opened hload).settles.initialized.trans hinit
        rw [h, hafter, hinit]
        refine ⟨fun hfalse => absurd hfalse Bool.false_ne_true, ?_⟩
        rintro (⟨-, -, hok⟩ | ⟨-, hfalse⟩)
        · cases hok
        · cases hfalse
      · rw [h]
        exact ⟨fun _ => .inl ⟨given, rfl, rfl⟩, fun _ => hu⟩
  | reset =>
      refine ⟨fun hfalse => absurd hfalse Bool.false_ne_true, ?_⟩
      rintro (⟨given, hgiven, -⟩ | ⟨hne, -⟩)
      · cases hgiven
      · exact absurd rfl hne
  | register j object recipe =>
      exact hother (fun _ h => nomatch h) (fun h => nomatch h) (initialized_register _ _ _ w)
  | resolve j =>
      exact hother (fun _ h => nomatch h) (fun h => nomatch h)
        (tallies_ask (.inl rfl) w).settles.initialized
  | tryResolve j =>
      exact hother (fun _ h => nomatch h) (fun h => nomatch h)
        (tallies_ask (.inr rfl) w).settles.initialized
  | outside change => exact hother (fun _ h => nomatch h) (fun h => nomatch h) rfl

open Call in
theorem perform_container (c : Call) {w : World}
    (h : w.isInitialized = true → w.container.isSome)
    (hafter : (c.perform w).2.isInitialized = true) : (c.perform w).2.container.isSome := by
  cases c with
  | bootstrap given =>
      rcases perform_bootstrap_cases given w with ⟨hinit, hrun⟩ | ⟨hinit, e, w', hload, hrun⟩ |
        ⟨-, s, w', u, -, hrun, -, hu, -⟩
      · rw [hrun]
        exact (settles_opened w).container (h hinit)
      · rw [hrun, (tallies_settings_opened hload).settles.initialized, hinit] at hafter
        cases hafter
      · rw [hrun]
        exact hu
  | reset => cases hafter
  | register j object recipe =>
      have hinit := (initialized_register j object recipe w).symm.trans hafter
      rcases perform_register_cases j object recipe w with ⟨reg, p, -, -, hrun⟩ | ⟨-, -, hrun⟩
      · rw [hrun]
        exact container_withProvider w j p
      · rw [hrun]
        exact h hinit
  | resolve j =>
      have hsettles := (tallies_ask (.inl rfl : (Call.resolve j).Asks j) w).settles
      exact hsettles.container (h (hsettles.initialized.symm.trans hafter))
  | tryResolve j =>
      have hsettles := (tallies_ask (.inr rfl : (Call.tryResolve j).Asks j) w).settles
      exact hsettles.container (h (hsettles.initialized.symm.trans hafter))
  | outside change => exact h hafter

/-! ## Runs -/

theorem Upkeep.call {log : Log} {w : World} (h : Upkeep log w) (c : Call) :
    Upkeep ((c, w) :: log) (c.perform w).2 := by
  refine ⟨?_, perform_container c h.container, fun i => ?_⟩
  · rw [perform_isInitialized, isReady_cons_iff, h.ready]
  rcases perform_provider? c w i with ⟨rfl, hnone⟩ | ⟨reg, p, hreg, hp, hserves⟩ | ⟨hrep, hgoes⟩
  · refine .inl ⟨hnone, fun reg hlatest => ?_⟩
    rcases latest_cons_iff.mp hlatest with hreg | ⟨hrep, -⟩
    · nomatch hreg
    · exact hrep (.inl rfl)
  · exact .inr ⟨reg, p, latest_cons_iff.mpr (.inl hreg), hp, hserves⟩
  · have hlatest : ∀ reg, Latest ((c, w) :: log) i reg ↔ Latest log i reg :=
      fun reg => latest_of_not_replaces hrep
    rcases h.served i with ⟨hnone, hno⟩ | ⟨reg, p, hreg, hp, hserves⟩
    · rw [hnone] at hgoes
      generalize (c.perform w).2.provider? i = after at hgoes
      cases hgoes
      exact .inl ⟨rfl, fun reg hreg => hno reg ((hlatest reg).mp hreg)⟩
    · rw [hp] at hgoes
      generalize (c.perform w).2.provider? i = after at hgoes
      cases hgoes with
      | some hgoes => exact .inr ⟨reg, _, (hlatest reg).mpr hreg, rfl, hserves.goes hgoes⟩

theorem Run.upkeep {log : Log} {w : World} (h : Run log w) : Upkeep log w := by
  induction h with
  | @start w hcontainer hinit =>
      refine ⟨⟨fun h => ?_, ?_⟩, fun h => ?_, fun i => .inl ⟨?_, fun _ => not_latest_nil⟩⟩
      · rw [hinit] at h
        cases h
      · rintro ⟨later, given, w', earlier, hlog, -⟩
        cases later <;> cases hlog
      · rw [hinit] at h
        cases h
      · rw [provider?, hcontainer]
        rfl
  | call _ c ih => exact ih.call c

/-! ## Answers -/

section Answers

open Call

variable {c c' : Call} {i : Interface} {w w' : World} {p : Provider}
  {object : Provided} {log : Log}

theorem perform_of_holds (h : c.Asks i) (hp : w.provider? i = some p) (hholds : p.Holds object) :
    c.perform w = (.ok (some object), w) := by
  rcases perform_ask h w with ⟨insists, hrun⟩
  rw [hrun, serve_holds hp hholds]

theorem perform_fst_pending {r : Recipe} (h : c.Asks i) (hp : w.provider? i = some (.pending r)) :
    (c.perform w).1 = (followRecipe (asking w.host.askLimit) i r w).1 := by
  rcases perform_ask h w with ⟨insists, hrun⟩
  rw [hrun, serve_fst_pending hp]

/-- An object that is given is there from then on. -/
theorem holds_of_perform (h : c.Asks i) (hgives : (c.perform w).1 = .ok (some object)) :
    ∃ p, (c.perform w).2.provider? i = some p ∧ p.Holds object := by
  rcases perform_ask h w with ⟨insists, hrun⟩
  rw [hrun] at hgives ⊢
  have hserving := serving (settles_asking w.host.askLimit) i insists w
  generalize serve (asking w.host.askLimit) i insists w = x at hserving hgives
  cases hserving with
  | absent => cases insists <;> cases hgives
  | holds hp hholds =>
      cases hgives
      exact ⟨_, hp, hholds⟩
  | fails => cases hgives
  | @gives _ r' =>
      cases hgives
      exact ⟨_, by rw [provider?_concluded, if_pos rfl]; rfl, .inr ⟨r', rfl⟩⟩

/-- The last call of a run leads to the world after it. -/
theorem Run.eq_perform {e : Call × World} (h : Run (e :: log) w) :
    w = (e.1.perform e.2).2 ∧ Run log e.2 := by
  cases h with
  | call h c => exact ⟨rfl, h⟩

/-- An object that is there stays until the next registration. -/
theorem Run.holds {later : Log} (hlog : ∀ w', Run log w' → w' = w)
    (hp : w.provider? i = some p) (hholds : p.Holds object) (h : Run (later ++ log) w')
    (hlater : ∀ e ∈ later, ¬ Replaces e i) : w'.provider? i = some p := by
  induction later generalizing w' with
  | nil => rwa [hlog w' h]
  | cons e later ih =>
      rcases Run.eq_perform h with ⟨rfl, hrun⟩
      have hbefore := ih hrun fun e' he' => hlater e' (List.mem_cons_of_mem _ he')
      rcases perform_provider? e.1 e.2 i with ⟨hreset, -⟩ | ⟨reg, _, hreg, -⟩ | ⟨-, hgoes⟩
      · exact absurd (.inl hreset) (hlater e List.mem_cons_self)
      · exact absurd (.inr ⟨reg, hreg⟩) (hlater e List.mem_cons_self)
      · rw [hbefore] at hgoes
        generalize (e.1.perform e.2).2.provider? i = after at hgoes
        -- Only a recipe that has not made anything goes on.
        cases hgoes with
        | some hgoes => rw [hholds.goes hgoes]

/-- A call that registers nothing under an interface makes something for it as often as what is
    registered there turns to made. -/
theorem perform_tally (hrep : ¬ Replaces (c, w) i) (hself : ¬ w.NeedsFurther i i) :
    (c.perform w).2.completions i + (w.hasMade i).toNat
      = w.completions i + ((c.perform w).2.hasMade i).toNat := by
  cases c with
  | bootstrap given =>
      rcases perform_bootstrap_cases given w with ⟨-, h⟩ | ⟨-, e, w', hload, h⟩ |
        ⟨hinit, s, w', u, hload, h, -, -, hpast, hu⟩
      · rw [h]
        exact (tallies_opened w).tally i hself
      · rw [h]
        exact (tallies_settings_opened hload).tally i hself
      · have hok : (settings given w.opened).1 = .ok s := congrArg Prod.fst hload
        have hlogger : i ≠ .logger := fun hi => hrep (hi ▸ .inr ⟨_, .logger hinit hok⟩)
        have hsettings : i ≠ .settings := fun hi => hrep (hi ▸ .inr ⟨_, .settings hinit hok⟩)
        have hi := hu i
        rw [if_neg hlogger, if_neg hsettings] at hi
        have hsame : u.completions i = w'.completions i := by rw [completions, completions, hpast]
        rw [h, hsame, hasMade_congr hi]
        exact (tallies_settings_opened hload).tally i hself
  | reset => exact absurd (.inl rfl) hrep
  | register j object recipe =>
      rcases perform_register_cases j object recipe w with ⟨reg, p, hreg, -, h⟩ | ⟨-, -, h⟩
      · have hij : j ≠ i := fun hji => hrep (.inr ⟨reg, hji ▸ hreg⟩)
        have hmade : (w.withProvider j p).provider? i = w.provider? i := by
          rw [provider?_withProvider, if_neg hij]
        rw [h, completions_withProvider, hasMade_congr hmade]
      · rw [h]
  | resolve j => exact (tallies_ask (.inl rfl) w).tally i hself
  | tryResolve j => exact (tallies_ask (.inr rfl) w).tally i hself
  | outside change => rfl

/-- What is made between two registrations is what is there in the end and was not before. -/
theorem Run.tally {later : Log} (hlog : ∀ w', Run log w' → w' = w) (h : Run (later ++ log) w')
    (hlater : ∀ e ∈ later, ¬ Replaces e i) (hself : ∀ e ∈ later, ¬ e.2.NeedsFurther i i) :
    w'.completions i + (w.hasMade i).toNat = w.completions i + (w'.hasMade i).toNat := by
  -- Call by call, from the latest one backwards; the counts of all calls add up.
  induction later generalizing w' with
  | nil => rw [hlog w' h]
  | cons e later ih =>
      rcases Run.eq_perform h with ⟨rfl, hrun⟩
      have hbefore := ih hrun (fun d hd => hlater d (List.mem_cons_of_mem _ hd))
        fun d hd => hself d (List.mem_cons_of_mem _ hd)
      have hcall := @perform_tally e.1 i e.2 (hlater e List.mem_cons_self)
        (hself e List.mem_cons_self)
      omega

/-- What is answered from a registration. -/
theorem answer_of_serves {reg : Registration} (h : c.Asks i) (hp : w.provider? i = some p)
    (hserves : Serves i reg p) : Answer i w reg (c.perform w).1 := by
  cases hserves with
  | object object =>
      rw [perform_of_holds h hp (.inl rfl)]
      exact .object object
  | settings serial s =>
      rw [perform_of_holds h hp (.inl rfl)]
      exact .settings serial s
  | left hleft =>
      rw [perform_fst_pending h hp]
      exact .follows hleft
  | made hmade =>
      rw [perform_of_holds h hp (.inr ⟨_, rfl⟩)]
      exact .made hmade

/-- A recipe that did not make anything is found again afterwards, or it was followed to an end on
    the way. -/
theorem pending_of_perform {r : Recipe} (h : c.Asks i) (hp : w.provider? i = some (.pending r))
    (hnot : ∀ object, (c.perform w).1 ≠ .ok (some object)) :
    (∃ r', Recipe.Left r r' ∧ (c.perform w).2.provider? i = some (.pending r')) ∨
      w.NeedsFurther i i ∧ ∃ r' object, Recipe.Made i r object ∧
        (c.perform w).2.provider? i = some (.made r' object) := by
  by_cases hself : w.NeedsFurther i i
  · rcases (tallies_ask h w).settles.goes hp with ⟨p', hp', hgoes⟩
    cases hgoes with
    | same => exact .inl ⟨r, .refl r, hp'⟩
    | left hleft => exact .inl ⟨_, hleft, hp'⟩
    | made hmade => exact .inr ⟨hself, _, _, hmade, hp'⟩
  · rcases perform_ask h w with ⟨insists, hrun⟩
    rw [hrun] at hnot ⊢
    exact .inl (serve_pending hp hself insists hnot)

theorem provider?_perform {j : Interface} (h : IsFor c i) (hapart : ¬ c.Touches w j) :
    (c.perform w).2.provider? j = w.provider? j := by
  -- Asking changes nothing but what is needed.
  have hask : c.Asks i → (c.perform w).2.provider? j = w.provider? j := by
    intro hc
    rcases perform_ask hc w with ⟨insists, hrun⟩
    rw [hrun]
    exact serve_frame (fun w h k b hk => asking_frame (fun hj => hapart (.ask hc hj)) h hk _ b)
      (closed_needs w i) .refl (fun hj => hapart (.ask hc hj)) insists
  cases h with
  | register i object recipe =>
      rcases perform_register_cases i object recipe w with ⟨reg, p, -, -, hrun⟩ | ⟨-, -, hrun⟩
      · have hij : i ≠ j := fun hij => hapart (hij ▸ .register i object recipe)
        rw [hrun, provider?_withProvider, if_neg hij]
      · rw [hrun]
  | resolve i => exact hask (.inl rfl)
  | tryResolve i => exact hask (.inr rfl)

theorem onward_ask (h : c.Asks i) (w : World) :
    Onward Event.isLogging w (c.perform w).2 := by
  rcases perform_ask h w with ⟨insists, hrun⟩
  rw [hrun]
  exact keeps_serve (keeps_asking _) i insists w

theorem host_perform (h : IsFor c i) (w : World) : (c.perform w).2.host = w.host := by
  cases h with
  | register i object recipe =>
      rcases perform_register_cases i object recipe w with ⟨reg, p, -, -, hrun⟩ | ⟨-, -, hrun⟩
      · rw [hrun]
        exact host_withProvider w i p
      · rw [hrun]
  | resolve i => exact (onward_ask (.inl rfl) w).host
  | tryResolve i => exact (onward_ask (.inr rfl) w).host

theorem container_perform (h : IsFor c i) (hc : w.container.isSome) :
    (c.perform w).2.container.isSome := by
  cases h with
  | register i object recipe =>
      rcases perform_register_cases i object recipe w with ⟨reg, p, -, -, hrun⟩ | ⟨-, -, hrun⟩
      · rw [hrun]
        exact container_withProvider w i p
      · rw [hrun]
        exact hc
  | resolve i => exact (tallies_ask (.inl rfl) w).settles.container hc
  | tryResolve i => exact (tallies_ask (.inr rfl) w).settles.container hc

/-- An answer is up to what is needed for it. -/
theorem perform_fst_congr {u : World} {numbered : Prop} (h : c.Asks i)
    (hagree : Agree (w.Needs i) numbered w u) : (c.perform u).1 = (c.perform w).1 := by
  have hserve : ∀ insists, (serve (asking w.host.askLimit) i insists u).1
      = (serve (asking w.host.askLimit) i insists w).1 := fun insists =>
    (serve_agree (fun w w' hc h j b hj => asking_agree hc h hj _ b) (closed_needs w i) hagree
      .refl insists).outcome
  rcases h with rfl | rfl
  · change (ServerLaunch.resolve i u).1 = (ServerLaunch.resolve i w).1
    rw [resolve_eq, resolve_eq, hagree.host]
    exact hserve true
  · change (ServerLaunch.tryResolve i u).1 = (ServerLaunch.tryResolve i w).1
    rw [tryResolve_eq, tryResolve_eq, hagree.host]
    exact hserve false

theorem perform_fst_none (h : c.Asks i) (hp : w.provider? i = none)
    (hp' : w'.provider? i = none) : (c.perform w').1 = (c.perform w).1 := by
  rcases h with rfl | rfl
  · change (ServerLaunch.resolve i w').1 = (ServerLaunch.resolve i w).1
    rw [resolve_eq, resolve_eq, serve_none hp, serve_none hp']
  · change (ServerLaunch.tryResolve i w').1 = (ServerLaunch.tryResolve i w).1
    rw [tryResolve_eq, tryResolve_eq, serve_none hp, serve_none hp']

theorem followRecipe_launcherLog_alike (depth : Nat) (i : Interface) (config : LoggingConfig)
    (h : w'.host = w.host) :
    OpensAlike (followRecipe (asking depth) i (.launcherLog config) w').1
      (followRecipe (asking depth) i (.launcherLog config) w).1 := by
  rw [followRecipe_launcherLog_fst, followRecipe_launcherLog_fst, openLogger_fst, openLogger_fst, h]
  cases config.file with
  | false => exact .opened _ _ _ _
  | true =>
      cases w.host.refusal with
      | none => exact .opened _ _ _ _
      | some text => exact .failed _

/-- A call for one interface changes no answer for another one, if nothing is touched that this one
    needs. -/
theorem perform_fst_unmoved {j : Interface} (hc : IsFor c i)
    (hapart : ∀ k, w.Needs j k → ¬ c.Touches w k)
    (hnumbers : (c.perform w).2.serials = w.serials ∨
      ∀ k, w.Needs j k → ∀ config, w.provider? k ≠ some (.pending (.launcherLog config)))
    (hc' : c'.Asks j) : (c'.perform (c.perform w).2).1 = (c'.perform w).1 := by
  have hkept := fun k hk => provider?_perform hc (hapart k hk)
  cases hcontainer : w.container with
  | none =>
      -- Without a container nothing is registered, neither before nor after.
      have hnone : w.provider? j = none := by rw [provider?, hcontainer]; rfl
      exact perform_fst_none hc' hnone ((hkept j .refl).trans hnone)
  | some container =>
      have hsome : w.container.isSome := Option.isSome_of_eq_some hcontainer
      have hagree : Agree (w.Needs j) ((c.perform w).2.serials = w.serials) w (c.perform w).2 :=
        ⟨host_perform hc w, ⟨hsome, container_perform hc hsome⟩, hkept, id,
          fun hno => hnumbers.resolve_left hno⟩
      exact perform_fst_congr hc' hagree

/-- A logger that is still to be opened only gets another number. -/
theorem perform_fst_opened {j : Interface} {config : LoggingConfig} (hc : IsFor c i)
    (hapart : ¬ c.Touches w j) (hp : w.provider? j = some (.pending (.launcherLog config)))
    (hc' : c'.Asks j) : OpensAlike (c'.perform (c.perform w).2).1 (c'.perform w).1 := by
  have hp' := (provider?_perform hc hapart).trans hp
  rw [perform_fst_pending hc' hp, perform_fst_pending hc' hp', host_perform hc w]
  exact followRecipe_launcherLog_alike _ j config (host_perform hc w)

end Answers

/-- Every run is lawful: its log alone says what the container answers and whether the launcher is
    ready. -/
theorem Run.lawful {log : Log} {w : World} (h : Run log w) : Lawful log w := by
  have hup := h.upkeep
  have hserved : ∀ i reg, Latest log i reg → ∃ p, w.provider? i = some p ∧ Serves i reg p := by
    intro i reg hreg
    rcases hup.served i with ⟨-, hno⟩ | ⟨reg', p, hreg', hp, hserves⟩
    · exact absurd hreg (hno reg)
    · exact ⟨p, hp, hreg.unique hreg' ▸ hserves⟩
  constructor
  case ready => exact hup.ready
  case again =>
    intro hinit given
    rcases Option.isSome_iff_exists.mp (hup.container hinit) with ⟨c, hc⟩
    rcases bootstrap_of_initialized hinit with ⟨c', hrun⟩
    rw [opened_of_some hc] at hrun
    exact Call.perform_bootstrap_of_ok hrun
  case boots =>
    intro hinit given s hload
    rcases bootstrap_of_ok hinit (Prod.ext hload rfl) with ⟨c, u, hrun, hu, -⟩
    exact ⟨u, Call.perform_bootstrap_of_ok hrun, hu⟩
  case unloaded =>
    intro hinit given e hload
    rcases Call.perform_bootstrap_unloaded hinit hload with ⟨w', hrun, hsettles⟩
    exact ⟨w', hrun, hsettles.initialized.trans hinit, hsettles.provider?_eq_none_iff,
      fun i reg => latest_of_not_replaces (not_replaces_unloaded hload)⟩
  case refused => exact fun i => rfl
  case unregistered =>
    intro i
    rcases hup.served i with ⟨hnone, hno⟩ | ⟨reg, p, hreg, hp, -⟩
    · refine ⟨fun _ => hno, fun _ => ?_⟩
      rw [Call.perform, resolve_eq, serve_none hnone]
      rfl
    · refine ⟨fun hfails => ?_, fun hno => absurd hreg (hno reg)⟩
      -- A recipe does not fail in this way.
      rw [Call.perform, resolve_eq] at hfails
      exact absurd hfails (serve_ne_unregistered (asking_ne_unregistered _) i true
        (Option.isSome_of_eq_some hp))
  case nothing =>
    intro i hno
    rcases hup.served i with ⟨hnone, -⟩ | ⟨reg, p, hreg, -⟩
    · rw [Call.perform, tryResolve_eq, serve_none hnone]
      rfl
    · exact absurd hreg (hno reg)
  case answers =>
    intro i reg hreg c hc
    rcases hserved i reg hreg with ⟨p, hp, hserves⟩
    exact answer_of_serves hc hp hserves
  case same =>
    intro i c object hc hgives later w' hrun hlater c' hc'
    rcases holds_of_perform hc hgives with ⟨p, hp, hholds⟩
    exact perform_of_holds hc' (hrun.holds (fun _ h => h.eq_perform.1) hp hholds hlater) hholds
  case kept =>
    intro i r object hp later w' hrun hlater
    refine hrun.holds (fun w'' h'' => ?_) hp (.inr ⟨r, rfl⟩) hlater
    -- Only before the first call there is more than one world, and nothing is made there.
    cases h with
    | start hcontainer =>
        rw [provider?, hcontainer] at hp
        cases hp
    | call h c => exact h''.eq_perform.1
  case once =>
    intro i c later w' hrun hlater hself
    have htally : _ = (c.perform w).2.completions i + _ :=
      hrun.tally (fun _ h => h.eq_perform.1) hlater hself
    have hbound := Bool.toNat_le (w'.hasMade i)
    omega
  case retried =>
    intro i c r hc hreg hnot
    rcases hserved i _ hreg with ⟨p, hp, hserves⟩
    cases hserves with
    | left hleft =>
        rcases pending_of_perform hc hp hnot with ⟨r', hleft', hafter⟩ |
          ⟨hself, r', object, hmade, hafter⟩
        · exact .inl ⟨r', hleft.trans hleft', fun c' hc' => perform_fst_pending hc' hafter⟩
        · exact .inr ⟨hself, object, hmade.of_left hleft, fun c' hc' =>
            perform_of_holds hc' hafter (.inr ⟨r', rfl⟩)⟩
    | made hmade =>
        exact absurd (congrArg Prod.fst (perform_of_holds hc hp (.inr ⟨_, rfl⟩))) (hnot _)
  case apart => exact fun c i j hc hapart => provider?_perform hc hapart
  case unmoved =>
    exact fun c i j hc hapart hnumbers c' hc' => perform_fst_unmoved hc hapart hnumbers hc'
  case opened => exact fun c i j hc hapart config hp c' hc' => perform_fst_opened hc hapart hp hc'

/-- A launcher is ready although its logger cannot be opened, and opening it is tried again. -/
theorem Run.lawful_denying :
    ∃ log w, Run log w ∧ log = [(.bootstrap (some {}), World.denying)] ∧ w.isInitialized = true ∧
      ((Call.resolve .logger).perform w).1 = .error (.denied "denied") ∧
      ∃ r, Recipe.Left (.launcherLog ({} : Settings).logging) r ∧
        let u := ((Call.resolve .logger).perform w).2
        ((Call.tryResolve .logger).perform u).1 =
          (followRecipe (asking u.host.askLimit) .logger r u).1 := by
  have hrun := (Run.start rfl rfl : Run [] World.denying).call (.bootstrap (some {}))
  have hfails : ((Call.resolve .logger).perform
      ((Call.bootstrap (some {})).perform World.denying).2).1 =
        .error (.denied "denied") := rfl
  have hready : IsReady [(.bootstrap (some {}), World.denying)] :=
    ⟨[], some {}, _, [], rfl, rfl, fun _ he => absurd he List.not_mem_nil⟩
  have hlatest : Latest [(.bootstrap (some {}), World.denying)] .logger
      (.recipe (.launcherLog ({} : Settings).logging)) :=
    latest_cons_iff.mpr (.inl (.logger rfl rfl))
  have hlawful := Run.lawful hrun
  rcases hlawful.retried .logger (.resolve .logger) _ (.inl rfl) hlatest
    (fun object hgives => nomatch hfails.symm.trans hgives) with ⟨r, hleft, hagain⟩ | ⟨hself, -⟩
  · exact ⟨_, _, hrun, rfl, hlawful.ready.mpr hready, hfails, r, hleft, hagain _ (.inr rfl)⟩
  · exact absurd hself (not_needsFurther rfl .logger)

/-- A new world in which a recipe may ask for services, whose recipes may not. -/
def oneDeep : World :=
  World.start { (default : Host) with askLimit := 1 } default .seconds

/-- A recipe that asks for its own service at first, and puts what it gets into a tuple. -/
def ownAsker : Recipe :=
  .methods (fun times => if times = 0 then .asks .text true (fun _ => false) fun answer =>
      match answer with
      | .ok (some (.value v)) => .gives (some (.value (.tuple [v])))
      | _ => .fails .usedUp
    else .gives (some (.value (.text "a")))) 0

/-- A recipe that fails at first, because it finds no variable. -/
def lateStarter : Recipe :=
  .methods (fun times => if times = 0 then .fails (.noKey "X")
    else .gives (some (.value (.text "a")))) 0

/-- A recipe that asks for another service, and does not mind if that fails. -/
def indifferent : Recipe :=
  .methods (fun _ => .asks .text true (fun _ => true) fun _ => .gives (some (.value (.text "b")))) 0

/-- A recipe can be followed to its end more than once, and matter to other services. -/
theorem not_made_once :
    -- A recipe that makes nothing at first is followed twice.
    (∃ log w u v, Run log w ∧
      Latest log .text (.recipe (.members [none, some (.value (.text "a"))])) ∧
      ((Call.tryResolve .text).perform w).1 = .ok none ∧
      (Call.resolve .text).perform w = (.ok none, u) ∧
      (Call.resolve .text).perform u = (.ok (some (.value (.text "a"))), v) ∧
      v.past = [.finishedRecipe .text, .followedRecipe .text, .followedRecipe .text]) ∧
    -- So is one that asks for its own service, and makes two things.
    (∃ log w v, Run log w ∧ Latest log .text (.recipe ownAsker) ∧
      (Call.resolve .text).perform w = (.ok (some (.value (.tuple [.text "a"]))), v) ∧
      v.past = [.finishedRecipe .text, .finishedRecipe .text, .followedRecipe .text,
        .followedRecipe .text]) ∧
    -- What a service resolves to can depend on whether another one was asked for.
    ∃ log w u, Run log w ∧ Latest log .text (.recipe lateStarter) ∧
      ((Call.resolve .text).perform w).1 = .error (.noVariable "X") ∧
      (Call.resolve .number).perform w = (.ok (some (.value (.text "b"))), u) ∧
      ((Call.resolve .text).perform u).1 = .ok (some (.value (.text "a"))) := by
  refine ⟨?_, ?_, ?_⟩
  · exact ⟨_, _, _, _, (Run.start rfl rfl : Run [] oneDeep).call
      (.register .text none (some (.members [none, some (.value (.text "a"))]))),
      latest_cons_iff.mpr (.inl (.recipe _ _ _)), by cbv, by cbv, by cbv, by cbv⟩
  · exact ⟨_, _, _, (Run.start rfl rfl : Run [] oneDeep).call
      (.register .text none (some ownAsker)),
      latest_cons_iff.mpr (.inl (.recipe _ _ _)), by cbv, by cbv⟩
  · have hrun := ((Run.start rfl rfl : Run [] oneDeep).call
      (.register .number none (some indifferent))).call (.register .text none (some lateStarter))
    exact ⟨_, _, _, hrun, latest_cons_iff.mpr (.inl (.recipe _ _ _)), by cbv, by cbv, by cbv⟩

end Container

end ServerLaunch
