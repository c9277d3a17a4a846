import ServerLaunch.Bootstrap
import ServerLaunch.Proofs.Outcome
import ServerLaunch.Proofs.Preparation

/-!
# What Is Registered

The container of the program, seen through what is registered under each interface.

A container comes into being when it is first asked for, and nothing is registered in it then;
so a world without a container and one with an empty container are alike for everybody who
looks something up. `World.provider?` is that view, and each action on the container is one
equation in it.

A recipe is followed as often as it takes until it makes something. Each time it is used up a
little, and what is left of it is what is followed next. While that goes on other recipes may be
followed, since services may be asked for, and so an action that asks for one service may change
the registrations of many. But all that it does to any of them is this: what was made stays, and
what was not made yet has its recipe used up further or is made.

## Main definitions

* `World.provider?`: What is registered under an interface.
* `Recipe.Left`, `Recipe.Made`: What is left of a recipe, and what it made.
* `Provider.Goes`: How a registration changes as its recipe is followed.
* `World.Settles`: Registrations change in this way alone.
* `Serving`: How asking for a service goes.

## Theorems

* `serve_holds`, `serve_fails`, `serve_gives`, `serving`: What asking for a service comes to.
* `settles_serve`: What does not replace a registration.
* `serve_ne_unregistered`: A failure that no recipe of a registered service can pass on.
* `bootstrap_of_ok`: What a bootstrap registers.
-/

namespace ServerLaunch

open Act World

namespace Container

/-- Dropping what is registered under one interface leaves the others. -/
theorem lookup_filter {i j : Interface} (h : i ≠ j) (providers : List (Interface × Provider)) :
    (providers.filter fun e => e.1 != i).lookup j = providers.lookup j := by
  induction providers with
  | nil => rfl
  | cons e rest ih =>
      rcases e with ⟨k, q⟩
      by_cases hk : k = i
      · have hne : (j == k) = false := beq_eq_false_iff_ne.mpr fun hj => h (hk.symm.trans hj.symm)
        rw [List.filter_cons_of_neg (by simpa using hk), ih, List.lookup_cons, hne]
      · rw [List.filter_cons_of_pos (by simpa using hk), List.lookup_cons, List.lookup_cons, ih]

theorem find?_register (c : Container) (i j : Interface) (p : Provider) :
    (c.register i p).find? j = if i = j then some p else c.find? j := by
  unfold register find?
  rw [List.lookup_cons]
  by_cases h : i = j
  · rw [if_pos h, h, beq_self_eq_true]
  · rw [if_neg h, beq_eq_false_iff_ne.mpr (Ne.symm h)]
    exact lookup_filter h c.providers

end Container

namespace World

/-! ## Looking up -/

/-- What is registered under an interface, with what was made of it. -/
def provider? (w : World) (i : Interface) : Option Provider :=
  w.container.bind fun c => c.find? i

/-- The world once there is a container. -/
def opened (w : World) : World :=
  (currentContainer w).2

variable {w : World} {i : Interface} {p : Provider}

/-- A world in which there is a container is not changed by asking for it. -/
theorem currentContainer_of_some {c : Container} (h : w.container = some c) :
    currentContainer w = (.ok c, w) := by
  unfold currentContainer
  simp only [modifyGet_apply, h]

theorem opened_of_some {c : Container} (h : w.container = some c) : w.opened = w :=
  congrArg Prod.snd (currentContainer_of_some h)

theorem exists_container (h : w.provider? i = some p) :
    ∃ c, w.container = some c ∧ c.find? i = some p :=
  Option.bind_eq_some_iff.mp h

/-- There is a container, and what is registered in it was registered before. -/
theorem currentContainer_eq (w : World) :
    ∃ c, currentContainer w = (.ok c, w.opened) ∧ w.opened.container = some c ∧
      w.opened.isInitialized = w.isInitialized ∧ ∀ i, c.find? i = w.provider? i := by
  cases h : w.container with
  | some c =>
      refine ⟨c, ?_, ?_, ?_, fun i => ?_⟩
      · rw [opened_of_some h, currentContainer_of_some h]
      · rw [opened_of_some h, h]
      · rw [opened_of_some h]
      · rw [provider?, h]
        rfl
  | none =>
      refine ⟨⟨w.serials, []⟩, ?_, ?_, ?_, fun i => ?_⟩
      · unfold opened currentContainer
        simp only [modifyGet_apply, h]
      · unfold opened currentContainer
        simp only [modifyGet_apply, h]
      · unfold opened currentContainer
        simp only [modifyGet_apply, h]
      · rw [provider?, h]
        rfl

theorem provider?_opened (w : World) (i : Interface) : w.opened.provider? i = w.provider? i := by
  rcases currentContainer_eq w with ⟨c, -, hopened, -, hfind⟩
  rw [← hfind, provider?, hopened]
  rfl

/-! ## Registering -/

/-- The world with a registration. -/
def withProvider (w : World) (i : Interface) (p : Provider) : World :=
  (registerProvider i p w).2

theorem registerProvider_eq (w : World) (i : Interface) (p : Provider) :
    registerProvider i p w = (.ok (), w.withProvider i p) ∧
      ∃ c : Container, w.withProvider i p = { w.opened with container := some (c.register i p) } ∧
        ∀ j, c.find? j = w.provider? j := by
  rcases currentContainer_eq w with ⟨c, hcurrent, -, -, hfind⟩
  have hrun : registerProvider i p w =
      (.ok (), { w.opened with container := some (c.register i p) }) := by
    unfold registerProvider
    rw [bind_ok hcurrent]
    rfl
  exact ⟨by rw [withProvider, hrun], c, by rw [withProvider, hrun], hfind⟩

theorem registerProvider_apply (w : World) (i : Interface) (p : Provider) :
    registerProvider i p w = (.ok (), w.withProvider i p) :=
  (registerProvider_eq w i p).1

theorem provider?_withProvider (w : World) (i j : Interface) (p : Provider) :
    (w.withProvider i p).provider? j = if i = j then some p else w.provider? j := by
  rcases registerProvider_eq w i p with ⟨-, c, hw, hfind⟩
  rw [hw, ← hfind, ← c.find?_register]
  rfl

theorem isInitialized_withProvider (w : World) (i : Interface) (p : Provider) :
    (w.withProvider i p).isInitialized = w.isInitialized := by
  rcases registerProvider_eq w i p with ⟨-, c, hw, -⟩
  rcases currentContainer_eq w with ⟨-, -, -, hinit, -⟩
  rw [hw]
  exact hinit

theorem past_opened (w : World) : w.opened.past = w.past := by
  cases h : w.container with
  | some c => rw [opened_of_some h]
  | none =>
      unfold opened currentContainer
      simp only [modifyGet_apply, h]

theorem past_withProvider (w : World) (i : Interface) (p : Provider) :
    (w.withProvider i p).past = w.past := by
  rcases registerProvider_eq w i p with ⟨-, c, hw, -⟩
  rw [hw]
  exact past_opened w

theorem container_withProvider (w : World) (i : Interface) (p : Provider) :
    (w.withProvider i p).container.isSome := by
  rcases registerProvider_eq w i p with ⟨-, c, hw, -⟩
  rw [hw]
  rfl

/-! ## Following a recipe -/

/-- Nothing that has to do with registrations changes. -/
structure SameServices (w w' : World) : Prop where
  container : w'.container = w.container
  initialized : w'.isInitialized = w.isInitialized

instance : Std.Refl SameServices := ⟨fun _ => ⟨rfl, rfl⟩⟩

instance : IsTrans World SameServices :=
  ⟨fun _ _ _ h h' => ⟨h'.container.trans h.container, h'.initialized.trans h.initialized⟩⟩

end World

theorem sameServices_record (e : Event) : (record e).Keeps SameServices :=
  fun _ => ⟨rfl, rfl⟩

theorem sameServices_newSerial : newSerial.Keeps SameServices :=
  fun _ => ⟨rfl, rfl⟩

theorem sameServices_openChannel (name : String) (config : LoggingConfig) (file : Option Path) :
    (openChannel name config file).Keeps SameServices :=
  fun _ => ⟨rfl, rfl⟩

theorem sameServices_makeDirectory (path : Path) : (makeDirectory path).Keeps SameServices := by
  intro w
  unfold makeDirectory
  cases w.host.refusal <;> exact ⟨rfl, rfl⟩

theorem sameServices_openLogFile (name : String) (path : Path) :
    (openLogFile name path).Keeps SameServices :=
  fun _ => ⟨rfl, rfl⟩

theorem sameServices_openLogger (config : LoggingConfig) (name : String) :
    (openLogger config name).Keeps SameServices := by
  refine Keeps.bind (sameServices_openChannel _ config none) fun _ => ?_
  refine Keeps.ite (Keeps.bind .get fun w => ?_)
    (Keeps.bind sameServices_newSerial fun _ => .pure _)
  refine Keeps.bind (sameServices_makeDirectory _) fun _ =>
    Keeps.bind (sameServices_openLogFile _ _) fun _ => ?_
  exact Keeps.bind (sameServices_openChannel _ config _) fun _ =>
    Keeps.bind sameServices_newSerial fun _ => .pure _

theorem makeDirectory_of_refused {w : World} {text : String} (h : w.host.refusal = some text)
    (path : Path) : makeDirectory path w = (.error (.denied text), w) := by
  unfold makeDirectory
  rw [h]

theorem makeDirectory_of_allowed {w : World} (h : w.host.refusal = none) (path : Path) :
    makeDirectory path w = (.ok (), w.record (.madeDirectory path)) := by
  unfold makeDirectory
  rw [h]

/-- What opening a logger comes to is up to the host, but for the number of the logger. -/
theorem openLogger_fst (config : LoggingConfig) (name : String) (w : World) :
    (openLogger config name w).1 =
      if config.file then
        match w.host.refusal with
        | some text => .error (.denied text)
        | none => .ok (.launcher w.serials (channelName name)
            (some (config.filePath.getD (defaultLogFile w.host.home))))
      else .ok (.launcher w.serials (channelName name) none) := by
  obtain ⟨u, hopen, hhost, hserials⟩ : ∃ u, openChannel (channelName name) config none w =
      (.ok (), u) ∧ u.host = w.host ∧ u.serials = w.serials := ⟨_, rfl, rfl, rfl⟩
  unfold openLogger
  rw [bind_ok hopen, ← hhost, ← hserials]
  cases config.file with
  | false => rfl
  | true =>
      rw [if_pos rfl, bind_ok (get_apply u)]
      cases h : u.host.refusal with
      | none =>
          rw [bind_ok (makeDirectory_of_allowed h _)]
          rfl
      | some text =>
          rw [bind_error (makeDirectory_of_refused h _)]
          rfl

theorem followRecipe_launcherLog_fst (ask : Interface → Bool → WorldAct (Option Provided))
    (i : Interface) (config : LoggingConfig) (w : World) :
    (followRecipe ask i (.launcherLog config) w).1 =
      (openLogger config launcherName w).1.map fun logger => some (.logger logger) := by
  rcases hopen : openLogger config launcherName w with ⟨e | logger, w'⟩
  · exact congrArg Prod.fst (bind_error hopen)
  · exact congrArg Prod.fst (bind_ok hopen)

theorem followRecipe_launcherLog_snd (ask : Interface → Bool → WorldAct (Option Provided))
    (i : Interface) (config : LoggingConfig) (w : World) :
    (followRecipe ask i (.launcherLog config) w).2 = (openLogger config launcherName w).2 := by
  rcases hopen : openLogger config launcherName w with ⟨e | logger, w'⟩
  · exact congrArg Prod.snd (bind_error hopen)
  · exact congrArg Prod.snd (bind_ok hopen)

theorem sameServices_followRecipe_launcherLog
    (ask : Interface → Bool → WorldAct (Option Provided)) (i : Interface)
    (config : LoggingConfig) : (followRecipe ask i (.launcherLog config)).Keeps SameServices :=
  Keeps.bind (sameServices_openLogger config _) fun _ => .pure _

/-- The world in which a recipe begins to be followed once more. -/
def World.following (w : World) (i : Interface) (method : Nat → Method) (times : Nat) : World :=
  (w.record (.followedRecipe i)).withProvider i (.pending (.methods method (times + 1)))

theorem followRecipe_methods (ask : Interface → Bool → WorldAct (Option Provided))
    (i : Interface) (method : Nat → Method) (times : Nat) (w : World) :
    followRecipe ask i (.methods method times) w
      = (method times).follow ask (w.following i method times) := by
  refine (bind_ok (rfl : record (.followedRecipe i) w = (.ok (), _))).trans ?_
  exact bind_ok (registerProvider_apply _ _ _)

theorem World.provider?_following (w : World) (i j : Interface) (method : Nat → Method)
    (times : Nat) : (w.following i method times).provider? j
      = if i = j then some (.pending (.methods method (times + 1))) else w.provider? j :=
  provider?_withProvider _ i j _

theorem sameServices_file (w : World) (name : String) (entry : LogRecord) :
    SameServices w (w.file name entry) := by
  unfold World.file
  split <;> exact ⟨rfl, rfl⟩

theorem Channel.sameServices_write (channel : Channel) (entry : LogRecord) (w : World) :
    SameServices w (channel.write entry w) := by
  have hshown : SameServices w (if channel.console then w.record (.shown entry) else w) := by
    split <;> exact ⟨rfl, rfl⟩
  unfold Channel.write
  dsimp only
  split
  · exact IsTrans.trans _ _ _ hshown (sameServices_file _ _ _)
  · exact hshown

theorem sameServices_writeLog (w : World) (name : String) (level : LogLevel)
    (message : String) : SameServices w (w.writeLog name level message) := by
  unfold World.writeLog
  dsimp only
  split
  · split
    · split <;> exact ⟨rfl, rfl⟩
    · exact Channel.sameServices_write _ _ w
  · exact ⟨rfl, rfl⟩

/-- A message registers nothing. -/
theorem sameServices_log (logger : Logger) (writer : Writer) (level : LogLevel)
    (message : String) : (logger.log writer level message).Keeps SameServices := by
  intro w
  cases logger with
  | silent serial => exact ⟨rfl, rfl⟩
  | journal => exact ⟨rfl, rfl⟩
  | launcher serial name file => exact sameServices_writeLog w name level message

namespace Recipe

/-- What is left of a recipe after some time. -/
inductive Left : Recipe → Recipe → Prop where
  | log (config : LoggingConfig) : Left (.launcherLog config) (.launcherLog config)
  | methods (method : Nat → Method) {times times' : Nat} (h : times ≤ times') :
      Left (.methods method times) (.methods method times')

/-- What a recipe of an interface made at last. -/
def Made (i : Interface) (r : Recipe) (object : Provided) : Prop :=
  ∃ depth r' w w', Left r r' ∧ followRecipe (asking depth) i r' w = (.ok (some object), w')

variable {i : Interface} {r r₁ r₂ : Recipe} {object : Provided}

theorem Left.refl (r : Recipe) : Left r r := by
  cases r with
  | launcherLog config => exact .log config
  | methods method times => exact .methods method (Nat.le_refl times)

theorem Left.trans (h : Left r r₁) (h' : Left r₁ r₂) : Left r r₂ := by
  cases h with
  | log => exact h'
  | methods method h =>
      cases h' with
      | methods _ h' => exact .methods method (Nat.le_trans h h')

theorem Made.of_left (h : Left r r₁) (h' : Made i r₁ object) : Made i r object := by
  rcases h' with ⟨depth, r₂, w, w', hleft, hmade⟩
  exact ⟨depth, r₂, w, w', h.trans hleft, hmade⟩

end Recipe

namespace Provider

/-- How a registration changes as its recipe is followed. -/
inductive Goes (i : Interface) : Provider → Provider → Prop where
  | same (p : Provider) : Goes i p p
  | left {r r' : Recipe} (h : Recipe.Left r r') : Goes i (.pending r) (.pending r')
  | made {r r' : Recipe} {object : Provided} (h : Recipe.Made i r object)
      (hleft : Recipe.Left r r') : Goes i (.pending r) (.made r' object)

theorem Goes.trans {i : Interface} {p p' p'' : Provider} (h : Goes i p p') (h' : Goes i p' p'') :
    Goes i p p'' := by
  cases h with
  | same => exact h'
  | made h hleft => cases h'; exact .made h hleft
  | left h =>
      cases h' with
      | same => exact .left h
      | left h' => exact .left (h.trans h')
      | made h' hleft => exact .made (h'.of_left h) (h.trans hleft)

/-- A registration after its recipe was followed to the end. -/
def after (recipe : Recipe) : Option Provided → Provider
  | some object => .made recipe object
  | none => .pending recipe

/-- What becomes of a registration with a recipe still has what is left of that. -/
theorem Goes.recipe? {i : Interface} {r : Recipe} {p : Provider} (h : Goes i (.pending r) p) :
    ∃ r', p.recipe? = some r' ∧ Recipe.Left r r' := by
  cases h with
  | same => exact ⟨r, rfl, .refl r⟩
  | left h => exact ⟨_, rfl, h⟩
  | made h hleft => exact ⟨_, rfl, hleft⟩

/-- An object is there, given or made. -/
def Holds (object : Provided) (p : Provider) : Prop :=
  p = .ready object ∨ ∃ r, p = .made r object

theorem Holds.goes {i : Interface} {p p' : Provider} {object : Provided} (h : p.Holds object)
    (hgoes : Goes i p p') : p' = p := by
  rcases h with rfl | ⟨r, rfl⟩
  · cases hgoes
    rfl
  · cases hgoes
    rfl

end Provider

namespace World

/-- Registrations change as their recipes are followed, and not in any other way. -/
structure Settles (w w' : World) : Prop where
  initialized : w'.isInitialized = w.isInitialized
  container : w.container.isSome → w'.container.isSome
  providers : ∀ i, Option.Rel (Provider.Goes i) (w.provider? i) (w'.provider? i)

namespace Settles

variable {w w' w'' : World}

theorem of_provider?_eq (hinit : w'.isInitialized = w.isInitialized)
    (hcontainer : w.container.isSome → w'.container.isSome)
    (h : ∀ i, w'.provider? i = w.provider? i) : Settles w w' := by
  refine ⟨hinit, hcontainer, fun i => ?_⟩
  rw [h]
  cases w.provider? i with
  | none => exact .none
  | some p => exact .some (.same p)

theorem trans (h : Settles w w') (h' : Settles w' w'') : Settles w w'' := by
  refine ⟨h'.initialized.trans h.initialized, fun hc => h'.container (h.container hc), fun i => ?_⟩
  have hp := h.providers i
  have hp' := h'.providers i
  generalize w.provider? i = p, w'.provider? i = p', w''.provider? i = p'' at hp hp'
  cases hp with
  | none => exact hp'
  | some hp =>
      cases hp' with
      | some hp' => exact .some (hp.trans hp')

/-- Nothing new is registered, and what is registered stays so. -/
theorem provider?_eq_none_iff (h : Settles w w') (i : Interface) :
    w'.provider? i = none ↔ w.provider? i = none := by
  have hp := h.providers i
  generalize w.provider? i = p, w'.provider? i = p' at hp
  cases hp with
  | none => exact Iff.rfl
  | some hp => exact ⟨(fun h => nomatch h), (fun h => nomatch h)⟩

instance : Std.Refl Settles := ⟨fun _ => of_provider?_eq rfl id fun _ => rfl⟩

instance : IsTrans World Settles := ⟨fun _ _ _ => trans⟩

end Settles

theorem SameServices.provider?_eq {w w' : World} (h : SameServices w w') (i : Interface) :
    w'.provider? i = w.provider? i := by
  rw [provider?, provider?, h.container]

theorem SameServices.settles {w w' : World} (h : SameServices w w') : Settles w w' :=
  .of_provider?_eq h.initialized (fun hc => by rwa [h.container]) h.provider?_eq

theorem settles_opened (w : World) : Settles w w.opened := by
  rcases currentContainer_eq w with ⟨c, -, hc, hinit, -⟩
  exact .of_provider?_eq hinit (fun _ => by rw [hc]; rfl) (provider?_opened w)

end World

namespace World

theorem Settles.isSome {w w' : World} (h : Settles w w') {i : Interface}
    (hp : (w.provider? i).isSome) : (w'.provider? i).isSome := by
  rw [← Option.ne_none_iff_isSome] at hp ⊢
  exact fun hnone => hp ((h.provider?_eq_none_iff i).mp hnone)

theorem Settles.goes {w w' : World} (h : Settles w w') {i : Interface} {p : Provider}
    (hp : w.provider? i = some p) : ∃ p', w'.provider? i = some p' ∧ Provider.Goes i p p' := by
  have hrel := h.providers i
  rw [hp] at hrel
  generalize w'.provider? i = after at hrel
  cases hrel with
  | some hgoes => exact ⟨_, rfl, hgoes⟩

/-- A registration may be put in place of what became of another one in the meantime. -/
theorem Settles.withProvider {w w' : World} {i : Interface} {p p' : Provider}
    (h : Settles w w') (hp : w.provider? i = some p) (hgoes : Provider.Goes i p p') :
    Settles w (w'.withProvider i p') := by
  refine ⟨(isInitialized_withProvider _ _ _).trans h.initialized,
    fun _ => container_withProvider _ _ _, fun j => ?_⟩
  rw [provider?_withProvider]
  by_cases hj : i = j
  · rw [if_pos hj, ← hj, hp]
    exact .some hgoes
  · rw [if_neg hj]
    exact h.providers j

end World

/-! ## Asking for a service -/

section Asking

variable {ask : Interface → Bool → WorldAct (Option Provided)} {w w' : World} {i : Interface}
variable {insists : Bool} {r r' : Recipe} {object : Provided} {result : Option Provided}

/-- The world after a recipe was followed to the end. -/
def World.concluded (w : World) (i : Interface) (r : Recipe) : Option Provided → World
  | some object => (w.record (.finishedRecipe i)).withProvider i (.made r object)
  | none => w.withProvider i (.pending r)

theorem World.provider?_concluded (w : World) (i j : Interface) (r : Recipe)
    (result : Option Provided) :
    (w.concluded i r result).provider? j
      = if i = j then some (.after r result) else w.provider? j := by
  cases result <;> exact provider?_withProvider _ i j _

/-- What a recipe has made can always be kept. -/
theorem keepResult_ok (i : Interface) (result : Option Provided) (w : World) :
    ∃ w', keepResult i result w = (.ok (), w') := by
  rcases currentContainer_eq w with ⟨c, hcurrent, -⟩
  unfold keepResult
  rw [bind_ok hcurrent]
  cases (c.find? i).bind Provider.recipe? with
  | none => exact ⟨_, rfl⟩
  | some r =>
      cases result with
      | none => exact ⟨_, registerProvider_apply _ _ _⟩
      | some object => exact ⟨_, bind_ok (rfl : record (.finishedRecipe i) _ = (.ok (), _))⟩

theorem keepResult_of_recipe {p : Provider} (h : w.provider? i = some p) (hr : p.recipe? = some r)
    (result : Option Provided) :
    keepResult i result w = (.ok (), w.concluded i r result) := by
  rcases exists_container h with ⟨c, hc, hfind⟩
  unfold keepResult
  rw [bind_ok (currentContainer_of_some hc), hfind, Option.bind_some, hr]
  cases result with
  | none => exact registerProvider_apply _ _ _
  | some object =>
      refine (bind_ok (rfl : record (.finishedRecipe i) w = (.ok (), _))).trans ?_
      exact registerProvider_apply _ _ _

theorem serve_none (h : w.provider? i = none) :
    serve ask i insists w =
      (if insists then .error (.unregistered i) else .ok none, w.opened) := by
  rcases currentContainer_eq w with ⟨c, hcurrent, -, -, hfind⟩
  unfold serve
  rw [bind_ok hcurrent, hfind, h]
  cases insists <;> rfl

/-- Only an interface under which a recipe is registered is more than looked up. -/
theorem serve_some {p : Provider} (h : w.provider? i = some p) :
    serve ask i insists w = (match p with
      | .ready object => return some object
      | .made _ object => return some object
      | .pending recipe => do
        let result ← followRecipe ask i recipe
        keepResult i result
        return result : WorldAct (Option Provided)) w := by
  rcases exists_container h with ⟨c, hc, hfind⟩
  unfold serve
  rw [bind_ok (currentContainer_of_some hc), hfind]
  cases p <;> rfl

/-- An object that is there is what is given. -/
theorem serve_holds {p : Provider} (h : w.provider? i = some p) (hholds : p.Holds object) :
    serve ask i insists w = (.ok (some object), w) := by
  rw [serve_some h]
  rcases hholds with rfl | ⟨r, rfl⟩ <;> rfl

theorem serve_fails {e : Failure} (h : w.provider? i = some (.pending r))
    (hfollow : followRecipe ask i r w = (.error e, w')) :
    serve ask i insists w = (.error e, w') := by
  rw [serve_some h]
  exact bind_error hfollow

/-- What is kept in the end is the result, whatever was made on the way. -/
theorem serve_gives {p : Provider} (h : w.provider? i = some (.pending r))
    (hfollow : followRecipe ask i r w = (.ok result, w')) (hp : w'.provider? i = some p)
    (hr : p.recipe? = some r') :
    serve ask i insists w = (.ok result, w'.concluded i r' result) := by
  rw [serve_some h]
  exact (bind_ok hfollow).trans (bind_ok (keepResult_of_recipe hp hr result))

/-- What is asked for is given as its recipe gives it. -/
theorem serve_fst_pending (h : w.provider? i = some (.pending r)) :
    (serve ask i insists w).1 = (followRecipe ask i r w).1 := by
  rcases hfollow : followRecipe ask i r w with ⟨e | result, w'⟩
  · rw [serve_fails h hfollow]
  · rcases keepResult_ok i result w' with ⟨w'', hkeep⟩
    rw [serve_some h]
    change _ = (Except.ok result, w'').1
    exact congrArg Prod.fst ((bind_ok hfollow).trans (bind_ok hkeep))

theorem tryResolve_eq (i : Interface) (w : World) :
    tryResolve i w = serve (asking w.host.askLimit) i false w :=
  bind_ok (get_apply w)

theorem resolve_eq (i : Interface) (w : World) :
    resolve i w = serve (asking w.host.askLimit) i true w :=
  bind_ok (get_apply w)

end Asking

/-! ## Recipes that ask -/

section Settling

variable {depth : Nat} {w : World} {i : Interface} {r : Recipe}

/-- Following a recipe uses it up, and follows others at most. -/
theorem settles_followRecipe (hask : ∀ j insists, (asking depth j insists).Keeps Settles)
    (h : w.provider? i = some (.pending r)) :
    Settles w (followRecipe (asking depth) i r w).2 := by
  cases r with
  | launcherLog config =>
      exact (sameServices_followRecipe_launcherLog (asking depth) i config w).settles
  | methods method times =>
      have hused : Settles w (w.following i method times) :=
        (sameServices_record (.followedRecipe i) w).settles.withProvider h
          (.left (.methods method (Nat.le_succ times)))
      rw [followRecipe_methods]
      exact hused.trans (Method.keeps_follow hask (method times) _)

/-- How asking for a service goes, and the world that it leads to. What is kept in the end is the
    result, whatever was made on the way. -/
inductive Serving (depth : Nat) (i : Interface) (insists : Bool) (w : World) :
    Except Failure (Option Provided) × World → Prop where
  | absent (h : w.provider? i = none) :
      Serving depth i insists w (if insists then .error (.unregistered i) else .ok none, w.opened)
  | holds {p : Provider} {object : Provided} (h : w.provider? i = some p)
      (hholds : p.Holds object) : Serving depth i insists w (.ok (some object), w)
  | fails {r : Recipe} {e : Failure} {w' : World} (h : w.provider? i = some (.pending r))
      (hfollow : followRecipe (asking depth) i r w = (.error e, w')) (hsettles : Settles w w') :
      Serving depth i insists w (.error e, w')
  | gives {r r' : Recipe} {result : Option Provided} {w' : World}
      (h : w.provider? i = some (.pending r))
      (hfollow : followRecipe (asking depth) i r w = (.ok result, w')) (hsettles : Settles w w')
      (hleft : Recipe.Left r r') : Serving depth i insists w (.ok result, w'.concluded i r' result)

theorem serving (hask : ∀ j insists, (asking depth j insists).Keeps Settles) (i : Interface)
    (insists : Bool) (w : World) :
    Serving depth i insists w (serve (asking depth) i insists w) := by
  rcases hp : w.provider? i with _ | object | r | ⟨r, object⟩
  · rw [serve_none hp]
    exact .absent hp
  · rw [serve_holds hp (.inl rfl)]
    exact .holds hp (.inl rfl)
  · have hsettles := settles_followRecipe hask hp
    rcases hfollow : followRecipe (asking depth) i r w with ⟨e | result, w'⟩
    all_goals rw [hfollow] at hsettles
    · rw [serve_fails hp hfollow]
      exact .fails hp hfollow hsettles
    · rcases hsettles.goes hp with ⟨p', hp', hgoes⟩
      rcases hgoes.recipe? with ⟨r', hr', hleft⟩
      rw [serve_gives hp hfollow hp' hr']
      exact .gives hp hfollow hsettles hleft
  · rw [serve_holds hp (.inr ⟨r, rfl⟩)]
    exact .holds hp (.inr ⟨r, rfl⟩)

/-- Asking for a service may make it, and others on the way. -/
theorem settles_serve (hask : ∀ j insists, (asking depth j insists).Keeps Settles)
    (i : Interface) (insists : Bool) : (serve (asking depth) i insists).Keeps Settles := by
  intro w
  have hserving := serving hask i insists w
  generalize serve (asking depth) i insists w = x at hserving
  cases hserving with
  | absent => exact settles_opened w
  | holds => exact Std.Refl.refl w
  | fails _ _ hsettles => exact hsettles
  | @gives r r' result w' hp hfollow hsettles hleft =>
      cases result with
      | none => exact hsettles.withProvider hp (.left hleft)
      | some object =>
          have hrecord := (sameServices_record (.finishedRecipe i) w').settles
          exact (hsettles.trans hrecord).withProvider hp
            (.made ⟨depth, r, w, w', .refl r, hfollow⟩ hleft)

theorem settles_asking (depth : Nat) (i : Interface) (insists : Bool) :
    (asking depth i insists).Keeps Settles := by
  induction depth generalizing i insists with
  | zero => exact .throw _
  | succ depth ih => exact settles_serve ih i insists

end Settling

section Unregistered

/-! ## Failures for want of a registration -/

variable {i : Interface}

/-- A method fails for want of a service only if asking does. -/
theorem Method.follow_ne_unregistered {depth : Nat}
    (hask : ∀ w : World, (w.provider? i).isSome → ∀ j insists,
      (asking depth j insists w).1 ≠ .error (.unregistered i))
    (method : Method) {w : World} (h : (w.provider? i).isSome) :
    (method.follow (asking depth) w).1 ≠ .error (.unregistered i) := by
  induction method generalizing w with
  | gives result => exact fun h => nomatch h
  | fails trouble => cases trouble <;> exact fun h => nomatch h
  | asks j insists catches next ih =>
      have hsome := (settles_asking depth j insists w).isSome h
      unfold Method.follow
      rw [bind_ok (attempt_apply _ w)]
      cases hrun : (asking depth j insists w).1 with
      | ok found => exact ih _ hsome
      | error e =>
          dsimp only
          split
          · exact ih _ hsome
          · rintro ⟨rfl⟩
            exact hask w h j insists hrun

theorem followRecipe_ne_unregistered {depth : Nat}
    (hask : ∀ w : World, (w.provider? i).isSome → ∀ j insists,
      (asking depth j insists w).1 ≠ .error (.unregistered i))
    (j : Interface) (r : Recipe) {w : World} (h : (w.provider? i).isSome) :
    (followRecipe (asking depth) j r w).1 ≠ .error (.unregistered i) := by
  cases r with
  | launcherLog config =>
      rw [followRecipe_launcherLog_fst, openLogger_fst]
      split
      · cases w.host.refusal <;> exact fun h => nomatch h
      · exact fun h => nomatch h
  | methods method times =>
      rw [followRecipe_methods]
      refine (method times).follow_ne_unregistered hask ?_
      rw [provider?_following]
      split
      · rfl
      · exact h

theorem serve_ne_unregistered {depth : Nat}
    (hask : ∀ w : World, (w.provider? i).isSome → ∀ j insists,
      (asking depth j insists w).1 ≠ .error (.unregistered i))
    (j : Interface) (insists : Bool) {w : World} (h : (w.provider? i).isSome) :
    (serve (asking depth) j insists w).1 ≠ .error (.unregistered i) := by
  rcases hp : w.provider? j with _ | object | r | ⟨r, object⟩
  · rw [serve_none hp]
    cases insists with
    | false => exact fun h => nomatch h
    | true =>
        rintro ⟨rfl⟩
        rw [hp] at h
        cases h
  · rw [serve_holds hp (.inl rfl)]
    exact fun h => nomatch h
  · rw [serve_fst_pending hp]
    exact followRecipe_ne_unregistered hask j r h
  · rw [serve_holds hp (.inr ⟨r, rfl⟩)]
    exact fun h => nomatch h

/-- Where a service is registered, nothing fails because it is not: what is registered stays so
    while recipes are followed. -/
theorem asking_ne_unregistered (depth : Nat) (w : World) (h : (w.provider? i).isSome)
    (j : Interface) (insists : Bool) :
    (asking depth j insists w).1 ≠ .error (.unregistered i) := by
  induction depth generalizing w j insists with
  | zero => exact fun h => nomatch h
  | succ depth ih => exact serve_ne_unregistered (fun w h j insists => ih w h j insists) j insists h

end Unregistered

/-! ## Bootstrap -/

section Bootstrap

variable {load : WorldAct Settings} {w w' : World}

theorem bootstrap_of_initialized (h : w.isInitialized = true) :
    ∃ c, bootstrap load w = (.ok c, w.opened) := by
  rcases currentContainer_eq w with ⟨c, hcurrent, -, hinit, -⟩
  refine ⟨c, ?_⟩
  unfold bootstrap
  rw [bind_ok hcurrent, bind_ok (get_apply _), if_pos (hinit.trans h)]
  rfl

theorem bootstrap_of_error {e : Failure} (h : w.isInitialized = false)
    (hload : load w.opened = (.error e, w')) : bootstrap load w = (.error e, w') := by
  rcases currentContainer_eq w with ⟨c, hcurrent, -, hinit, -⟩
  unfold bootstrap
  rw [bind_ok hcurrent, bind_ok (get_apply _), if_neg (by rw [hinit, h]; exact Bool.false_ne_true)]
  exact bind_error hload

/-- The settings come with a number of their own, and the logger is not made yet. -/
theorem registerCore_eq (s : Settings) (w : World) :
    ∃ u, registerCore s w = (.ok (), u) ∧ u.isInitialized = true ∧ u.container.isSome ∧
      u.past = w.past ∧ ∀ j, u.provider? j =
        if j = .logger then some (.pending (.launcherLog s.logging))
        else if j = .settings then some (.ready (.settings w.serials s)) else w.provider? j := by
  obtain ⟨w₁, hw₁⟩ : ∃ w₁ : World, w₁ = { w with serials := w.serials + 1 } := ⟨_, rfl⟩
  obtain ⟨w₂, hw₂⟩ : ∃ w₂, w₂ = w₁.withProvider .settings (.ready (.settings w.serials s)) :=
    ⟨_, rfl⟩
  obtain ⟨w₃, hw₃⟩ : ∃ w₃, w₃ = w₂.withProvider .logger (.pending (.launcherLog s.logging)) :=
    ⟨_, rfl⟩
  have hserial : newSerial w = (.ok w.serials, w₁) := by
    rw [hw₁]
    rfl
  have hrun : registerCore s w = (.ok (), { w₃ with isInitialized := true }) := by
    unfold registerCore
    rw [bind_ok hserial, bind_ok (registerProvider_apply _ _ _),
      bind_ok (registerProvider_apply _ _ _), hw₃, hw₂]
    rfl
  refine ⟨_, hrun, rfl, ?_, ?_, fun j => ?_⟩
  · change w₃.container.isSome
    rw [hw₃]
    exact container_withProvider _ _ _
  · change w₃.past = w.past
    rw [hw₃, past_withProvider, hw₂, past_withProvider, hw₁]
  · change w₃.provider? j = _
    -- The logger is registered last, and the new number is no part of what is registered.
    rw [hw₃, provider?_withProvider, hw₂, provider?_withProvider, hw₁]
    cases j <;> rfl

/-- What a bootstrap registers. -/
theorem bootstrap_of_ok {s : Settings} (h : w.isInitialized = false)
    (hload : load w.opened = (.ok s, w')) :
    ∃ c u, bootstrap load w = (.ok c, u) ∧ u.isInitialized = true ∧ u.container.isSome ∧
      u.past = w'.past ∧ ∀ j, u.provider? j =
        if j = .logger then some (.pending (.launcherLog s.logging))
        else if j = .settings then some (.ready (.settings w'.serials s)) else w'.provider? j := by
  rcases currentContainer_eq w with ⟨c, hcurrent, -, hinit, -⟩
  rcases registerCore_eq s w' with ⟨u, hcore, hu⟩
  refine ⟨c, u, ?_, hu⟩
  unfold bootstrap
  rw [bind_ok hcurrent, bind_ok (get_apply _), if_neg (by rw [hinit, h]; exact Bool.false_ne_true),
    bind_ok hload, bind_ok hcore]
  rfl

end Bootstrap

end ServerLaunch
