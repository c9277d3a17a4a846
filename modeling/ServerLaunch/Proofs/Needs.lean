import Mathlib.Logic.Relation
import ServerLaunch.Proofs.Registrations

/-!
# What a Service Needs

Which registrations have to do with each other.

A recipe may ask for other services while it is followed, and these may have recipes that ask for
more. So what asking for one service comes to is not up to its registration alone, and it may
change others. Both are bounded by what the methods of the recipes may ask for at all, whatever
answers they get. `World.Needs` collects that, and it is all that has to be known about a service:
nothing else is changed by asking for it, and nothing else matters to the answer.

Both facts are shown for any set of interfaces that is closed, that is, from which no pending
recipe leads out. The set is a parameter and not computed, since a recipe that is followed also
needs the bound without the interface that it is for: what it asks for may or may not lead back.

To the second fact there is one exception, a logger that has yet to be opened. It gets a number
that no other object has, and which one is up to all that happened before.

## Main definitions

* `Method.MayAsk`, `Recipe.MayAsk`: What may be asked for.
* `World.AsksFor`, `World.Needs`: A service that is needed for another one.
* `World.Closed`: Interfaces from which no pending recipe leads out.
* `World.Agree`: Two worlds that have the same registrations there.

## Theorems

* `serve_frame`: What is not needed is left alone.
* `serve_pending`: A recipe that does not need itself, and makes nothing.
* `serve_agree`: What is not needed does not matter.
-/

namespace ServerLaunch

open Act World

variable {S : Interface → Prop} {w w' : World} {i j k : Interface} {depth : Nat}

/-! ## Asking -/

/-- A method may ask for a service, depending on the answers that it gets before. -/
inductive Method.MayAsk (j : Interface) : Method → Prop where
  | now {insists : Bool} {catches : Failure → Bool}
      {next : Except Failure (Option Provided) → Method} :
      MayAsk j (.asks j insists catches next)
  | later {i : Interface} {insists : Bool} {catches : Failure → Bool}
      {next : Except Failure (Option Provided) → Method}
      {answer : Except Failure (Option Provided)} (h : MayAsk j (next answer)) :
      MayAsk j (.asks i insists catches next)

/-- A recipe may ask for a service in one of its methods. -/
def Recipe.MayAsk (j : Interface) : Recipe → Prop
  | .launcherLog _ => False
  | .methods method _ => ∃ times, (method times).MayAsk j

theorem Recipe.Left.mayAsk_iff {r r' : Recipe} (h : Recipe.Left r r') :
    r'.MayAsk j ↔ r.MayAsk j := by
  cases h <;> exact Iff.rfl

namespace World

/-- A service is pending with a recipe that may ask for another one. -/
def AsksFor (w : World) (i j : Interface) : Prop :=
  ∃ r, w.provider? i = some (.pending r) ∧ r.MayAsk j

/-- What asking for a service may make, the service itself included. -/
def Needs (w : World) : Interface → Interface → Prop :=
  Relation.ReflTransGen w.AsksFor

/-- What the recipe of a service may make be followed; the service itself only if it leads
    back. -/
def NeedsFurther (w : World) : Interface → Interface → Prop :=
  Relation.TransGen w.AsksFor

/-- No pending recipe of these interfaces asks for any other. -/
def Closed (w : World) (S : Interface → Prop) : Prop :=
  ∀ i j, S i → w.AsksFor i j → S j

theorem closed_needs (w : World) (i : Interface) : w.Closed (w.Needs i) :=
  fun _ _ h hasks => h.tail hasks

theorem closed_needsFurther (w : World) (i : Interface) : w.Closed (w.NeedsFurther i) :=
  fun _ _ h hasks => h.tail hasks

/-- The recipe of the launcher's own logger asks for nothing. -/
theorem not_needsFurther {config : LoggingConfig}
    (h : w.provider? i = some (.pending (.launcherLog config))) (j : Interface) :
    ¬ w.NeedsFurther i j := by
  intro hneeds
  rcases Relation.TransGen.head'_iff.mp hneeds with ⟨k, ⟨r, hr, hmay⟩, -⟩
  cases h.symm.trans hr
  exact hmay

/-- Recipes that are used up or done ask for nothing new. -/
theorem Settles.asksFor (h : Settles w w') (hasks : w'.AsksFor i j) : w.AsksFor i j := by
  rcases hasks with ⟨r', hr', hmay⟩
  have hrel := h.providers i
  rw [hr'] at hrel
  generalize hp : w.provider? i = p at hrel
  cases hrel with
  | some hgoes =>
      cases hgoes with
      | same => exact ⟨r', hp, hmay⟩
      | left hleft => exact ⟨_, hp, hleft.mayAsk_iff.mp hmay⟩

theorem Closed.settles (hclosed : w.Closed S) (h : Settles w w') : w'.Closed S :=
  fun i j hi hasks => hclosed i j hi (h.asksFor hasks)

end World

theorem settles_following {method : Nat → Method} {times : Nat}
    (h : w.provider? i = some (.pending (.methods method times))) :
    Settles w (w.following i method times) :=
  (sameServices_record (.followedRecipe i) w).settles.withProvider h
    (.left (.methods method (Nat.le_succ times)))

/-- Two worlds with the same registrations under some interfaces. If their numbers differ, no
    logger is pending there. -/
structure World.Agree (S : Interface → Prop) (numbered : Prop) (w w' : World) : Prop where
  host : w'.host = w.host
  containers : w.container.isSome ∧ w'.container.isSome
  providers : ∀ i, S i → w'.provider? i = w.provider? i
  serials : numbered → w'.serials = w.serials
  noLogger : ¬ numbered → ∀ i, S i → ∀ config, w.provider? i ≠ some (.pending (.launcherLog config))

/-! ## What is left alone -/

section Frame

variable (hask : ∀ w : World, w.Closed S → ∀ j insists, S j →
  (asking depth j insists w).2.provider? k = w.provider? k)

include hask

/-- A method changes what asking for services changes. -/
theorem Method.follow_frame (method : Method) (hmethod : ∀ j, method.MayAsk j → S j) {w : World}
    (hclosed : w.Closed S) :
    (method.follow (asking depth) w).2.provider? k = w.provider? k := by
  -- Recipes only get shorter while something is asked for, so the set stays closed for the rest.
  induction method generalizing w with
  | gives result => rfl
  | fails trouble => rfl
  | asks j insists catches next ih =>
      have hasked := hask w hclosed j insists (hmethod j .now)
      have hclosed' := hclosed.settles (settles_asking depth j insists w)
      have hnext : ∀ answer, ((next answer).follow (asking depth)
          (asking depth j insists w).2).2.provider? k = w.provider? k := fun answer =>
        (ih answer (fun j' h => hmethod j' (.later h)) hclosed').trans hasked
      unfold Method.follow
      rw [bind_ok (attempt_apply _ w)]
      cases (asking depth j insists w).1 with
      | ok found => exact hnext _
      | error e =>
          dsimp only
          split
          · exact hnext _
          · exact hasked

/-- A recipe changes its own registration, which it uses up, and what it may ask for. -/
theorem followRecipe_frame {r : Recipe} (hp : w.provider? i = some (.pending r))
    (hrecipe : ∀ j, r.MayAsk j → S j) (hclosed : w.Closed S) :
    (followRecipe (asking depth) i r w).2.provider? k = w.provider? k ∨
      i = k ∧ ∃ r', Recipe.Left r r' ∧
        (followRecipe (asking depth) i r w).2.provider? k = some (.pending r') := by
  cases r with
  | launcherLog config =>
      exact .inl ((sameServices_followRecipe_launcherLog _ i config w).provider?_eq k)
  | methods method times =>
      have hframe := (method times).follow_frame hask (fun j h => hrecipe j ⟨times, h⟩)
        (hclosed.settles (settles_following hp))
      rw [followRecipe_methods, hframe, provider?_following]
      by_cases hik : i = k
      · rw [if_pos hik]
        exact .inr ⟨hik, _, .methods method (Nat.le_succ times), rfl⟩
      · rw [if_neg hik]
        exact .inl rfl

/-- What is not needed for a service is left alone. -/
theorem serve_frame (hclosed : w.Closed S) (hi : S i) (hk : ¬ S k) (insists : Bool) :
    (serve (asking depth) i insists w).2.provider? k = w.provider? k := by
  have hik : i ≠ k := fun h => hk (h ▸ hi)
  have hfollow : ∀ r, w.provider? i = some (.pending r) →
      (followRecipe (asking depth) i r w).2.provider? k = w.provider? k := fun r hp =>
    (followRecipe_frame hask hp (fun j h => hclosed i j hi ⟨r, hp, h⟩) hclosed).resolve_right
      fun h => hik h.1
  have hserving := serving (settles_asking depth) i insists w
  generalize serve (asking depth) i insists w = x at hserving
  cases hserving with
  | absent => exact provider?_opened w k
  | holds => rfl
  | fails hp hrun => exact (congrArg (fun x => x.2.provider? k) hrun).symm.trans (hfollow _ hp)
  | gives hp hrun =>
      rw [provider?_concluded, if_neg hik]
      exact (congrArg (fun x => x.2.provider? k) hrun).symm.trans (hfollow _ hp)

end Frame

theorem asking_frame (hk : ¬ S k) (hclosed : w.Closed S) (hi : S i) (depth : Nat)
    (insists : Bool) : (asking depth i insists w).2.provider? k = w.provider? k := by
  -- What is asked for at one depth asks in its turn one depth below, in another world.
  induction depth generalizing w i insists with
  | zero => rfl
  | succ depth ih => exact serve_frame (fun w h j b hj => ih h hj b) hclosed hi hk insists

/-- A service whose recipe does not lead back to it is still pending once that was followed, -/
theorem followRecipe_pending {r : Recipe} (hp : w.provider? i = some (.pending r))
    (hself : ¬ w.NeedsFurther i i) : ∃ r', Recipe.Left r r' ∧
      (followRecipe (asking depth) i r w).2.provider? i = some (.pending r') := by
  -- The bound is what the recipe leads to, and by assumption the service itself is not in it.
  have hask : ∀ u : World, u.Closed (w.NeedsFurther i) → ∀ j insists, w.NeedsFurther i j →
      (asking depth j insists u).2.provider? i = u.provider? i :=
    fun u h j insists hj => asking_frame hself h hj depth insists
  exact (followRecipe_frame hask hp (fun j h => .single ⟨r, hp, h⟩)
    (closed_needsFurther w i)).elim (fun h => ⟨r, .refl r, h.trans hp⟩) And.right

/-- and remains so if nothing was made. -/
theorem serve_pending {r : Recipe} (hp : w.provider? i = some (.pending r))
    (hself : ¬ w.NeedsFurther i i) (insists : Bool)
    (hnot : ∀ object, (serve (asking depth) i insists w).1 ≠ .ok (some object)) :
    ∃ r', Recipe.Left r r' ∧
      (serve (asking depth) i insists w).2.provider? i = some (.pending r') := by
  obtain ⟨r', hleft, hafter⟩ : ∃ r', Recipe.Left r r' ∧
    (followRecipe (asking depth) i r w).2.provider? i = some (.pending r') :=
      followRecipe_pending hp hself
  rcases hrun : followRecipe (asking depth) i r w with ⟨e | result, w'⟩
  all_goals rw [hrun] at hafter
  · rw [serve_fails hp hrun]
    exact ⟨r', hleft, hafter⟩
  · rw [serve_gives hp hrun hafter rfl] at hnot ⊢
    cases result with
    | some object => exact absurd rfl (hnot object)
    | none => exact ⟨r', hleft, by rw [provider?_concluded, if_pos rfl]; rfl⟩

/-! ## What matters -/

namespace World

theorem opened_of_isSome (h : w.container.isSome) : w.opened = w := by
  rcases Option.isSome_iff_exists.mp h with ⟨c, hc⟩
  exact opened_of_some hc

theorem serials_withProvider (h : w.container.isSome) (i : Interface) (p : Provider) :
    (w.withProvider i p).serials = w.serials := by
  rcases registerProvider_eq w i p with ⟨-, c, hw, -⟩
  rw [hw, opened_of_isSome h]

theorem serials_following (h : w.container.isSome) (i : Interface) (method : Nat → Method)
    (times : Nat) : (w.following i method times).serials = w.serials :=
  @serials_withProvider (w.record (.followedRecipe i)) h i _

theorem serials_concluded (h : w.container.isSome) (i : Interface) (r : Recipe)
    (result : Option Provided) : (w.concluded i r result).serials = w.serials := by
  cases result with
  | none => exact serials_withProvider h i _
  | some object => exact @serials_withProvider (w.record (.finishedRecipe i)) h i _

theorem host_withProvider (w : World) (i : Interface) (p : Provider) :
    (w.withProvider i p).host = w.host := by
  have honward : Onward Event.isLogging w (w.withProvider i p) := keeps_registerProvider i p w
  exact honward.host

/-- Nothing is pending that was not, so a logger is pending only where it was. -/
theorem Settles.pending_launcherLog (h : Settles w w') {config : LoggingConfig}
    (hp : w'.provider? i = some (.pending (.launcherLog config))) :
    w.provider? i = some (.pending (.launcherLog config)) := by
  have hrel := h.providers i
  rw [hp] at hrel
  generalize w.provider? i = p at hrel
  cases hrel with
  | some hgoes =>
      cases hgoes with
      | same => rfl
      | left hleft => cases hleft; rfl

variable {numbered : Prop}

/-- Worlds that settle go on to agree if their registrations and their numbers do. -/
theorem Agree.settles {u u' : World} (h : Agree S numbered w w') (hu : Settles w u)
    (hu' : Settles w' u') (hhost : u.host = w.host) (hhost' : u'.host = w'.host)
    (hproviders : ∀ i, S i → u'.provider? i = u.provider? i)
    (hserials : numbered → u'.serials = u.serials) : Agree S numbered u u' where
  host := by rw [hhost', hhost, h.host]
  containers := ⟨hu.container h.containers.1, hu'.container h.containers.2⟩
  providers := hproviders
  serials := hserials
  noLogger := fun hno i hi config hp => h.noLogger hno i hi config (hu.pending_launcherLog hp)

/-- Two ends with the same outcome in worlds that agree. -/
structure AgreeAtEnd (S : Interface → Prop) (numbered : Prop)
    (x y : Except Failure (Option Provided) × World) : Prop where
  outcome : y.1 = x.1
  world : Agree S numbered x.2 y.2

end World

/-- A logger that is opened takes a number, unless that is refused. -/
theorem openLogger_serials (config : LoggingConfig) (name : String) (w : World) :
    (openLogger config name w).2.serials =
      if config.file = true ∧ w.host.refusal.isSome then w.serials else w.serials + 1 := by
  obtain ⟨u, hopen, hhost, hserials⟩ : ∃ u, openChannel (channelName name) config none w =
      (.ok (), u) ∧ u.host = w.host ∧ u.serials = w.serials := ⟨_, rfl, rfl, rfl⟩
  unfold openLogger
  rw [bind_ok hopen, ← hhost, ← hserials]
  cases config.file with
  | false => rfl
  | true =>
      rw [if_pos rfl, bind_ok (get_apply u)]
      cases h : u.host.refusal with
      | none =>
          rw [bind_ok (makeDirectory_of_allowed h _)]
          rfl
      | some text =>
          rw [bind_error (makeDirectory_of_refused h _)]
          rfl

section Agreement

variable {numbered : Prop}
variable (hask : ∀ w w' : World, w.Closed S → Agree S numbered w w' → ∀ j insists, S j →
  AgreeAtEnd S numbered (asking depth j insists w) (asking depth j insists w'))

include hask

/-- A method goes on in the same way after the same answers. -/
theorem Method.follow_agree (method : Method) (hmethod : ∀ j, method.MayAsk j → S j)
    {w w' : World} (hclosed : w.Closed S) (h : Agree S numbered w w') :
    AgreeAtEnd S numbered (method.follow (asking depth) w) (method.follow (asking depth) w') := by
  induction method generalizing w w' with
  | gives result => exact ⟨rfl, h⟩
  | fails trouble => exact ⟨rfl, h⟩
  | asks j insists catches next ih =>
      have hasked := hask w w' hclosed h j insists (hmethod j .now)
      have hclosed' := hclosed.settles (settles_asking depth j insists w)
      have hnext := fun answer => ih answer (fun j' h => hmethod j' (.later h)) hclosed'
        hasked.world
      unfold Method.follow
      rw [bind_ok (attempt_apply _ w), bind_ok (attempt_apply _ w'), hasked.outcome]
      cases (asking depth j insists w).1 with
      | ok found => exact hnext _
      | error e =>
          dsimp only
          split
          · exact hnext _
          · exact ⟨rfl, hasked.world⟩

theorem followRecipe_agree {r : Recipe} (hclosed : w.Closed S) (h : Agree S numbered w w')
    (hi : S i) (hp : w.provider? i = some (.pending r)) :
    AgreeAtEnd S numbered (followRecipe (asking depth) i r w)
      (followRecipe (asking depth) i r w') := by
  have hp' := (h.providers i hi).trans hp
  cases r with
  | launcherLog config =>
      -- A logger is opened, so the worlds have the same numbers.
      have hnumbered : numbered := by
        by_contra hno
        exact h.noLogger hno i hi config hp
      have hserials := h.serials hnumbered
      have hsame := sameServices_followRecipe_launcherLog (asking depth) i config
      have hhost := fun w =>
        (keeps_followRecipe (keeps_asking depth) i (.launcherLog config) w).host
      refine ⟨?_, h.settles (hsame w).settles (hsame w').settles (hhost w) (hhost w')
        (fun j hj => ?_) fun _ => ?_⟩
      · rw [followRecipe_launcherLog_fst, followRecipe_launcherLog_fst, openLogger_fst,
          openLogger_fst, h.host, hserials]
      · rw [(hsame w').provider?_eq, (hsame w).provider?_eq, h.providers j hj]
      · rw [followRecipe_launcherLog_snd, followRecipe_launcherLog_snd, openLogger_serials,
          openLogger_serials, h.host, hserials]
  | methods method times =>
      rw [followRecipe_methods, followRecipe_methods]
      have hrecipe : ∀ j, (method times).MayAsk j → S j :=
        fun j hmay => hclosed i j hi ⟨_, hp, times, hmay⟩
      refine (method times).follow_agree hask hrecipe (hclosed.settles (settles_following hp)) ?_
      refine h.settles (settles_following hp) (settles_following hp') (host_withProvider _ _ _)
        (host_withProvider _ _ _) (fun j hj => ?_) fun hnumbered => ?_
      · rw [provider?_following, provider?_following, h.providers j hj]
      · rw [serials_following h.containers.1, serials_following h.containers.2,
          h.serials hnumbered]

/-- Whatever is not needed for a service does not matter. -/
theorem serve_agree (hclosed : w.Closed S) (h : Agree S numbered w w') (hi : S i)
    (insists : Bool) :
    AgreeAtEnd S numbered (serve (asking depth) i insists w)
      (serve (asking depth) i insists w') := by
  have hpi := h.providers i hi
  rcases hp : w.provider? i with _ | object | r | ⟨r, object⟩
  all_goals rw [hp] at hpi
  · rw [serve_none hp, serve_none hpi, opened_of_isSome h.containers.1,
      opened_of_isSome h.containers.2]
    exact ⟨rfl, h⟩
  · rw [serve_holds hp (.inl rfl), serve_holds hpi (.inl rfl)]
    exact ⟨rfl, h⟩
  · have hfollow := followRecipe_agree hask hclosed h hi hp
    have hsettles := settles_followRecipe (settles_asking depth) hp
    have hserve := settles_serve (settles_asking depth) i insists
    have hhost := fun w => (keeps_serve (keeps_asking depth) i insists w).host
    rcases hrun : followRecipe (asking depth) i r w with ⟨outcome, u⟩
    rcases hrun' : followRecipe (asking depth) i r w' with ⟨outcome', u'⟩
    rw [hrun] at hfollow hsettles
    rw [hrun'] at hfollow
    obtain rfl : outcome' = outcome := hfollow.outcome
    cases outcome' with
    | error e =>
        rw [serve_fails hp hrun, serve_fails hpi hrun']
        exact ⟨rfl, hfollow.world⟩
    | ok result =>
        rcases hsettles.goes hp with ⟨p, hpu, hgoes⟩
        rcases hgoes.recipe? with ⟨r', hr', -⟩
        have hpu' := (hfollow.world.providers i hi).trans hpu
        have hgives : serve (asking depth) i insists w = _ := serve_gives hp hrun hpu hr'
        have hgives' : serve (asking depth) i insists w' = _ := serve_gives hpi hrun' hpu' hr'
        have hcontainers := hfollow.world.containers
        refine ⟨by rw [hgives, hgives'], h.settles (hserve w) (hserve w') (hhost w) (hhost w')
          (fun j hj => ?_) fun hnumbered => ?_⟩
        all_goals rw [hgives, hgives']
        · rw [provider?_concluded, provider?_concluded, hfollow.world.providers j hj]
        · rw [serials_concluded hcontainers.1, serials_concluded hcontainers.2,
            hfollow.world.serials hnumbered]
  · rw [serve_holds hp (.inr ⟨r, rfl⟩), serve_holds hpi (.inr ⟨r, rfl⟩)]
    exact ⟨rfl, h⟩

end Agreement

theorem asking_agree {numbered : Prop} (hclosed : w.Closed S) (h : Agree S numbered w w')
    (hi : S i) (depth : Nat) (insists : Bool) :
    AgreeAtEnd S numbered (asking depth i insists w) (asking depth i insists w') := by
  induction depth generalizing w w' i insists with
  | zero => exact ⟨rfl, h⟩
  | succ depth ih =>
      exact serve_agree (fun w w' hc h j b hj => ih hc h hj b) hclosed h hi insists

end ServerLaunch
