import ServerLaunch.Proofs.Needs

/-!
# How Often Something Is Made

A recipe that made something is not followed again.

The history tells what was made, and the registrations tell what is there. For a service whose
recipe does not lead back to it the two keep the same count: something is made whenever its
registration turns from pending to made, and at no other time, since it is kept before anybody
else can ask. So this happens once at most. A recipe that leads back to its own service may be
followed to its end while it is being followed, and then comes to its own end as well.

Whether a recipe leads back may change while others are followed, but only one way: a
recipe that is used up or done leads to nothing new. That is why the count goes along with the
way registrations settle, and can be carried from one world to the next.

## Main definitions

* `World.completions`: How often something was made for an interface.
* `World.hasMade`: Something that was made is registered.
* `World.Tallies`: The two keep the same count.

## Theorems

* `Settles.needsFurther`: Recipes lead to ever less.
* `tallies_serve`: What is made for those who ask.
* `tallies_loadSettings`: Loading settings may want the registered logger for a message.
-/

namespace ServerLaunch

open Act World

/-- A recipe of an interface made something. -/
def Event.finishes (i : Interface) : Event → Bool
  | .finishedRecipe j => j == i
  | _ => false

namespace World

/-- How often something was made for an interface. -/
def completions (w : World) (i : Interface) : Nat :=
  w.past.countP (Event.finishes i)

/-- Whether a recipe of an interface made what is registered. -/
def hasMade (w : World) (i : Interface) : Bool :=
  match w.provider? i with
  | some (.made _ _) => true
  | _ => false

/-- Registrations settle, and something is made for each that does not lead back to itself as
    often as it turns to made. -/
structure Tallies (w w' : World) : Prop where
  settles : Settles w w'
  tally : ∀ i, ¬ w.NeedsFurther i i →
    w'.completions i + (w.hasMade i).toNat = w.completions i + (w'.hasMade i).toNat

variable {w w' w'' : World} {i : Interface}

/-- What a recipe leads to can only become less. -/
theorem Settles.needsFurther {j : Interface} (h : Settles w w') (hneeds : w'.NeedsFurther i j) :
    w.NeedsFurther i j := by
  induction hneeds with
  | single hasks => exact .single (h.asksFor hasks)
  | tail _ hasks ih => exact ih.tail (h.asksFor hasks)

theorem hasMade_congr (h : w'.provider? i = w.provider? i) : w'.hasMade i = w.hasMade i := by
  unfold hasMade
  rw [h]

/-- A history that goes on without anything made. -/
theorem completions_of_onward {kind : Event → Bool} (hkind : ∀ e, kind e → e.finishes i = false)
    (h : Onward kind w w') : w'.completions i = w.completions i := by
  rcases h.past with ⟨es, hpast, hes⟩
  have hnone : es.countP (Event.finishes i) = 0 :=
    List.countP_eq_zero.mpr fun e he => by rw [hkind e (hes e he)]; exact Bool.false_ne_true
  rw [completions, hpast, List.countP_append, hnone, Nat.zero_add]
  rfl

/-- What is done without a trace makes nothing. -/
theorem completions_of_quiet (h : Onward (fun _ => false) w w') :
    w'.completions i = w.completions i :=
  completions_of_onward (fun _ hkind => absurd hkind Bool.false_ne_true) h

theorem completions_withProvider (w : World) (i j : Interface) (p : Provider) :
    (w.withProvider i p).completions j = w.completions j :=
  completions_of_quiet (keeps_registerProvider i p w)

theorem completions_opened (w : World) (i : Interface) :
    w.opened.completions i = w.completions i :=
  completions_of_quiet (keeps_currentContainer w)

/-- Something is made once when a recipe was followed to the end, -/
theorem completions_concluded (w : World) (i j : Interface) (r : Recipe)
    (result : Option Provided) : (w.concluded i r result).completions j
      = w.completions j + if i = j then result.isSome.toNat else 0 := by
  cases result with
  | none =>
      rw [concluded, completions_withProvider]
      exact (Nat.add_eq_left.mpr (ite_self 0)).symm
  | some object =>
      have hcount : (w.record (.finishedRecipe i)).completions j
          = w.completions j + if (i == j) = true then 1 else 0 := List.countP_cons
      rw [concluded, completions_withProvider, hcount]
      by_cases hij : i = j
      · rw [if_pos hij, if_pos (beq_iff_eq.mpr hij)]
        rfl
      · rw [if_neg hij, if_neg (fun h => hij (beq_iff_eq.mp h))]

/-- and then it is kept. -/
theorem hasMade_concluded (w : World) (i j : Interface) (r : Recipe)
    (result : Option Provided) :
    (w.concluded i r result).hasMade j = if i = j then result.isSome else w.hasMade j := by
  unfold hasMade
  rw [provider?_concluded]
  by_cases hij : i = j
  · rw [if_pos hij, if_pos hij]
    cases result <;> rfl
  · rw [if_neg hij, if_neg hij]

theorem hasMade_of_pending {r : Recipe} (h : w.provider? i = some (.pending r)) :
    w.hasMade i = false := by
  rw [hasMade, h]

namespace Tallies

theorem of_same (h : Settles w w') (hmade : ∀ i, w'.hasMade i = w.hasMade i)
    (hcompletions : ∀ i, w'.completions i = w.completions i) : Tallies w w' :=
  ⟨h, fun i _ => by rw [hmade, hcompletions]⟩

theorem trans (h : Tallies w w') (h' : Tallies w' w'') : Tallies w w'' := by
  -- What does not lead back at first does not do so later either.
  refine ⟨h.settles.trans h'.settles, fun i hself => ?_⟩
  have hfirst := h.tally i hself
  have hsecond := h'.tally i fun hneeds => hself (h.settles.needsFurther hneeds)
  omega

instance : Std.Refl Tallies := ⟨fun w => ⟨Std.Refl.refl w, fun _ _ => rfl⟩⟩

instance : IsTrans World Tallies := ⟨fun _ _ _ => trans⟩

end Tallies

/-- What neither registers nor makes anything. -/
theorem SameServices.tallies {kind : Event → Bool} (h : SameServices w w')
    (hkind : ∀ e i, kind e → e.finishes i = false) (honward : Onward kind w w') : Tallies w w' :=
  .of_same h.settles (fun i => hasMade_congr (h.provider?_eq i))
    fun i => completions_of_onward (fun e => hkind e i) honward

end World

/-! ## Following recipes -/

section Following

variable {w : World} {i : Interface} {r : Recipe} {depth : Nat}

theorem Event.finishes_of_isOpening {e : Event} (i : Interface) (h : e.isOpening) :
    e.finishes i = false := by
  cases e <;> first | rfl | cases h

theorem Event.finishes_of_isMessage {e : Event} (i : Interface) (h : e.isMessage) :
    e.finishes i = false := by
  cases e <;> first | rfl | cases h

theorem tallies_opened (w : World) : Tallies w w.opened :=
  .of_same (settles_opened w) (fun i => hasMade_congr (provider?_opened w i))
    (completions_opened w)

theorem tallies_followRecipe (hask : ∀ j insists, (asking depth j insists).Keeps Tallies)
    (hp : w.provider? i = some (.pending r)) :
    Tallies w (followRecipe (asking depth) i r w).2 := by
  cases r with
  | launcherLog config =>
      rw [followRecipe_launcherLog_snd]
      exact (sameServices_openLogger config launcherName w).tallies
        (fun _ i => Event.finishes_of_isOpening i) (keeps_openLogger config launcherName w)
  | methods method times =>
      have hbegun : Tallies w (w.following i method times) := by
        refine .of_same (settles_following hp) (fun j => ?_) fun j => ?_
        · unfold hasMade
          rw [provider?_following]
          by_cases hij : i = j
          · rw [if_pos hij, ← hij, hp]
          · rw [if_neg hij]
        · exact completions_withProvider _ i j _
      rw [followRecipe_methods]
      exact hbegun.trans (Method.keeps_follow hask (method times) _)

/-- What a recipe makes counts once, when it is kept. -/
theorem tallies_serve (hask : ∀ j insists, (asking depth j insists).Keeps Tallies)
    (i : Interface) (insists : Bool) : (serve (asking depth) i insists).Keeps Tallies := by
  intro w
  have hsettles := settles_serve (settles_asking depth) i insists w
  have hserving := serving (settles_asking depth) i insists w
  generalize serve (asking depth) i insists w = x at hserving hsettles
  cases hserving with
  | absent => exact tallies_opened w
  | holds => exact Std.Refl.refl w
  | fails hp hrun =>
      have hfollow := tallies_followRecipe hask hp
      rwa [hrun] at hfollow
  | @gives r r' result w' hp hrun =>
      have hfollow := tallies_followRecipe hask hp
      have hframe : ¬ w.NeedsFurther i i → ∃ r', Recipe.Left r r' ∧
        (followRecipe (asking depth) i r w).2.provider? i = some (.pending r') :=
          followRecipe_pending hp
      rw [hrun] at hfollow hframe
      refine ⟨hsettles, fun j hself => ?_⟩
      have htally := hfollow.tally j hself
      rw [completions_concluded, hasMade_concluded]
      by_cases hij : i = j
      · subst hij
        -- The recipe does not lead back, so nothing was made while it was followed.
        rcases hframe hself with ⟨r'', -, hpending⟩
        have hnone : w'.completions i = w.completions i := by
          rwa [hasMade_of_pending hp, hasMade_of_pending hpending] at htally
        rw [if_pos rfl, if_pos rfl, hasMade_of_pending hp, hnone]
        rfl
      · rwa [if_neg hij, if_neg hij]

theorem tallies_asking (depth : Nat) (i : Interface) (insists : Bool) :
    (asking depth i insists).Keeps Tallies := by
  induction depth generalizing i insists with
  | zero => exact .throw _
  | succ depth ih => exact tallies_serve ih i insists

end Following

/-! ## Loading settings -/

theorem tallies_newSerial : newSerial.Keeps Tallies := fun w =>
  .of_same (sameServices_newSerial w).settles (fun _ => rfl) fun _ => rfl

theorem tallies_registeredLogger : registeredLogger.Keeps Tallies := by
  refine Keeps.bind (Keeps.bind .get fun _ => tallies_serve (tallies_asking _) .logger false)
    fun found => ?_
  cases found with
  | none => exact Keeps.bind tallies_newSerial fun _ => .pure _
  | some object => exact .pure _

theorem tallies_asLogger (object : Provided) : (asLogger object).Keeps Tallies := by
  cases object with
  | logger l => exact .pure _
  | _ => exact .throw _

theorem tallies_noteRegistered (level : LogLevel) (message : String) :
    (noteRegistered level message).Keeps Tallies :=
  Keeps.bind tallies_registeredLogger fun object => Keeps.bind (tallies_asLogger object) fun l =>
    fun w => (sameServices_log l .launcher level message w).tallies
      (fun _ i => Event.finishes_of_isMessage i) (l.keeps_log .launcher level message w)

/-- While settings are loaded the registered logger may be made for a message. -/
theorem tallies_loadSettings (path : Option Path) (start : Option String) :
    (loadSettings path start).Keeps Tallies :=
  keeps_loadSettings tallies_noteRegistered path start

end ServerLaunch
