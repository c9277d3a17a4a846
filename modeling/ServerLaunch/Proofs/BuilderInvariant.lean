import ServerLaunch.Proofs.BasePath

/-!
# The State of a Builder

What holds of a builder after any calls, those that failed included.

Three settings have a field of their own and flags as well: the port, the address and the log
file. If such a flag could be in the table with a value, the server would be told the setting
twice. `Builder.Sound` says that it never is, that what is in the table for the base path is
normal, that no flag is there twice, and that the port is no negative number.

Only two of the calls touch what the invariant speaks of. A flag with a value goes to its field,
if it has one, and else into the table. A build settles a port that was left open, and keeps it
even where it fails later on, so the port depends on what the host hands out. That is the one
thing that is asked of the worlds in which the calls are made.

## Main definitions

* `HasField`: Flags whose setting has a field of its own.
* `Builder.Sound`: The invariant.
* `Builder.Same`: A part of a builder stays as it is.
* `BuilderCall.performAll`: Calls one after the other, each in a world of its own.

## Theorems

* `Table.mem_put`, `Builder.isBasePath_of_mem_put`: What is in a table after something was put in.
* `Builder.addArgument_sound`: A flag keeps the invariant, wherever it ends up.
* `Builder.build_port`: The port after a build, whether or not it gives a handle.
* `BuilderCall.perform_sound`: One call keeps the invariant.
* `Builder.create_performAll_sound`: A new builder has it after any calls.
-/

namespace ServerLaunch

open Act World

/-- What is in a table after a value was put in was there before, or is that value under its
    name. -/
theorem Table.mem_put {α : Type} {table : Table α} {name : String} {a : α} {e : String × α}
    (h : e ∈ table.put name a) : e = (name, a) ∨ e ∈ table := by
  induction table with
  | nil => exact Or.inl (List.mem_singleton.mp h)
  | cons entry rest ih =>
      rcases entry with ⟨key, b⟩
      unfold put at h
      split at h
      · next hkey =>
          rcases List.mem_cons.mp h with heq | hrest
          · exact Or.inl (by rw [heq, hkey])
          · exact Or.inr (List.mem_cons_of_mem _ hrest)
      · rcases List.mem_cons.mp h with heq | hrest
        · exact Or.inr (by rw [heq]; exact List.mem_cons_self)
        · exact (ih hrest).imp_right (List.mem_cons_of_mem _)

/-- A flag that means the port, the address or the log file, for which a builder has fields. -/
def HasField (flag : String) : Prop :=
  isPortFlag flag ∨ isAddressFlag flag ∨ isLogFlag flag

instance (flag : String) : Decidable (HasField flag) :=
  inferInstanceAs (Decidable (_ ∨ _ ∨ _))

namespace Builder

/-- What holds of a builder after any calls. Under a flag with a field the table has no value,
    so the field is the only place that the setting comes from. -/
structure Sound (b : Builder) : Prop where
  port : 0 ≤ b.port
  nodup : (b.arguments.map Prod.fst).Nodup
  field : ∀ flag value, (flag, value) ∈ b.arguments → HasField flag → value = ""
  basePath : ∀ value, (basePathFlag, value) ∈ b.arguments → value = "" ∨ IsBasePath value

/-- The invariant speaks of the port and of the table alone. -/
theorem Sound.of_arguments {b b' : Builder} (h : b.Sound) (hport : 0 ≤ b'.port)
    (harguments : b'.arguments = b.arguments) : b'.Sound := by
  refine ⟨hport, ?_, ?_, ?_⟩
  · rw [harguments]
    exact h.nodup
  · rw [harguments]
    exact h.field
  · rw [harguments]
    exact h.basePath

/-- Where the values for the base path in a table are normal, they still are after one that is
    normal was put in, or any value under another name. -/
theorem isBasePath_of_mem_put {table : Table String} {flag value : String}
    (hold : ∀ value, (basePathFlag, value) ∈ table → value = "" ∨ IsBasePath value)
    (hpath : flag = basePathFlag → value = "" ∨ IsBasePath value) {value' : String}
    (hmem : (basePathFlag, value') ∈ table.put flag value) : value' = "" ∨ IsBasePath value' := by
  rcases Table.mem_put hmem with heq | hmem
  · rw [(Prod.mk.inj heq).2]
    exact hpath (Prod.mk.inj heq).1.symm
  · exact hold value' hmem

/-- A flag may be put into the table if it has no field or no value, and if it is that of the
    base path, only with a value that is normal. -/
theorem Sound.putArgument {b : Builder} {flag value : String} (h : b.Sound)
    (hfield : HasField flag → value = "")
    (hpath : flag = basePathFlag → value = "" ∨ IsBasePath value) :
    (b.putArgument flag value).Sound := by
  refine ⟨h.port, Table.nodup_put h.nodup flag value, fun flag' value' hmem => ?_,
    fun value' hmem => isBasePath_of_mem_put h.basePath hpath hmem⟩
  rcases Table.mem_put hmem with heq | hold
  · rw [(Prod.mk.inj heq).1, (Prod.mk.inj heq).2]
    exact hfield
  · exact h.field flag' value' hold

/-- A flag that is taken keeps the invariant, wherever it ends up. -/
theorem addArgument_sound {b b' : Builder} {flag : FlagName} {value : Option String}
    (h : b.Sound) (hadd : b.addArgument flag value = .ok b') : b'.Sound := by
  rcases addArgument_eq_ok hadd with ⟨_, rfl⟩ | ⟨text, _, hcase⟩
  · -- A switch has no value, whatever flag it is.
    exact h.putArgument (fun _ => rfl) fun _ => Or.inl rfl
  · rcases hcase with ⟨_, port, _, hport, rfl⟩ | ⟨_, rfl⟩ | ⟨_, rfl⟩ | ⟨hflag, path, hpath, rfl⟩ |
      ⟨hport, haddress, hlog, hflag, rfl⟩
    · exact h.of_arguments hport rfl
    · exact h.of_arguments h.port rfl
    · exact h.of_arguments h.port rfl
    · refine h.putArgument (fun hfield => ?_) fun _ => Or.inr (sanitizeBasePath_eq_ok hpath)
      rw [hflag] at hfield
      exact absurd hfield (by decide)
    · refine h.putArgument (fun hfield => ?_) fun heq => absurd heq hflag
      rcases hfield with hfield | hfield | hfield
      · exact absurd (hfield.symm.trans hport) (by decide)
      · exact absurd (hfield.symm.trans haddress) (by decide)
      · exact absurd (hfield.symm.trans hlog) (by decide)

/-- A new builder has the invariant, whatever configuration it is made from. -/
theorem ofConfig_sound {config : ServerConfig} {environment : Table String} {locator : Locator}
    {hasStream : Bool} {log : LogSource} {b : Builder}
    (h : ofConfig config environment locator hasStream log = .ok b) : b.Sound := by
  have hport : 0 ≤ config.port := by
    unfold ofConfig at h
    rcases except_bind_eq_ok.mp h with ⟨b₁, hset, _⟩
    exact (setPort_eq_ok hset).1
  rcases ofConfig_eq_ok h with ⟨b₀, hb₀, hsame | hflag⟩
  all_goals
    have hstart : b₀.Sound := by
      rw [hb₀]
      exact ⟨hport, List.nodup_nil, fun _ _ hmem => absurd hmem List.not_mem_nil,
        fun _ hmem => absurd hmem List.not_mem_nil⟩
  · rw [hsame]
    exact hstart
  · exact addArgument_sound hstart hflag

section Frames

/-! ## What a build leaves alone -/

variable {α : Type} {f : Builder → α}

/-- A part of a builder stays as it is. -/
def Same (f : Builder → α) (s t : Builder × World) : Prop :=
  f t.1 = f s.1

instance : Std.Refl (Same f) := ⟨fun _ => rfl⟩

instance : IsTrans (Builder × World) (Same f) := ⟨fun _ _ _ h h' => h'.trans h⟩

theorem same_inWorld {β : Type} (a : WorldAct β) : (inWorld a).Keeps (Same f) :=
  fun _ => rfl

theorem same_note (level : LogLevel) (message : String) : (note level message).Keeps (Same f) :=
  Keeps.bind .get fun _ => same_inWorld _

/-- Capabilities have nothing to do with the other parts. -/
theorem same_takeCapabilities
    (hf : ∀ b c quote, f { b with capabilities := c, quoteOnWindows := quote } = f b)
    (v : Value) (quote : Option Bool) : (takeCapabilities v quote).Keeps (Same f) :=
  Keeps.bind (Keeps.modify fun s => hf s.1 s.1.capabilities _) fun _ =>
    Keeps.bind (.ofExcept _) fun _ => Keeps.modify fun s => hf s.1 _ s.1.quoteOnWindows

section Searches

variable (hf : ∀ b script address, f { b with mainScript := script, address := address } = f b)
include hf

/-- Writing the arguments settles the main script and the address, and no more. -/
theorem same_buildArguments : buildArguments.Keeps (Same f) := by
  refine Keeps.bind .get fun b => Keeps.bind (same_inWorld _) fun script => ?_
  refine Keeps.bind (Keeps.modify fun s => hf s.1 _ _) fun _ => Keeps.bind .get fun b' => ?_
  exact Keeps.bind .get fun _ => Keeps.bind (.ofExcept _) fun _ => .pure _

/-- What comes of a build once the program is found settles no more than that either. -/
theorem same_buildHandle (executable : Path) : (do
    let arguments ← buildArguments
    note .debug ("Service command: " ++ executable.toText ++ " " ++ wordList arguments)
    let logger ← inWorld (← self).log.object
    return (← self).handle executable arguments logger).Keeps (Same f) := by
  refine Keeps.bind (same_buildArguments hf) fun words => ?_
  refine Keeps.bind (same_note _ _) fun _ => Keeps.bind .get fun _ => ?_
  exact Keeps.bind (same_inWorld _) fun _ => Keeps.bind .get fun _ => .pure _

end Searches

/-- A build settles the port first and keeps it from then on, also where it fails. -/
theorem build_port (b : Builder) (w : World) :
    (build (b, w)).2.1.port = b.launchPort w.host := by
  have hpick : (pickPort (b, w)).2.1.port = b.launchPort w.host := by
    rw [(pickPort_apply b w).1]
  rw [← hpick]
  refine Keeps.of_bind (R := Same Builder.port) (fun _ => ?_) (b, w)
  refine Keeps.bind (Keeps.bind .get fun _ => same_inWorld _) fun executable => ?_
  exact Keeps.bind (Keeps.modify fun _ => rfl) fun _ =>
    same_buildHandle (fun _ _ _ => rfl) executable

end Frames

end Builder

namespace BuilderCall

/-- A call keeps the invariant, whether or not it fails, in every world that hands out ports. -/
theorem perform_sound (c : BuilderCall) {b : Builder} {w : World} (h : b.Sound)
    (hfree : 0 ≤ w.host.freePort) : (c.perform (b, w)).2.1.Sound := by
  cases c with
  | port p =>
      rw [perform, Builder.usePort_eq]
      refine Builder.adjust_induction h (fun b' hset => ?_) w
      rcases Builder.setPort_eq_ok (mapError_eq_ok.mp hset) with ⟨hport, rfl⟩
      exact h.of_arguments hport rfl
  | timeout v =>
      rw [perform, Builder.useTimeout_eq]
      refine Builder.adjust_induction h (fun b' hset => ?_) w
      rw [Builder.setTimeoutValue_eq_ok hset]
      exact h.of_arguments h.port rfl
  | argument flag value =>
      rw [perform, Builder.useArgument_eq]
      exact Builder.adjust_induction h
        (fun b' hset => Builder.addArgument_sound h (mapError_eq_ok.mp hset)) w
  | capabilities v quote =>
      refine h.of_arguments ?_ (Builder.takeCapabilities_arguments v quote (b, w))
      have hport := Builder.same_takeCapabilities (f := Builder.port) (fun _ _ _ => rfl) v quote
        (b, w)
      exact hport.symm ▸ h.port
  | buildArguments =>
      have hport := Builder.same_buildArguments (f := Builder.port) (fun _ _ _ => rfl) (b, w)
      unfold perform
      rw [drop_snd]
      exact h.of_arguments (hport.symm ▸ h.port) (Builder.keeps_buildArguments (b, w)).arguments
  | build =>
      unfold perform
      rw [drop_snd]
      refine h.of_arguments ?_ (Builder.keeps_build (b, w)).arguments
      rw [Builder.build_port, Builder.launchPort]
      split
      · exact hfree
      · exact h.port
  | _ => exact h.of_arguments h.port rfl

/-- A builder after calls that were made one after the other, each in a world of its own. -/
def performAll (b : Builder) : List (BuilderCall × World) → Builder
  | [] => b
  | (c, w) :: calls => performAll (c.perform (b, w)).2.1 calls

theorem performAll_sound {b : Builder} {calls : List (BuilderCall × World)} (h : b.Sound)
    (hfree : ∀ call ∈ calls, 0 ≤ call.2.host.freePort) : (performAll b calls).Sound := by
  induction calls generalizing b with
  | nil => exact h
  | cons call calls ih =>
      exact ih (call.1.perform_sound h (hfree call List.mem_cons_self))
        fun call' hmem => hfree call' (List.mem_cons_of_mem call hmem)

end BuilderCall

namespace Builder

/-- A new builder has the invariant after any calls, whether they were made or refused and
    whether they came to their end or failed halfway, as long as the hosts hand out ports. -/
theorem create_performAll_sound {config : Option ServerConfig} {locator : Option Locator}
    {hasStream : Bool} {logger : Option Logger} {w w' : World} {b : Builder}
    (h : create config locator hasStream logger w = (.ok b, w'))
    (calls : List (BuilderCall × World))
    (hfree : ∀ call ∈ calls, 0 ≤ call.2.host.freePort) :
    (BuilderCall.performAll b calls).Sound := by
  rcases create_eq_ok h with ⟨config', environment, locator', log, hconfig, _⟩
  exact BuilderCall.performAll_sound (ofConfig_sound hconfig) hfree

/-- A new builder is given flags of every sort, of which a negative port and a blank base path
    are refused, and is then built where no program is found: it has a port all the same. -/
theorem create_performAll_sound_noProgram :
    ∃ b b' w', create (some { port := 0, basePath := some " wd/hub" })
        (some ⟨[], .null, .given (.logger .journal)⟩) false (some .journal) .twoFiles
        = (.ok b, w') ∧
      b' = BuilderCall.performAll b [(.argument (.text "--port") none, .twoFiles),
        (.argument (.text "-p") (some "-1"), .twoFiles),
        (.argument (.text "--log") (some "server.log"), .twoFiles),
        (.argument (.general .basePath) (some "\u2003"), .twoFiles), (.build, .twoFiles)] ∧
      b'.port = 49152 ∧ b'.arguments = [("--base-path", "wd/hub/"), ("--port", "")] ∧
      b'.Sound := by
  have hcreate : create (some { port := 0, basePath := some " wd/hub" })
      (some ⟨[], .null, .given (.logger .journal)⟩) false (some .journal) .twoFiles
      = (.ok _, _) := rfl
  refine ⟨_, _, _, hcreate, rfl, by decide +kernel, by decide +kernel, ?_⟩
  refine create_performAll_sound hcreate _ fun call hmem => ?_
  -- All calls are made in one world, whose host hands out a port.
  have hworld : call.2 = .twoFiles := by
    simp only [List.mem_cons, List.not_mem_nil, or_false] at hmem
    rcases hmem with rfl | rfl | rfl | rfl | rfl <;> rfl
  rw [hworld]
  decide

end Builder

end ServerLaunch
