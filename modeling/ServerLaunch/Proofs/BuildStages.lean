import ServerLaunch.Proofs.Builder
import ServerLaunch.Proofs.LookupChain

/-!
# The Stages of a Build

Every way in which a build can end.

A build goes through stages: the port, the program, the main script, the token of the
capabilities, a message, and then there is a handle. Each of them can fail, and by then the earlier
ones have left something in the builder. `Builder.BuildEnds` has one case for each, with the builder
as it is left there, so whoever asks what a build does to a builder looks at these cases and not at
the steps again.

The two lookups among the stages are settled by the host and the overrides alone. Whether they
succeed may depend on a logger as well, but which path they give does not, so the same lookup made
at another point of the history gives the same path. That is what makes two builds comparable.

## Main definitions

* `Reply`: The outcome of a lookup.
* `Locator.settledPath?`, `Locator.settled`: What a lookup settles on.
* `Builder.nodePath?`, `Builder.scriptFinding`: What a build settles on.
* `Builder.BuildEnds`: The ends of a build.
* `Builder.Settlement`: What a build that gives a handle has settled on.
* `Builder.undecided`, `World.searchable`: A builder that has to look for all that a launch needs,
  and a world in which it finds it.

## Theorems

* `Locator.resolveNode_reply`, `Locator.resolveMainScript_reply`: The two lookups reply for the
  paths on which they settle.
* `Builder.build_ends`: A build ends in one of these ways.
* `Builder.build_program`: The program after a build.
* `Builder.build_settles`: What a handle is made of.
-/

namespace ServerLaunch

open Act World

namespace Verdict

variable {host : Host} {p : Finding} {q : Path} {e : Failure}

theorem of_ok (h : Verdict host p (.ok q)) : p = .ok (some q) ∧ host.pathExists q := by
  cases h with
  | found hlook => exact ⟨rfl, Host.pathExists_of_look hlook⟩

/-- A verdict against a path is an error of the launcher, or the search went wrong; and nothing is
    seen there. -/
theorem of_error (h : Verdict host p (.error e)) :
    ((∃ le : LaunchError, e = .launch le ∧ le.kind = .invalidInstance) ∨
        ∃ fault : SearchFault, e = fault.failure) ∧
      ∀ q, p = .ok (some q) → host.pathExists q = false := by
  cases h with
  | missing hlook he =>
      refine ⟨Or.inl ⟨_, rfl, he⟩, ?_⟩
      rintro _ ⟨rfl⟩
      exact Host.pathExists_of_look hlook
  | refused hlook =>
      refine ⟨Or.inr ⟨_, rfl⟩, ?_⟩
      rintro _ ⟨rfl⟩
      rw [Host.pathExists, hlook]
  | unknown he =>
      refine ⟨Or.inl ⟨_, rfl, he⟩, ?_⟩
      rintro _ ⟨⟩
  | broken fault =>
      refine ⟨Or.inr ⟨fault, rfl⟩, ?_⟩
      rintro _ ⟨⟩

/-- An error of the launcher says that the installation is broken. -/
theorem kind_of_launch {le : LaunchError} (h : Verdict host p (.error (.launch le))) :
    le.kind = .invalidInstance := by
  rcases h.of_error.1 with ⟨_, ⟨rfl⟩, hkind⟩ | ⟨fault, hfault⟩
  · exact hkind
  · exact absurd hfault.symm (fault.failure_ne_launch le)

/-- There is one verdict on a path. -/
theorem not_error (h : Verdict host p (.ok q)) : ¬ Verdict host p (.error e) := by
  intro h'
  rcases h.of_ok with ⟨hpath, hexists⟩
  exact absurd hexists (Bool.eq_false_iff.mp (h'.of_error.2 q hpath))

end Verdict

/-- What a lookup replies: its verdict on a path, unless a logger is missing. -/
inductive Reply (host : Host) (p : Finding) : Except Failure Path → Prop
  | unheard {e : Failure} (he : e.isUnheard) : Reply host p (.error e)
  | verdict {r : Except Failure Path} (h : Verdict host p r) : Reply host p r

theorem Reply.of_ok {host : Host} {p : Finding} {q : Path} (h : Reply host p (.ok q)) :
    Verdict host p (.ok q) := by
  cases h with
  | verdict h => exact h

namespace Locator

variable (l : Locator)

/-- The path that a lookup settles on: the one that the caller gives, or else that of an override,
    or else what a search finds. -/
def settledPath? (w : World) (name : String) (found explicit : Option Path) : Option Path :=
  (explicit.or (lookupPath w name l.sources)).or found

/-- What a lookup comes to, for any search. -/
def settled (w : World) (name : String) (found : Finding) (explicit : Option Path) : Finding :=
  found.after (explicit.or (lookupPath w name l.sources))

theorem settled_ok (w : World) (name : String) (found explicit : Option Path) :
    l.settled w name (.ok found) explicit = .ok (l.settledPath? w name found explicit) :=
  Finding.after_ok _ found

/-- It depends on the overrides and on the host, and on nothing else in the world. -/
theorem settled_congr {w w' : World} (hhost : w'.host = w.host)
    (hoverrides : w'.overrides = w.overrides) (name : String) (found : Finding)
    (explicit : Option Path) :
    l.settled w' name found explicit = l.settled w name found explicit := by
  have hvalue : LookupSource.override? w' name = LookupSource.override? w name := by
    funext source
    cases source with
    | overrides => simp only [LookupSource.override?, LookupSource.value?, hoverrides]
    | environment => simp only [LookupSource.override?, LookupSource.value?, hhost]
    | table values => rfl
  unfold settled lookupPath
  rw [hvalue]

/-- A lookup replies for its path. -/
theorem resolveFile_reply {name use : String} {missing : Path → Path → String}
    {search : WorldAct Path} {found : Finding} {explicit : Option Path} {w w' : World}
    {r : Except Failure Path} (h : l.resolveFile name use missing search explicit w = (r, w'))
    (hsearch : Reply w.host found (search w).1) :
    Reply w.host (l.settled w name found explicit) r := by
  have hr : r = (l.resolveFile name use missing search explicit w).1 := by rw [h]
  rw [hr]
  unfold settled
  cases explicit with
  | some p =>
      rcases validatePath_verdict (some p) (missing w.host.cwd p) w with ⟨r, hrun, hverdict⟩
      rw [resolveFile_explicit, hrun]
      exact .verdict hverdict
  | none =>
      rw [Option.none_or]
      cases hlookup : lookupPath w name l.sources with
      | none =>
          rw [resolveFile_search l hlookup]
          exact hsearch
      | some p =>
          -- An override is noted in the log, and that is the one thing besides it that can fail.
          rw [resolveFile_named l hlookup]
          generalize "Using " ++ use ++ " from " ++ name ++ ": " ++ p.toText = message
          rcases l.log.log_first .debug message w with
            ⟨r₁, w₁, hlog, honward, ⟨e, rfl, hlogger⟩ | ⟨rfl, _⟩⟩
          · rw [bind_error hlog]
            exact .unheard (l.log.logger_failsOnly w e hlogger)
          · rcases validatePath_verdict (some p) (missing w.host.cwd p) w₁ with ⟨r, hrun, hverdict⟩
            rw [honward.host] at hverdict
            rw [bind_ok hlog, hrun]
            exact .verdict hverdict

section Replies

variable {l} {kind : Event → Bool} {w w₁ w₂ : World} {explicit : Option Path}
  {r : Except Failure Path}

/-- The reply about the program. It is that of an earlier world as much as of the present one. -/
theorem resolveNode_reply (hw₁ : Onward kind w w₁) (h : l.resolveNode explicit w₁ = (r, w₂)) :
    Reply w.host (.ok (l.settledPath? w nodeVariable (w.host.programPath? "node") explicit)) r := by
  rw [← settled_ok, ← hw₁.host, ← l.settled_congr hw₁.host hw₁.overrides]
  unfold resolveNode at h
  refine l.resolveFile_reply h ?_
  rcases l.findBinary_run "node" nodeNotInstalled w₁ with
    ⟨r, w', hrun, _, ⟨e, rfl, hlogger⟩ | ⟨hverdict, _⟩⟩
  · rw [hrun]
    exact .unheard (l.log.logger_failsOnly w₁ e hlogger)
  · rw [hrun]
    exact .verdict hverdict

/-- The reply about the main script. -/
theorem resolveMainScript_reply (hw₁ : Onward kind w w₁)
    (h : l.resolveMainScript explicit w₁ = (r, w₂)) :
    Reply w.host (l.settled w mainScriptVariable w.host.scriptFinding explicit) r := by
  rw [← hw₁.host, ← l.settled_congr hw₁.host hw₁.overrides]
  unfold resolveMainScript at h
  refine l.resolveFile_reply h ?_
  rcases l.findMainScript_run w₁ with ⟨r, w', hrun, _, _, ⟨e, rfl, hlogger⟩ | ⟨hverdict, _⟩⟩
  · rw [hrun]
    exact .unheard (l.log.logger_failsOnly w₁ e hlogger)
  · rw [hrun]
    exact .verdict hverdict

end Replies

end Locator

namespace Builder

/-- The path of the program that a build settles on, if there is one. -/
def nodePath? (b : Builder) (w : World) : Option Path :=
  b.locator.settledPath? w nodeVariable (w.host.programPath? "node") b.executable

/-- What the lookup of the main script comes to in a build. -/
def scriptFinding (b : Builder) (w : World) : Finding :=
  b.locator.settled w mainScriptVariable w.host.scriptFinding b.mainScript

/-- A path that the builder has is the one that the build settles on. -/
theorem nodePath?_of_some {b : Builder} {p : Path} (h : b.executable = some p) (w : World) :
    b.nodePath? w = some p := by
  unfold nodePath? Locator.settledPath?
  rw [h]
  rfl

theorem scriptFinding_of_some {b : Builder} {p : Path} (h : b.mainScript = some p) (w : World) :
    b.scriptFinding w = .ok (some p) := by
  unfold scriptFinding Locator.settled
  rw [h]
  rfl

/-- The builder with the port that a build settles on, and the program that it has by then. -/
def portReady (b : Builder) (host : Host) (executable : Option Path) : Builder :=
  { b with port := b.launchPort host, executable }

/-- The arguments of a launch, for a script and the words of the capabilities. -/
def commandTokens (b : Builder) (cwd script : Path) (last : List String) : List String :=
  b.leadingTokens cwd script ++ flagTokens b.arguments ++ last

/-- The handle that a build makes of a builder and of what it found. -/
def launchHandle (b : Builder) (host : Host) (executable script : Path) (last : List String)
    (l : Logger) : Handle :=
  (b.launchReady host executable script).handle executable
    ((b.launchReady host executable script).commandTokens host.cwd script last) (.logger l)

/-- A builder that has all it needs is bound to the address that it was bound to before. -/
theorem boundAddress_launchReady (b : Builder) (host : Host) (executable script : Path) :
    (b.launchReady host executable script).boundAddress = b.boundAddress :=
  boundAddress_of_some rfl b.boundAddress_ne_empty

/-- The ends of a build: its outcome, and the builder and the world that it leaves. -/
inductive BuildEnds (b : Builder) (w : World) : Except Failure Handle → Builder → World → Prop
  /-- A port was picked, and the message about it fails. -/
  | unheardPort {e : Failure} {w' : World} (he : e.isUnheard) :
      BuildEnds b w (.error e) (b.portReady w.host b.executable) w'
  /-- There is no program. -/
  | noProgram {e : Failure} {w' : World}
      (hnode : Reply w.host (.ok (b.nodePath? w)) (.error e)) :
      BuildEnds b w (.error e) (b.portReady w.host b.executable) w'
  /-- There is no main script. -/
  | noScript {e : Failure} {executable : Path} {w' : World}
      (hnode : Verdict w.host (.ok (b.nodePath? w)) (.ok executable))
      (hscript : Reply w.host (b.scriptFinding w) (.error e)) :
      BuildEnds b w (.error e) (b.portReady w.host (some executable)) w'
  /-- The capabilities cannot be written. -/
  | noToken {e : Failure} {executable script : Path} {w' : World}
      (hnode : Verdict w.host (.ok (b.nodePath? w)) (.ok executable))
      (hscript : Verdict w.host (b.scriptFinding w) (.ok script))
      (hlast : b.capabilityTokens w.host = .error e) :
      BuildEnds b w (.error e) (b.launchReady w.host executable script) w'
  /-- All is found, and the message about it fails. -/
  | unheardCommand {e : Failure} {executable script : Path} {w' : World}
      (hnode : Verdict w.host (.ok (b.nodePath? w)) (.ok executable))
      (hscript : Verdict w.host (b.scriptFinding w) (.ok script)) (he : e.isUnheard) :
      BuildEnds b w (.error e) (b.launchReady w.host executable script) w'
  /-- There is a handle, and by then a logger is known. -/
  | built {executable script : Path} {last : List String} {l : Logger} {w' : World}
      (hnode : Verdict w.host (.ok (b.nodePath? w)) (.ok executable))
      (hscript : Verdict w.host (b.scriptFinding w) (.ok script))
      (hlast : b.capabilityTokens w.host = .ok last) (hl : LogSource.Settled w' b.log l) :
      BuildEnds b w (.ok (b.launchHandle w.host executable script last l))
        (b.launchReady w.host executable script) w'

/-- The command line is written, or there is no script or no token. -/
theorem buildArguments_cases (b : Builder) (w : World) :
    (∃ e w', b.locator.resolveMainScript b.mainScript w = (.error e, w') ∧
      buildArguments (b, w) = (.error e, (b, w'))) ∨
    ∃ script w', b.locator.resolveMainScript b.mainScript w = (.ok script, w') ∧
      ((∃ e, b.capabilityTokens w.host = .error e ∧
        buildArguments (b, w) = (.error e, (b.pinned script, w'))) ∨
      ∃ last, b.capabilityTokens w.host = .ok last ∧
        buildArguments (b, w)
          = (.ok ((b.pinned script).commandTokens w.host.cwd script last),
            (b.pinned script, w'))) := by
  unfold buildArguments
  rw [bind_ok (self_apply (b, w))]
  have hhost := (b.locator.keeps_resolveMainScript b.mainScript w).host
  rcases hscript : b.locator.resolveMainScript b.mainScript w with ⟨e | script, w'⟩
  · have hlookup : inWorld (b.locator.resolveMainScript b.mainScript) (b, w)
        = (.error e, (b, w')) := inWorld_eq_iff.mpr ⟨rfl, hscript⟩
    exact Or.inl ⟨e, w', rfl, bind_error hlookup⟩
  · have hlookup : inWorld (b.locator.resolveMainScript b.mainScript) (b, w)
        = (.ok script, (b, w')) := inWorld_eq_iff.mpr ⟨rfl, hscript⟩
    rw [hscript] at hhost
    refine Or.inr ⟨script, w', rfl, ?_⟩
    rw [bind_ok hlookup, bind_ok (change_apply _ _), bind_ok (self_apply _), bind_ok (get_apply _)]
    -- The tokens are read off the capabilities, which the search leaves alone.
    have htokens : (b.pinned script).capabilityTokens w'.host = b.capabilityTokens w.host := by
      dsimp only at hhost
      rw [hhost]
      rfl
    dsimp only at hhost ⊢
    cases hlast : b.capabilityTokens w.host with
    | error e =>
        refine Or.inl ⟨e, rfl, bind_error ?_⟩
        exact congrArg (·, _) (htokens.trans hlast)
    | ok last =>
        have hrun : (Act.ofExcept ((b.pinned script).capabilityTokens w'.host) : BuilderAct _)
            (b.pinned script, w') = (.ok last, (b.pinned script, w')) :=
          congrArg (·, _) (htokens.trans hlast)
        refine Or.inr ⟨last, rfl, (bind_ok hrun).trans ?_⟩
        rw [← hhost]
        rfl

/-- A message of a builder fails for want of a logger, and for nothing else. -/
theorem note_unheard {b b' : Builder} {w w' : World} {level : LogLevel} {message : String}
    {e : Failure} (h : note level message (b, w) = (.error e, (b', w'))) : e.isUnheard := by
  rcases note_eq_iff.mp h with ⟨_, hlog⟩
  refine b.log.logger_failsOnly w e ((b.log.log_error_iff level message w e).mp ?_)
  rw [hlog]

theorem pickPort_unheard {b b' : Builder} {w w' : World} {e : Failure}
    (h : pickPort (b, w) = (.error e, (b', w'))) : e.isUnheard := by
  by_cases hport : b.port = 0
  · rw [pickPort_of_eq hport] at h
    exact note_unheard h
  · rw [pickPort_of_ne hport] at h
    cases h

/-- A build ends in one of these ways. -/
theorem build_ends (b : Builder) (w : World) :
    BuildEnds b w (build (b, w)).1 (build (b, w)).2.1 (build (b, w)).2.2 := by
  unfold build
  rcases pickPort_apply b w with ⟨hb₁, hw₁, _⟩
  rcases hpick : pickPort (b, w) with ⟨e | _, b₁, w₁⟩
  · rw [hpick] at hb₁
    rw [bind_error hpick]
    dsimp only at hb₁ ⊢
    rw [hb₁]
    exact .unheardPort (pickPort_unheard hpick)
  · rw [hpick] at hb₁ hw₁
    rw [bind_ok hpick]
    have hported : b₁ = b.portReady w.host b.executable := hb₁
    rw [hported]
    -- From here on the port stands, and nothing looks at it before the command line is written.
    rcases hnode : b.locator.resolveNode b.executable w₁ with ⟨e | executable, w₂⟩
    · have hrun : resolveExecutable (b.portReady w.host b.executable, w₁) = (.error e, (_, w₂)) :=
        resolveExecutable_eq_iff.mpr ⟨rfl, hnode⟩
      rw [bind_error hrun]
      exact .noProgram (Locator.resolveNode_reply hw₁ hnode)
    · have hrun : resolveExecutable (b.portReady w.host b.executable, w₁)
          = (.ok executable, (_, w₂)) := resolveExecutable_eq_iff.mpr ⟨rfl, hnode⟩
      have hkept : change (fun b => { b with executable := some executable })
          (b.portReady w.host b.executable, w₂)
          = (.ok (), (b.portReady w.host (some executable), w₂)) := rfl
      rw [bind_ok hrun, bind_ok hkept]
      have hprogram : Verdict w.host (.ok (b.nodePath? w)) (.ok executable) :=
        (Locator.resolveNode_reply hw₁ hnode).of_ok
      -- The search for the program has left the host and the overrides alone.
      have hw₂ := b.locator.keeps_resolveNode b.executable w₁
      rw [hnode] at hw₂
      have hw₂' : Onward Event.isPreparation w w₂ :=
        hw₁.trans (hw₂.mono fun _ => Event.isPreparation_of_isSearch)
      rcases buildArguments_cases (b.portReady w.host (some executable)) w₂ with
        ⟨e, w₃, hscript, hwords⟩ |
        ⟨script, w₃, hscript, ⟨e, hlast, hwords⟩ | ⟨last, hlast, hwords⟩⟩
      · rw [bind_error hwords]
        exact .noScript hprogram (Locator.resolveMainScript_reply hw₂' hscript)
      · rw [hw₂'.host] at hlast
        rw [bind_error hwords]
        exact .noToken hprogram (Locator.resolveMainScript_reply hw₂' hscript).of_ok hlast
      · rw [hw₂'.host] at hlast hwords
        have hfound : Verdict w.host (b.scriptFinding w) (.ok script) :=
          (Locator.resolveMainScript_reply hw₂' hscript).of_ok
        have hwords' : buildArguments (b.portReady w.host (some executable), w₂)
            = (.ok ((b.launchReady w.host executable script).commandTokens w.host.cwd script last),
              (b.launchReady w.host executable script, w₃)) := hwords
        rw [bind_ok hwords']
        rcases hnote : note .debug ("Service command: " ++ executable.toText ++ " " ++
          wordList ((b.launchReady w.host executable script).commandTokens w.host.cwd script last))
          (b.launchReady w.host executable script, w₃) with ⟨e | _, b₄, w₄⟩
        · rcases note_eq_iff.mp hnote with ⟨rfl, _⟩
          rw [bind_error hnote]
          exact .unheardCommand hprogram hfound (note_unheard hnote)
        · rcases note_eq_iff.mp hnote with ⟨rfl, hlog⟩
          -- The message was written, so the logger that the handle is given is known.
          rcases LogSource.settled_of_log hlog with ⟨l, hl⟩
          have hobject : inWorld (b.launchReady w.host executable script).log.object
              (b.launchReady w.host executable script, w₄) = (.ok (.logger l), (_, w₄)) :=
            inWorld_eq_iff.mpr ⟨rfl, hl.object_apply⟩
          rw [bind_ok hnote]
          rw [bind_ok (self_apply _)]
          rw [bind_ok hobject]
          rw [bind_ok (self_apply _)]
          exact .built hprogram hfound hlast hl

/-- A build leaves the program that there was, or the one that it settles on. -/
theorem build_program (b : Builder) (w : World) :
    (build (b, w)).2.1.executable = b.executable ∨
      ∃ p, b.nodePath? w = some p ∧ (build (b, w)).2.1.executable = some p := by
  have hends := build_ends b w
  generalize build (b, w) = run at hends ⊢
  rcases run with ⟨r, b', w'⟩
  dsimp only at hends ⊢
  cases hends with
  | unheardPort => exact Or.inl rfl
  | noProgram => exact Or.inl rfl
  | noScript hnode => exact Or.inr ⟨_, Except.ok.inj hnode.of_ok.1, rfl⟩
  | noToken hnode => exact Or.inr ⟨_, Except.ok.inj hnode.of_ok.1, rfl⟩
  | unheardCommand hnode => exact Or.inr ⟨_, Except.ok.inj hnode.of_ok.1, rfl⟩
  | built hnode => exact Or.inr ⟨_, Except.ok.inj hnode.of_ok.1, rfl⟩

/-- A build prepares a launch, and does no more to the world. -/
theorem build_onward {b b' : Builder} {w w' : World} {r : Except Failure Handle}
    (h : build (b, w) = (r, (b', w'))) : Onward Event.isPreparation w w' := by
  have hfinds := keeps_build (b, w)
  rw [h] at hfinds
  exact hfinds.world

/-- What a build that gives a handle has settled on: two files that are there, the words of the
    capabilities, and a logger. -/
structure Settlement (b : Builder) (w : World) (s : Handle) (b' : Builder) (w' : World)
    (script : Path) (last : List String) (l : Logger) : Prop where
  program_found : Verdict w.host (.ok (b.nodePath? w)) (.ok s.executable)
  script_found : Verdict w.host (b.scriptFinding w) (.ok script)
  last_eq : b.capabilityTokens w.host = .ok last
  logger : LogSource.Settled w' b.log l
  handle_eq : s = b.launchHandle w.host s.executable script last l
  builder_eq : b' = b.launchReady w.host s.executable script

/-- A handle is made of what the builder has settled on, and of nothing else. -/
theorem build_settles {b b' : Builder} {w w' : World} {s : Handle}
    (h : build (b, w) = (.ok s, (b', w'))) :
    ∃ script last l, Settlement b w s b' w' script last l := by
  have hends := build_ends b w
  rw [h] at hends
  cases hends with
  | built hnode hscript hlast hl => exact ⟨_, _, _, hnode, hscript, hlast, hl, rfl, rfl⟩

end Builder

/-- A new builder that has all of a launch to look for, down to its logger. -/
def Builder.undecided : Builder :=
  { executable := none, port := 0, timeout := .float (Binary64.ofInt 20), environment := []
    logFile := none, arguments := [], mainScript := none, address := none, capabilities := none
    quoteOnWindows := true, locator := ⟨defaultSources, defaultNpmTimeout, .onDemand 1⟩
    hasStream := false, log := .onDemand 0 }

/-- A new world in which nothing says where the two files are that a launch needs, and a search
    finds both. -/
def World.searchable : World :=
  World.start
    { cwd := ⟨.single, ["work"]⟩, home := ⟨.single, ["root"]⟩
      files := [(["usr", "bin", "node"], .octets []), (["usr", "bin", "npm"], .octets []),
        (["opt", "appium", "build", "lib", "main.js"], .octets [])]
      directories := [], environment := []
      programs := [("node", "/usr/bin/node"), ("npm", "/usr/bin/npm")]
      npm := .printed "/opt\n", system := "Linux", freePort := 49152, refusal := none }
    default .seconds

end ServerLaunch
