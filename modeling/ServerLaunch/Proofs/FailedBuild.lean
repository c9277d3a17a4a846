import ServerLaunch.Proofs.BuildStages

/-!
# After a Failed Build

What a build that fails leaves behind, and what a later one makes of it.

A build that finds no program or no main script has by then settled on a port, and perhaps on a
program, and the builder keeps both. Everything else it keeps as it was. This is not a matter of
one build: a builder can be tried again and again, in one world after the other, and all that any of
these attempts can do is to pin a port that was open and a program that was open.

So when there is a handle at last, it is the one that the builder would have given at once, apart
from the port and the program. The comparison is with another run of the same builder in the same
world. It goes through because neither the program nor the port has a part in the search for the
main script, and because what a search gives does not depend on the loggers that are told about it.

## Main definitions

* `Builder.LeftBy`: What failed builds leave of a builder.
* `Builder.FailedBuilds`: Builds one after the other, all of which fail.
* `Handle.repinned`: A handle with another port and another program.
* `Builder.Carries`: A handle has the settings of a builder.
* `Builder.FirstBuild`: A handle, and that of a builder that was not tried before.

## Theorems

* `Builder.build_leaves`: What one failed build leaves.
* `Builder.FailedBuilds.leaves`: What any number of them leave.
* `Builder.build_error_cases`: Why a build fails where all but the program is there.
* `Builder.LeftBy.carries`: A handle after failed builds has the settings from before them.
* `Builder.LeftBy.firstBuild`: And is the one that there would have been without them.
* `Builder.build_failed`: A failed build, and all that may follow it.
* `Builder.build_failed_refurnished`: A build that finds the program and no main script.
-/

namespace ServerLaunch

open Act World

/-- A handle with another port and another program, also in its command line, and with another
    logger. -/
def Handle.repinned (s : Handle) (port : Int) (executable : Path) (log : LogSource) : Handle :=
  { s with port, executable, arguments := s.arguments.set 2 (Numeral.intText port), log }

namespace Builder

/-- What failed builds in some worlds leave of a builder. A port is one that a host gave out to a
    builder to which any would do, a program is one that was there for a builder without one, and
    all else is as before. -/
structure LeftBy (b : Builder) (ws : List World) (b' : Builder) : Prop where
  frame : b' = { b with port := b'.port, executable := b'.executable }
  port : b'.port = b.port ∨ b.port = 0 ∧ ∃ w ∈ ws, b'.port = w.host.freePort
  executable : b'.executable = b.executable ∨
    b.executable = none ∧ ∃ w ∈ ws, ∃ p, b'.executable = some p ∧ w.host.pathExists p

/-- Builds one after the other, each of the builder that the last one left and in a world of its
    own, and none of them can launch. -/
inductive FailedBuilds : Builder → List World → Builder → Prop
  | none (b : Builder) : FailedBuilds b [] b
  | next {b b₁ b' : Builder} {w w₁ : World} {ws : List World} {e : LaunchError}
      (hfail : build (b, w) = (.error (.launch e), (b₁, w₁))) (h : FailedBuilds b₁ ws b') :
      FailedBuilds b (w :: ws) b'

/-- The handle has the settings of the builder, on a host. The port and the program may be
    others. -/
structure Carries (b : Builder) (host : Host) (s : Handle) : Prop where
  timeout : s.timeout = b.timeout
  environment : s.environment = b.environment
  address : s.address = b.boundAddress
  basePath : s.basePath = b.basePath
  hasStream : s.hasStream = b.hasStream
  command : ∃ script last, (∀ p, b.mainScript = some p → script = p) ∧
    b.capabilityTokens host = .ok last ∧
    s.arguments = { b with port := s.port }.commandTokens host.cwd script last

/-- The handle that there is after failed builds and the one that there would be without them, in
    the same world. The one has what was pinned, and they do not differ otherwise. Where there would
    be none, the program is missing, unless a logger is. -/
structure FirstBuild (b b' : Builder) (v : World) (s : Handle) : Prop where
  port : s.port = b'.launchPort v.host
  executable : ∀ p, b'.executable = some p → s.executable = p
  same : ∀ s₀ b₀ v₀, build (b, v) = (.ok s₀, (b₀, v₀)) →
    s = s₀.repinned s.port s.executable s.log ∧
      (b'.port = b.port → s.port = s₀.port) ∧
      (b'.executable = b.executable → s.executable = s₀.executable) ∧
      ∀ l, LogSource.Settled v b.log l → s.log = s₀.log
  fails : ∀ e b₀ v₀, build (b, v) = (.error e, (b₀, v₀)) → e.isUnheard ∨
    b.executable = none ∧ b'.executable ≠ none ∧
      ∀ p, b.nodePath? v = some p → v.host.pathExists p = false

variable {b b₁ b' b'' : Builder} {w w₁ v v' : World} {ws ws' : List World} {s : Handle}
  {e : LaunchError}

namespace LeftBy

theorem refl (b : Builder) : b.LeftBy [] b :=
  ⟨rfl, Or.inl rfl, Or.inl rfl⟩

theorem trans (h : b.LeftBy ws b₁) (h' : b₁.LeftBy ws' b') : b.LeftBy (ws ++ ws') b' := by
  constructor
  case frame => rw [h'.frame, h.frame]
  case port =>
    rcases h'.port with hsame' | ⟨hopen, w, hw, hport⟩
    · rw [hsame']
      rcases h.port with hsame | ⟨hopen, w, hw, hport⟩
      · exact Or.inl hsame
      · exact Or.inr ⟨hopen, w, List.mem_append_left ws' hw, hport⟩
    · -- The second build found the port open, so it was open all along.
      have hopen' : b.port = 0 := by
        rcases h.port with hsame | ⟨hopen', _⟩
        · exact hsame.symm.trans hopen
        · exact hopen'
      exact Or.inr ⟨hopen', w, List.mem_append_right ws hw, hport⟩
  case executable =>
    rcases h'.executable with hsame' | ⟨hopen, w, hw, hfound⟩
    · rw [hsame']
      rcases h.executable with hsame | ⟨hopen, w, hw, hfound⟩
      · exact Or.inl hsame
      · exact Or.inr ⟨hopen, w, List.mem_append_left ws' hw, hfound⟩
    · have hopen' : b.executable = none := by
        rcases h.executable with hsame | ⟨hopen', _⟩
        · exact hsame.symm.trans hopen
        · exact hopen'
      exact Or.inr ⟨hopen', w, List.mem_append_right ws hw, hfound⟩

end LeftBy

/-- The port that a build settles on was set, or comes from the host. -/
theorem launchPort_cases (b : Builder) (host : Host) :
    b.launchPort host = b.port ∨ b.port = 0 ∧ b.launchPort host = host.freePort := by
  unfold launchPort
  by_cases hport : b.port = 0
  · rw [if_pos hport]
    exact Or.inr ⟨hport, rfl⟩
  · rw [if_neg hport]
    exact Or.inl rfl

/-- Capabilities that cannot be written are no error of the launcher. -/
theorem capabilityTokens_eq_error {host : Host} {e : Failure}
    (h : b.capabilityTokens host = .error e) : e = .wrongKind := by
  unfold capabilityTokens at h
  cases hc : b.capabilities with
  | none => rw [hc] at h; cases h
  | some c =>
      simp only [hc] at h
      split at h
      · cases h
      · exact (Except.error.inj h).symm

/-- A build that fails for the sake of the launch was missing a file. It leaves a port, and perhaps
    a program. -/
theorem build_leaves (h : build (b, w) = (.error (.launch e), (b₁, w₁))) :
    b.LeftBy [w] b₁ ∧ e.kind = .invalidInstance := by
  have hends := build_ends b w
  rw [h] at hends
  have hport : b.launchPort w.host = b.port ∨
      b.port = 0 ∧ ∃ w' ∈ [w], b.launchPort w.host = w'.host.freePort := by
    rcases b.launchPort_cases w.host with hsame | ⟨hopen, hfree⟩
    · exact Or.inl hsame
    · exact Or.inr ⟨hopen, w, List.mem_cons_self, hfree⟩
  cases hends with
  | unheardPort he => cases he
  | noProgram hnode =>
      cases hnode with
      | unheard he => cases he
      | verdict hnode =>
          exact ⟨⟨rfl, hport, Or.inl rfl⟩, hnode.kind_of_launch⟩
  | @noScript _ executable _ hnode hscript =>
      cases hscript with
      | unheard he => cases he
      | verdict hscript =>
          refine ⟨⟨rfl, hport, ?_⟩, hscript.kind_of_launch⟩
          rcases hnode.of_ok with ⟨hpath, hexists⟩
          cases hgiven : b.executable with
          | none => exact Or.inr ⟨rfl, w, List.mem_cons_self, executable, rfl, hexists⟩
          | some p =>
              exact Or.inl ((Except.ok.inj hpath).symm.trans (nodePath?_of_some hgiven w))
  | noToken _ _ hlast =>
      cases capabilityTokens_eq_error hlast
  | unheardCommand _ _ he => cases he

/-- Any number of failed builds leave what one of them may leave. -/
theorem FailedBuilds.leaves (h : FailedBuilds b ws b') : b.LeftBy ws b' := by
  -- What one build leaves is the start of the next, so the frames add up.
  induction h with
  | none b => exact .refl b
  | next hfail _ ih => exact (build_leaves hfail).1.trans ih

/-- Whatever failed builds have pinned, a handle has all the settings that there were before. -/
theorem LeftBy.carries (h : b.LeftBy ws b') (hbuild : build (b', v) = (.ok s, (b'', v'))) :
    Carries b v.host s := by
  obtain ⟨port, executable, rfl⟩ : ∃ port executable, b' = { b with port, executable } :=
    ⟨_, _, h.frame⟩
  rcases build_settles hbuild with ⟨script, last, l, _, hscript, hlast, _, hs, _⟩
  have haddress := boundAddress_launchReady { b with port, executable } v.host s.executable script
  constructor
  case timeout => rw [hs]; rfl
  case environment => rw [hs]; rfl
  case address => rw [hs]; exact haddress
  case basePath => rw [hs]; rfl
  case hasStream => rw [hs]; rfl
  case command =>
    refine ⟨script, last, fun p hp => ?_, hlast, ?_⟩
    · have hset : b.scriptFinding v = .ok (some p) := scriptFinding_of_some hp v
      exact Option.some.inj (Except.ok.inj (hscript.of_ok.1.symm.trans hset))
    · rw [hs]
      unfold launchHandle handle commandTokens leadingTokens
      rw [haddress]
      rfl

/-- Two builders that differ by their ports and their programs make handles that differ no more. -/
theorem launchHandle_repinned (b : Builder) (host : Host) (port : Int) (open? : Option Path)
    (executable executable₀ script : Path) (last : List String) (l l₀ : Logger) :
    { b with port, executable := open? }.launchHandle host executable script last l
      = (b.launchHandle host executable₀ script last l₀).repinned
        ({ b with port }.launchPort host) executable (.given (.logger l)) :=
  rfl

/-- Where there is a main script, and the capabilities can be written, a build fails for want of the
    program or of a logger. -/
theorem build_error_cases {script : Path} {last : List String} {e : Failure}
    (hscript : Verdict v.host (b.scriptFinding v) (.ok script))
    (hlast : b.capabilityTokens v.host = .ok last) (h : build (b, v) = (.error e, (b', v'))) :
    e.isUnheard ∨ Verdict v.host (.ok (b.nodePath? v)) (.error e) := by
  have hends := build_ends b v
  rw [h] at hends
  cases hends with
  | unheardPort he => exact Or.inl he
  | noProgram hnode =>
      cases hnode with
      | unheard he => exact Or.inl he
      | verdict hnode => exact Or.inr hnode
  | noScript _ hnone =>
      cases hnone with
      | unheard he => exact Or.inl he
      | verdict hnone => exact absurd hnone hscript.not_error
  | noToken _ _ hnone => cases hlast.symm.trans hnone
  | unheardCommand _ _ he => exact Or.inl he

/-- The handle after failed builds is the one that there would be without them, but for what they
    have pinned. -/
theorem LeftBy.firstBuild (h : b.LeftBy ws b') (hbuild : build (b', v) = (.ok s, (b'', v'))) :
    FirstBuild b b' v s := by
  have hprogram' := h.executable
  obtain ⟨port, executable, rfl⟩ : ∃ port executable, b' = { b with port, executable } :=
    ⟨_, _, h.frame⟩
  rcases build_settles hbuild with ⟨script, last, l, hprogram, hscript, hlast, hl, hs, _⟩
  dsimp only at hprogram'
  constructor
  case port => rw [hs]; rfl
  case executable =>
    intro p hp
    exact Option.some.inj
      ((Except.ok.inj hprogram.of_ok.1).symm.trans (nodePath?_of_some hp v))
  case same =>
    intro s₀ b₀ v₀ hfirst
    rcases build_settles hfirst with ⟨script₀, last₀, l₀, hprogram₀, hscript₀, hlast₀, hl₀, hs₀, _⟩
    -- The main script and the capabilities are settled without regard to port and program.
    cases hscript.of_ok.1.symm.trans hscript₀.of_ok.1
    cases hlast.symm.trans hlast₀
    refine ⟨?_, fun hsame => ?_, fun hsame => ?_, fun l' hl' => ?_⟩
    · rw [hs₀, hs]
      exact launchHandle_repinned b v.host port executable _ _ script last l l₀
    · rw [hs₀, hs]
      change { b with port }.launchPort v.host = b.launchPort v.host
      rw [show port = b.port from hsame]
    · rw [show executable = b.executable from hsame] at hprogram
      exact Option.some.inj
        (Except.ok.inj (hprogram.of_ok.1.symm.trans hprogram₀.of_ok.1))
    · have hlogger := (hl'.onward (build_onward hbuild)).unique hl
      have hlogger₀ := (hl'.onward (build_onward hfirst)).unique hl₀
      rw [hs₀, hs, ← hlogger, ← hlogger₀]
      rfl
  case fails =>
    intro e b₀ v₀ hfirst
    rcases build_error_cases (b := b) hscript hlast hfirst with he | hnone
    · exact Or.inl he
    · rcases hprogram' with hsame | ⟨hopen, _, _, p, hp, _⟩
      · -- Without a pinned program both builds look at one path.
        rw [hsame] at hprogram
        exact absurd hnone hprogram.not_error
      · refine Or.inr ⟨hopen, fun hnone' => ?_, fun q hq => hnone.of_error.2 q (congrArg _ hq)⟩
        cases hp.symm.trans hnone'

/-- A failed build launches nothing, gives nothing and touches no setting. Whatever further builds
    fail after it, and whatever the world is in which one gives a handle at last, the handle has all
    the settings and is the one that there would have been at once, but for a port and a program
    that were pinned. -/
theorem build_failed (h : build (b, w) = (.error (.launch e), (b₁, w₁))) :
    e.kind = .invalidInstance ∧ w₁.children = w.children ∧
      (∃ es, w₁.past = es ++ w.past ∧ ∀ event ∈ es, event.isPreparation) ∧
      b.LeftBy [w] b₁ ∧
      ∀ ws b' v s b'' v', FailedBuilds b₁ ws b' → build (b', v) = (.ok s, (b'', v')) →
        b.LeftBy (w :: ws) b' ∧ Carries b v.host s ∧ FirstBuild b b' v s := by
  rcases build_leaves h with ⟨hleft, hkind⟩
  have honward := build_onward h
  refine ⟨hkind, by rw [honward.frame], honward.past, hleft, ?_⟩
  -- The failed build is the first of all that fail, so the builds after it are no special case.
  intro ws b' v s b'' v' hfailed hbuild
  have hall : b.LeftBy (w :: ws) b' := hleft.trans hfailed.leaves
  exact ⟨hall, hall.carries hbuild, hall.firstBuild hbuild⟩

end Builder

/-- A world in which the program is found, and no package manager. -/
def World.withoutNpm : World :=
  { World.searchable with host := { World.searchable.host with npm := .missing } }

/-- A world in which all is found, but another program, and with another free port. -/
def World.refurnished : World :=
  { World.searchable with
    host := { World.searchable.host with
      files := (["work", "node"], .octets []) :: World.searchable.host.files
      programs := [("node", "/work/node"), ("npm", "/usr/bin/npm")], freePort := 50000 } }

namespace Builder

/-- A build finds the program and no package manager, and the next one has both at hand. The handle
    has the port and the program of the build that failed, where a first build takes new ones. -/
theorem build_failed_refurnished :
    ∃ e b₁ w₁ s b'' v' s₀ b₀ v₀,
      build (undecided, .withoutNpm) = (.error (.launch e), (b₁, w₁)) ∧
      build (b₁, .refurnished) = (.ok s, (b'', v')) ∧
      build (undecided, .refurnished) = (.ok s₀, (b₀, v₀)) ∧
      e.kind = .invalidInstance ∧ LeftBy undecided [.withoutNpm] b₁ ∧
      Carries undecided World.refurnished.host s ∧ FirstBuild undecided b₁ .refurnished s ∧
      s.command = ["/usr/bin/node", "/opt/appium/build/lib/main.js", "--port", "49152",
        "--address", "0.0.0.0"] ∧
      s₀.command = ["/work/node", "/opt/appium/build/lib/main.js", "--port", "50000",
        "--address", "0.0.0.0"] := by
  have hfail : build (undecided, .withoutNpm) = (.error (.launch _), (_, _)) := rfl
  rcases build_failed hfail with ⟨hkind, _, _, hleft, hlater⟩
  rcases hlater [] _ .refurnished _ _ _ (.none _) rfl with ⟨_, hcarries, hfirst⟩
  exact ⟨_, _, _, _, _, _, _, _, _, hfail, rfl, rfl, hkind, hleft, hcarries, hfirst,
    by decide +kernel, by decide +kernel⟩

end Builder

end ServerLaunch
