import ServerLaunch.Proofs.BuilderInvariant
import ServerLaunch.Proofs.BuildStages
import ServerLaunch.Proofs.Launch
import ServerLaunch.Proofs.Paths

/-!
# The File That Is Launched

Whether a launch runs the file that the build looked at.

A build makes sure that the program exists, and then passes it on as a word of a command. The
main script and the log file become absolute on the way, so those words name the same file
whenever the handle is started. The program stays as it was found. If its path is relative then
the word depends on the current directory of the launch, and if the path is a bare name then the
word is no path at all but the name of a program to search for. Between a build and a launch
both the directory and the search may change, and `Builder.create_performAll_launched_iff` says
that the file that was looked at is the one that runs exactly if its path is absolute.

## Main definitions

* `Host.runs?`: The file that the first word of a command stands for.
* `Host.moved`: The host in another directory, with another search.
* `Builder.HasNormalProgram`, `BuilderCall.IsNormal`: Programs whose paths a text can give.
* `Builder.Launches`: What a handle launches.

## Theorems

* `Path.IsNormal.isAbsolute_iff_runs`: The text of an absolute path stands for one file.
* `Builder.nodePath?_cases`: Where the path of the program comes from.
* `Builder.build_found`: The program of a handle exists.
* `BuilderCall.perform_program`: The path of the program stays normal.
* `Handle.start_launched`: A handle launches its command.
* `Builder.create_performAll_launched_iff`: What a handle launches, after any calls.
* `Builder.create_performAll_launched_iff_bareName`: A program that is searched for again.
-/

namespace ServerLaunch

open Act World

/-- The file that a host runs for the first word of a command, as the names that lead to it. A word
    with a slash is a path, and any other is searched for. -/
def Host.runs? (h : Host) (word : String) : Option (List String) :=
  if '/' ∈ word.toList then some (h.locate (Path.ofString word))
  else (h.programPath? word).map h.locate

/-- The host in another directory, where programs are searched for elsewhere. -/
def Host.moved (h : Host) (cwd : Path) (programs : Table String) : Host :=
  { h with cwd, programs }

/-- The text of an absolute path stands for one file, and that of a relative path does not. -/
theorem Path.IsNormal.isAbsolute_iff_runs {p : Path} (hp : p.IsNormal) (h : Host) :
    p.isAbsolute ↔ ∀ (cwd : Path) (programs : Table String), cwd.isAbsolute →
      (h.moved cwd programs).runs? p.toText = some (h.locate p) := by
  constructor
  · intro habsolute cwd programs _
    rcases Path.exists_toText_eq_cons habsolute with ⟨cs, hcs⟩
    unfold Host.runs? Host.locate
    rw [if_pos (by rw [hcs]; exact List.mem_cons_self), hp.ofString_toText,
      Path.resolve_of_isAbsolute habsolute]
  · intro hruns
    by_contra hrelative
    -- A directory far down leads a path elsewhere, and a search that finds nothing stops a name.
    rcases Path.exists_resolve_ne (Bool.eq_false_iff.mpr hrelative) (h.locate p) with
      ⟨cwd, hcwd, hne⟩
    have hrun := hruns cwd [] hcwd
    unfold Host.runs? at hrun
    split at hrun
    · rw [hp.ofString_toText] at hrun
      exact hne (Option.some.inj hrun)
    · cases hrun

namespace Builder

/-- The path of the program that a build settles on was read from a text, unless the builder has
    one. -/
theorem nodePath?_cases {b : Builder} {w : World} {p : Path} (h : b.nodePath? w = some p) :
    b.executable = some p ∨ p.IsNormal := by
  cases hgiven : b.executable with
  | some q => exact Or.inl ((nodePath?_of_some hgiven w).symm.trans h)
  | none =>
      unfold nodePath? Locator.settledPath? at h
      rw [hgiven, Option.none_or] at h
      refine Or.inr ?_
      rcases Option.or_eq_some_iff.mp h with hnamed | ⟨_, hfound⟩
      · rcases Option.map_eq_some_iff.mp hnamed with ⟨s, _, rfl⟩
        exact Path.isNormal_ofString s
      · rcases Option.map_eq_some_iff.mp hfound with ⟨s, _, rfl⟩
        exact Path.isNormal_ofString s

/-- The program of a handle that a build gives exists, and unless the builder had one, its path was
    read from a text. -/
theorem build_found {b b' : Builder} {w w' : World} {s : Handle}
    (h : build (b, w) = (.ok s, (b', w'))) :
    w.host.pathExists s.executable ∧
      (b.executable = some s.executable ∨ s.executable.IsNormal) := by
  rcases build_settles h with ⟨_, _, _, hprogram, _⟩
  rcases hprogram.of_ok with ⟨hpath, hexists⟩
  exact ⟨hexists, nodePath?_cases (Except.ok.inj hpath)⟩

/-- The path of the program, if there is one, consists of names. -/
def HasNormalProgram (b : Builder) : Prop :=
  ∀ p, b.executable = some p → p.IsNormal

theorem HasNormalProgram.of_eq {b b' : Builder} (h : b.HasNormalProgram)
    (heq : b'.executable = b.executable) : b'.HasNormalProgram :=
  fun p hp => h p (heq.symm.trans hp)

/-- A flag never says which program to run. -/
theorem addArgument_executable {b b' : Builder} {flag : FlagName} {value : Option String}
    (h : b.addArgument flag value = .ok b') : b'.executable = b.executable := by
  rcases addArgument_eq_ok h with ⟨_, rfl⟩ | ⟨text, _, ⟨_, port, _, _, rfl⟩ | ⟨_, rfl⟩ |
    ⟨_, rfl⟩ | ⟨_, path, _, rfl⟩ | ⟨_, _, _, _, rfl⟩⟩ <;> rfl

end Builder

namespace BuilderCall

/-- A call that passes a program passes a path that consists of names. -/
def IsNormal : BuilderCall → Prop
  | .executable path => path.IsNormal
  | _ => True

/-- A call keeps the path of the program normal, whether or not it fails. -/
theorem perform_program {c : BuilderCall} (hc : c.IsNormal) {b : Builder} (h : b.HasNormalProgram)
    (w : World) : (c.perform (b, w)).2.1.HasNormalProgram := by
  cases c with
  | port p =>
      rw [perform, Builder.usePort_eq]
      refine Builder.adjust_induction h (fun b' hset => h.of_eq ?_) w
      rw [(Builder.setPort_eq_ok (mapError_eq_ok.mp hset)).2]
  | timeout v =>
      rw [perform, Builder.useTimeout_eq]
      refine Builder.adjust_induction h (fun b' hset => h.of_eq ?_) w
      rw [Builder.setTimeoutValue_eq_ok hset]
  | argument flag value =>
      rw [perform, Builder.useArgument_eq]
      exact Builder.adjust_induction h (fun b' hset =>
        h.of_eq (Builder.addArgument_executable (mapError_eq_ok.mp hset))) w
  | executable path =>
      rintro p ⟨rfl⟩
      exact hc
  | capabilities v quote =>
      exact h.of_eq (Builder.same_takeCapabilities (fun _ _ _ => rfl) v quote (b, w))
  | buildArguments =>
      unfold perform
      rw [drop_snd]
      exact h.of_eq (Builder.same_buildArguments (fun _ _ _ => rfl) (b, w))
  | build =>
      unfold perform
      rw [drop_snd]
      rcases b.build_program w with hsame | ⟨p, hpath, hp⟩
      · exact h.of_eq hsame
      · intro q hq
        cases hp.symm.trans hq
        rcases Builder.nodePath?_cases hpath with hgiven | hnormal
        · exact h p hgiven
        · exact hnormal
  | _ => exact h.of_eq rfl

theorem performAll_program {b : Builder} {calls : List (BuilderCall × World)}
    (h : b.HasNormalProgram) (hcalls : ∀ call ∈ calls, call.1.IsNormal) :
    (performAll b calls).HasNormalProgram := by
  induction calls generalizing b with
  | nil => exact h
  | cons call calls ih =>
      exact ih (perform_program (hcalls call List.mem_cons_self) h call.2)
        fun call' hmem => hcalls call' (List.mem_cons_of_mem call hmem)

end BuilderCall

namespace Builder

/-- A new builder has no program of its own. -/
theorem ofConfig_executable {config : ServerConfig} {environment : Table String}
    {locator : Locator} {hasStream : Bool} {log : LogSource} {b : Builder}
    (h : ofConfig config environment locator hasStream log = .ok b) : b.executable = none := by
  rcases ofConfig_eq_ok h with ⟨b₀, hb₀, hsame | hflag⟩
  · rw [hsame, hb₀]
    rfl
  · rw [addArgument_executable hflag, hb₀]
    rfl

end Builder

/-- A handle without a child launches its command and no other. -/
theorem Handle.start_launched {s t : Handle × World} {r : Except Failure Unit}
    (hchild : s.1.child = none) (hrun : start s = (r, t)) :
    ∃ es, t.2.past = es ++ s.2.past ∧ ∀ command outlet environment child,
      .launched command outlet environment child ∈ es → command = s.1.command := by
  rw [start_of_none hchild] at hrun
  rcases launch_spec hrun with ⟨_, _, _, hkeeps⟩ |
    ⟨_, outlet, spawned, before, es, hpass, hbefore, htend, _⟩
  · rcases hkeeps.events with ⟨es, hpass, hes⟩
    refine ⟨es, hpass.past, fun _ _ _ _ hmem => ?_⟩
    exact absurd (hes _ hmem) Bool.false_ne_true
  · refine ⟨_, hpass.past, fun _ _ _ _ hmem => ?_⟩
    rcases List.mem_append.mp hmem with hmem | hmem
    · exact absurd (htend.kind _ hmem) Bool.false_ne_true
    · rcases List.mem_cons.mp hmem with heq | hmem
      · cases heq
        rfl
      · exact absurd (hbefore _ hmem) Bool.false_ne_true

namespace Builder

/-- What a handle launches that a build gave on a host. The file that was looked at is the one that
    runs, whatever becomes of the current directory and of the search, exactly if its path is
    absolute. -/
structure Launches (b : Builder) (host : Host) (s : Handle) : Prop where
  checked : host.pathExists s.executable
  word : Path.ofString s.executable.toText = s.executable
  script : ∃ script words, s.command = s.executable.toText :: script :: words ∧
    (Path.ofString script).isAbsolute
  log : ∀ file, b.logFile = some file → ∃ front token words, front.length = 6 ∧
    s.command = front ++ "--log" :: token :: words ∧ (Path.ofString token).isAbsolute
  launched : ∀ w r t, Handle.start (s, w) = (r, t) → ∃ es, t.2.past = es ++ w.past ∧
    ∀ command outlet environment child,
      .launched command outlet environment child ∈ es → command = s.command
  program : s.executable.isAbsolute ↔ ∀ (cwd : Path) (programs : Table String), cwd.isAbsolute →
    (host.moved cwd programs).runs? s.executable.toText = some (host.locate s.executable)

/-- A builder with a normal program, if it has one, gives handles that launch what they say. -/
theorem build_launches {b b' : Builder} {w w' : World} {s : Handle} (hb : b.HasNormalProgram)
    (hcwd : w.host.cwd.isAbsolute) (h : build (b, w) = (.ok s, (b', w'))) :
    Launches b w.host s := by
  rcases build_found h with ⟨hexists, hgiven⟩
  have hnormal : s.executable.IsNormal := hgiven.elim (hb _) id
  rcases build_agreement h with ⟨⟨script, address, logWords, flagWords, lastWords, hagree⟩, _⟩
  have hchild : s.child = none := by
    rcases build_eq_ok h with ⟨_, _, _, _, _, _, hs, _⟩
    rw [hs]
    rfl
  have habsolute (p : Path) : (Path.ofString (p.absolute w.host.cwd).toText).isAbsolute :=
    Path.isAbsolute_ofString_toText (Path.isAbsolute_absolute hcwd)
  constructor
  case checked => exact hexists
  case word => exact hnormal.ofString_toText
  case script => exact ⟨_, _, hagree.command, habsolute script⟩
  case log =>
    intro file hfile
    rcases hagree.logged with ⟨hnone, _⟩ | ⟨file', hfile', hwords⟩
    · cases hnone.symm.trans hfile
    · rw [hagree.command, hwords]
      refine ⟨[s.executable.toText, (script.absolute w.host.cwd).toText, "--port",
        Numeral.intText s.port, "--address", address], _, flagWords ++ lastWords, rfl, ?_,
        habsolute file'⟩
      simp only [List.cons_append, List.nil_append]
  case launched => exact fun w₁ r t hrun => Handle.start_launched (s := (s, w₁)) hchild hrun
  case program => exact hnormal.isAbsolute_iff_runs w.host

/-- A new builder, after any calls, gives handles that launch what they say. -/
theorem create_performAll_launched_iff {config : Option ServerConfig} {locator : Option Locator}
    {hasStream : Bool} {logger : Option Logger} {w₀ w₁ : World} {b : Builder}
    (hcreate : create config locator hasStream logger w₀ = (.ok b, w₁))
    (calls : List (BuilderCall × World)) (hcalls : ∀ call ∈ calls, call.1.IsNormal)
    {b' : Builder} {w w' : World} {s : Handle} (hcwd : w.host.cwd.isAbsolute)
    (h : build (BuilderCall.performAll b calls, w) = (.ok s, (b', w'))) :
    Launches (BuilderCall.performAll b calls) w.host s := by
  rcases create_eq_ok hcreate with ⟨config', environment, locator', log, hconfig, _⟩
  have hnew : b.HasNormalProgram := by
    intro p hp
    cases (ofConfig_executable hconfig).symm.trans hp
  exact build_launches (BuilderCall.performAll_program hnew hcalls) hcwd h

/-- A program that is found in the current directory and then searched for. It does not run where it
    was found, and another one runs where the search finds that. -/
theorem create_performAll_launched_iff_bareName :
    ∃ b w₁ calls b' w' s, create (some {}) (some ⟨[], .null, .given (.logger .journal)⟩) false
        (some .journal) .twoFiles = (.ok b, w₁) ∧
      calls = [(.executable (Path.ofString "./node"), .twoFiles),
        (.mainScript (Path.ofString "main.js"), .twoFiles),
        (.logFile (some (Path.ofString "server.log")), .twoFiles)] ∧
      build (BuilderCall.performAll b calls, .twoFiles) = (.ok s, (b', w')) ∧
      Launches (BuilderCall.performAll b calls) World.twoFiles.host s ∧
      s.command = ["node", "/main.js", "--port", "4723", "--address", "0.0.0.0", "--log",
        "/server.log"] ∧
      World.twoFiles.host.locate s.executable = ["node"] ∧
      World.twoFiles.host.runs? "node" = none ∧
      (World.twoFiles.host.moved ⟨.single, []⟩ [("node", "/usr/bin/node")]).runs? "node"
        = some ["usr", "bin", "node"] := by
  have hcreate : create (some {}) (some ⟨[], .null, .given (.logger .journal)⟩) false
      (some .journal) .twoFiles = (.ok _, _) := rfl
  refine ⟨_, _, _, _, _, _, hcreate, rfl, rfl, ?_, by decide +kernel, by decide +kernel,
    by decide +kernel, by decide +kernel⟩
  refine create_performAll_launched_iff hcreate _ (fun call hmem => ?_) rfl rfl
  simp only [List.mem_cons, List.not_mem_nil, or_false] at hmem
  rcases hmem with rfl | rfl | rfl
  · exact Path.isNormal_ofString "./node"
  · exact trivial
  · exact trivial

end Builder

end ServerLaunch
