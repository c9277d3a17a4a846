import ServerLaunch.Proofs.BuildStages
import ServerLaunch.Proofs.LaunchCommand

/-!
# Building Again

A build that has given a handle gives the same one ever after.

The first build of a builder may ask for a port, search for the program, run the package manager
for the script and look up a logger, and each of these answers may be another one tomorrow. It
writes all of them back. So the next build finds every question answered: the port is set, the two
paths are there to be checked once more, the address has a text, and the logger was chosen.
`Builder.Complete` says that of a builder, and it holds on as long as the files stay where they are.

A complete builder is built by looking at two files and writing a message, which is why the second
handle is not merely alike but the same value, and the builder is left as it was.

## Main definitions

* `World.Unmoved`: The files, the current directory and the system of a world are those of another.
* `Builder.Complete`: The builder has all that a launch needs.
* `World.deserted`: A world later on, in which nothing is to be found.

## Theorems

* `Builder.complete_of_build`: A build that gives a handle completes the builder.
* `Builder.Complete.unmoved`: A complete builder stays complete.
* `Builder.Complete.build`: The build of a complete builder.
* `Builder.build_again`: A second build gives the same handle.
* `Builder.build_again_deserted`: Even where nothing is to be found any more.
-/

namespace ServerLaunch

open Act World

/-- The files, the current directory and the system of a world are still those of an earlier one,
    and a logger that an object has chosen is still chosen. The files are looked up as before. All
    else may be different. -/
structure World.Unmoved (w v : World) : Prop where
  cwd : v.host.cwd = w.host.cwd
  files : v.host.files = w.host.files
  directories : v.host.directories = w.host.directories
  closed : v.host.closed = w.host.closed
  nameLimit : v.host.nameLimit = w.host.nameLimit
  system : v.host.system = w.host.system
  chosen : ∀ key object, w.chosenLoggers.lookup key = some object →
    v.chosenLoggers.lookup key = some object

namespace World.Unmoved

variable {w v : World}

theorem isDirectory (h : w.Unmoved v) (names : List String) :
    v.host.isDirectory names = w.host.isDirectory names := by
  simp only [Host.isDirectory, Host.locate, h.cwd, h.files, h.directories]

theorem lookFaultFrom (h : w.Unmoved v) (names above : List String) :
    v.host.lookFaultFrom above names = w.host.lookFaultFrom above names := by
  induction names generalizing above with
  | nil => rfl
  | cons name rest ih =>
      have hlong : v.host.isLongName name = w.host.isLongName name := by
        rw [Host.isLongName, Host.isLongName, h.nameLimit]
      rw [Host.lookFaultFrom, Host.lookFaultFrom, h.isDirectory, h.closed, hlong, ih]

theorem pathExists (h : w.Unmoved v) (p : Path) : v.host.pathExists p = w.host.pathExists p := by
  simp only [Host.pathExists, Host.look, Host.lookFault?, h.lookFaultFrom, Host.isThere, Host.file?,
    h.isDirectory, Host.locate, h.cwd, h.files]

theorem isWindows (h : w.Unmoved v) : v.host.isWindows = w.host.isWindows := by
  simp only [Host.isWindows, h.system]

end World.Unmoved

/-- A path that exists is what a lookup gives that is told it, and nothing happens. -/
theorem validatePath_of_exists {p : Path} {w : World} (h : w.host.pathExists p) (message : String) :
    validatePath (some p) message w = (.ok p, w) := by
  unfold validatePath
  dsimp only
  rw [bind_ok (lookAt_of_look (Host.look_of_pathExists h)), if_pos rfl]
  rfl

namespace Locator

variable (l : Locator) {p : Path} {w : World}

theorem resolveNode_given (h : w.host.pathExists p) :
    l.resolveNode (some p) w = (.ok p, w) := by
  unfold resolveNode
  rw [resolveFile_explicit, validatePath_of_exists h]

theorem resolveMainScript_given (h : w.host.pathExists p) :
    l.resolveMainScript (some p) w = (.ok p, w) := by
  unfold resolveMainScript
  rw [resolveFile_explicit, validatePath_of_exists h]

end Locator

namespace Builder

/-- The builder has all that a launch needs: a port, two files that are there, an address, and
    capabilities that can be written; and its logger is known. -/
structure Complete (b : Builder) (w : World) (executable script : Path) (last : List String)
    (l : Logger) : Prop where
  port : b.port ≠ 0
  executable_eq : b.executable = some executable
  executable_exists : w.host.pathExists executable
  script_eq : b.mainScript = some script
  script_exists : w.host.pathExists script
  address_eq : b.address = some b.boundAddress
  last_eq : b.capabilityTokens w.host = .ok last
  logger : LogSource.Settled w b.log l

section Completing

variable {b b' : Builder} {w w' v : World} {s : Handle} {executable script : Path}
  {last : List String} {l : Logger}

/-- A build that gives a handle leaves a complete builder, off which the handle can be read. -/
theorem complete_of_build (h : build (b, w) = (.ok s, (b', w')))
    (hfree : b.port = 0 → w.host.freePort ≠ 0) :
    ∃ executable script last l, b'.Complete w' executable script last l ∧
      s = b'.handle executable (b'.commandTokens w'.host.cwd script last) (.logger l) := by
  have hhost : w'.host = w.host := (build_onward h).host
  rcases build_settles h with ⟨script, last, l, hprogram, hscript, hlast, hl, hs, rfl⟩
  refine ⟨s.executable, script, last, l, ?_, by rw [hhost]; exact hs⟩
  constructor
  case port =>
    change (if b.port = 0 then w.host.freePort else b.port) ≠ 0
    by_cases hport : b.port = 0
    · rw [if_pos hport]
      exact hfree hport
    · rw [if_neg hport]
      exact hport
  case executable_exists =>
    -- Whatever was looked up was looked at, on a host that nothing in between has changed.
    rw [hhost]
    exact hprogram.of_ok.2
  case script_exists =>
    rw [hhost]
    exact hscript.of_ok.2
  case address_eq =>
    rw [boundAddress_launchReady]
    rfl
  case last_eq => rw [hhost]; exact hlast
  case logger => exact hl
  all_goals rfl

/-- A complete builder stays complete while the files stay where they are. -/
theorem Complete.unmoved (h : b.Complete w executable script last l) (hv : w.Unmoved v) :
    b.Complete v executable script last l := by
  constructor
  case port => exact h.port
  case executable_eq => exact h.executable_eq
  case executable_exists => rw [hv.pathExists]; exact h.executable_exists
  case script_eq => exact h.script_eq
  case script_exists => rw [hv.pathExists]; exact h.script_exists
  case address_eq => exact h.address_eq
  case last_eq =>
    have hlast := h.last_eq
    unfold capabilityTokens at hlast ⊢
    rw [hv.isWindows]
    exact hlast
  case logger => exact h.logger.of_chosen hv.chosen

/-- A complete builder is built by looking at two files and writing a message. It is left as it
    was. -/
theorem Complete.build (h : b.Complete w executable script last l) :
    ∃ w', Builder.build (b, w)
        = (.ok (b.handle executable (b.commandTokens w.host.cwd script last) (.logger l)),
          (b, w')) ∧
      Onward Event.isMessage w w' := by
  -- All is there already, so writing back what is found leaves the builder as it is.
  have hprogram : { b with executable := some executable } = b := by
    rw [← h.executable_eq]
  have hpinned : b.pinned script = b := by
    unfold pinned
    rw [← h.script_eq, ← h.address_eq]
  have hnode : resolveExecutable (b, w) = (.ok executable, (b, w)) := by
    refine resolveExecutable_eq_iff.mpr ⟨rfl, ?_⟩
    rw [h.executable_eq]
    exact b.locator.resolveNode_given h.executable_exists
  have hwords : buildArguments (b, w) = (.ok (b.commandTokens w.host.cwd script last), (b, w)) := by
    have hgiven := b.locator.resolveMainScript_given h.script_exists
    rw [← h.script_eq] at hgiven
    rcases buildArguments_cases b w with ⟨e, w', hscript, _⟩ |
      ⟨script', w', hscript, ⟨e, hlast, _⟩ | ⟨last', hlast, hwords⟩⟩
    · cases hgiven.symm.trans hscript
    · cases h.last_eq.symm.trans hlast
    · cases hgiven.symm.trans hscript
      cases h.last_eq.symm.trans hlast
      rw [hwords, hpinned]
  generalize b.commandTokens w.host.cwd script last = words at hwords ⊢
  -- The message is the one thing that happens, and the logger stays known over it.
  have hkept : change (fun b => { b with executable := some executable }) (b, w)
      = (.ok (), (b, w)) := congrArg (fun b => (Except.ok (), (b, w))) hprogram
  have hmessage := h.logger.log_apply .debug
    ("Service command: " ++ executable.toText ++ " " ++ wordList words)
  generalize hw' : l.written .launcher .debug
    ("Service command: " ++ executable.toText ++ " " ++ wordList words) w = w' at hmessage
  have honward : Onward Event.isMessage w w' := hw' ▸ l.written_onward _ _ _ w
  have hobject : inWorld b.log.object (b, w') = (.ok (.logger l), (b, w')) :=
    inWorld_eq_iff.mpr ⟨rfl, (h.logger.onward honward).object_apply⟩
  refine ⟨w', ?_, honward⟩
  unfold Builder.build
  rw [bind_ok (pickPort_of_ne h.port w), bind_ok hnode, bind_ok hkept, bind_ok hwords,
    bind_ok (note_eq_iff.mpr ⟨rfl, hmessage⟩), bind_ok (self_apply _), bind_ok hobject]
  rfl

/-- A second build gives the same handle and leaves the builder as it is, however the environment,
    the overrides, the search for programs, the package manager and the free ports have changed
    since. All that happens is that messages are written. -/
theorem build_again (hfree : w.host.freePort ≠ 0) (h : build (b, w) = (.ok s, (b', w')))
    (hv : w'.Unmoved v) :
    ∃ v', build (b', v) = (.ok s, (b', v')) ∧
      ∃ es, v'.past = es ++ v.past ∧ ∀ e ∈ es, e.isMessage := by
  rcases complete_of_build h fun _ => hfree with ⟨executable, script, last, l, hcomplete, rfl⟩
  rcases (hcomplete.unmoved hv).build with ⟨v', hbuild, honward⟩
  rw [← hv.cwd]
  exact ⟨v', hbuild, honward.past⟩

end Completing

end Builder

/-- A world later on: nothing is to be found by searching any more, no port is free, and what is
    said about the two files leads nowhere. -/
def World.deserted (w : World) : World :=
  { w with
    host := { w.host with
      environment := [("APPIUM_BINARY_PATH", "/none")], programs := [], npm := .missing
      freePort := 0 }
    overrides := [("NODE_BINARY_PATH", "/none")] }

theorem World.unmoved_deserted (w : World) : w.Unmoved w.deserted :=
  ⟨rfl, rfl, rfl, rfl, rfl, rfl, fun _ _ h => h⟩

namespace Builder

/-- A builder that asked for a port, searched for both files and took the registered logger is
    built once more, where none of this would give anything. -/
theorem build_again_deserted :
    ∃ s b' w' v', build (undecided, .searchable) = (.ok s, (b', w')) ∧
      s.command = ["/usr/bin/node", "/opt/appium/build/lib/main.js", "--port", "49152",
        "--address", "0.0.0.0"] ∧
      build (b', w'.deserted) = (.ok s, (b', v')) ∧
      ∃ es, v'.past = es ++ w'.deserted.past ∧ ∀ e ∈ es, e.isMessage := by
  have hbuild : build (undecided, .searchable) = (.ok _, (_, _)) := rfl
  rcases build_again (by decide) hbuild (unmoved_deserted _) with ⟨v', hagain⟩
  exact ⟨_, _, _, v', hbuild, by decide +kernel, hagain⟩

end Builder

end ServerLaunch
