import ServerLaunch.Proofs.SharedWords
import ServerLaunch.Proofs.StartCommand

/-!
# The Dry Run

What a command line that prints a launch says of the one that carries it out.

Both commands prepare a handle in the same way, and up to there two runs with the same words
go through the same worlds. From there on the dry run prints the command of the handle and is
done. The other run launches that command, once, and deals with the child for as long as it
takes. So the two histories have a common part, in which all lookups are, and they differ only
in what comes after it.

Runs that do not get as far end in the same way, for whatever goes wrong goes wrong in the
common part. Where a mistake on the command line is told along with the use of a command, the
name of the command is the only difference. `DryRun` lists the ends that a pair of runs can
come to. An answer that is given before a command is reached, such as the version, is one of
them.

The words have to mean the same to both commands, which is what `SharedWords` and `GroupWords`
are for.

## Main definitions

* `Unreached`: The program is done before a command is reached.
* `DryRun`: A run that prints a command and a run that launches it.

## Theorems

* `DryRun.args_adds`, `DryRun.start_of_failed`: What the ends have in common.
* `perform_of_error`, `perform_of_misuse`, `perform_args_of_prepared`,
  `perform_start_of_prepared`: The two commands once a handle is prepared or not.
* `Command.dryRun`: The two commands in the same context.
* `dispatch_append`: A command behind the options of the group.
* `run_dryRun`: Two runs of the program with the same options.
* `run_dryRun_twoFiles`: A command that is printed and launched.
-/

namespace ServerLaunch

open Act World

namespace CommandLine

/-- The program is done before a command is reached: a shell has asked for something, or the
    options of the group are wrong or show something at once. -/
def Unreached (globals : List String) (host : Host) : Prop :=
  (Request.ofEnvironment? host).isSome ∨
    ∀ path isVerbose words, readGroup host globals ≠ .ok (.config path isVerbose words)

/-- The ends of a run that prints a command and of one that launches it. Both have come to the
    world `w₁` with nothing but lookups and messages. -/
inductive DryRun (globals words : List String) (w : World) :
    Except Failure Int × World → Except Failure Int × World → Prop
  /-- Neither command is reached. -/
  | unreached {r : Except Failure Int} {w₁ : World} (hgroup : Unreached globals w.host)
      (hadds : Adds Event.isAside w w₁) : DryRun globals words w (r, w₁) (r, w₁)
  /-- Each command shows its own help. -/
  | shown {p : ParsedWords} {role : OptionRole} {w₁ : World}
      (hparse : parseWords true sharedOptions words = .ok p) (hrole : p.eager? = some role)
      (hadds : Adds Event.isAside w w₁) :
      DryRun globals words w (showAtOnce (some .args) role w₁) (showAtOnce (some .start) role w₁)
  /-- The same mistake, told along with the use of either command. -/
  | misused {fault : UsageFault} {w₁ : World} (hadds : Adds Event.isAside w w₁) :
      DryRun globals words w (refuse (some .args) fault w₁) (refuse (some .start) fault w₁)
  /-- The same failure, told in the same way or not at all. -/
  | failed {r : Except Failure Int} {w₁ : World} (hr : r ≠ .ok 0)
      (hadds : Adds Event.isAside w w₁) : DryRun globals words w (r, w₁) (r, w₁)
  /-- What is printed is launched. -/
  | launched {command : List String} {r : Except Failure Int} {w₁ w₂ : World}
      (hadds : Adds Event.isAside w w₁) (hlaunch : LaunchesOnce command w₁ w₂) :
      DryRun globals words w
        (.ok 0, w₁.record (.printed (ControlSequence.plain (commandLine false command)))) (r, w₂)

theorem refuse_fst (c : Option Command) (fault : UsageFault) (w : World) :
    (refuse c fault w).1 = .ok UsageFault.exitCode := rfl

theorem showAtOnce_fst (c : Option Command) (role : OptionRole) (w : World) :
    (showAtOnce c role w).1 = .ok 0 := by
  cases role <;> rfl

namespace DryRun

variable {globals words : List String} {w : World} {a s : Except Failure Int × World}

/-- The dry run never launches anything. -/
theorem args_adds (h : DryRun globals words w a s) : Adds Event.isAside w a.2 := by
  cases h with
  | unreached _ hadds => exact hadds
  | shown _ _ hadds => exact hadds.trans (keeps_showAtOnce _ _ _)
  | misused hadds => exact hadds.trans (keeps_refuse (fun _ => rfl) _ _ _)
  | failed _ hadds => exact hadds
  | launched hadds _ => exact hadds.trans (record_adds rfl _)

/-- A launch that the dry run fails to print comes to nothing in the same way. -/
theorem start_of_failed (h : DryRun globals words w a s) (ha : a.1 ≠ .ok 0) :
    s.1 = a.1 ∧ Adds Event.isAside w s.2 := by
  cases h with
  | unreached _ hadds => exact ⟨rfl, hadds⟩
  | shown _ _ _ => exact absurd (showAtOnce_fst _ _ _) ha
  | misused hadds =>
      rw [refuse_fst, refuse_fst]
      exact ⟨rfl, hadds.trans (keeps_refuse (fun _ => rfl) _ _ _)⟩
  | failed _ hadds => exact ⟨rfl, hadds⟩
  | launched _ _ => exact absurd rfl ha

end DryRun

namespace LaunchesOnce

variable {command : List String} {w w₁ w₂ : World}

/-- What the user is told after a launch is still a part of attending to the child. -/
theorem adds (h : LaunchesOnce command w w₁) (hadds : Adds Event.isAttending w₁ w₂) :
    LaunchesOnce command w w₂ := by
  rcases h with ⟨outlet, environment, spawned, before, after, hpast, hbefore, hafter⟩
  rcases hadds with ⟨es, hes, hkind⟩
  refine ⟨outlet, environment, spawned, before, es ++ after, ?_, hbefore,
    List.forall_mem_append.mpr ⟨hkind, hafter⟩⟩
  rw [hes, hpast]
  simp only [List.append_assoc]

theorem bind {α β : Type} {a : WorldAct α} {next : α → WorldAct β}
    (h : LaunchesOnce command w (a w₁).2) (hnext : ∀ x, (next x).Keeps (Adds Event.isAttending)) :
    LaunchesOnce command w ((a >>= next) w₁).2 :=
  h.adds (Keeps.of_bind hnext w₁)

theorem attempt {α : Type} {a : WorldAct α} (h : LaunchesOnce command w (a w₁).2) :
    LaunchesOnce command w (a.attempt w₁).2 := h

theorem reportErrors {a : WorldAct (Except UsageFault Int)}
    (h : LaunchesOnce command w (a w₁).2) : LaunchesOnce command w (reportErrors a w₁).2 := by
  refine h.attempt.bind fun outcome => ?_
  cases outcome with
  | ok result => exact .ofExcept _
  | error e =>
      cases e with
      | launch e => exact Keeps.bind (keeps_complain (fun _ => rfl) _) fun _ => .pure _
      | _ => exact .ofExcept _

end LaunchesOnce

section Commands

/-! ## The two commands -/

variable {context : LaunchContext} {o : ServerOptions} {w w₁ : World}

-- Errors are reported by what an action comes to, not by what it is.
theorem reportErrors_congr {a b : WorldAct (Except UsageFault Int)} (h : a w = b w₁) :
    reportErrors a w = reportErrors b w₁ := by
  unfold reportErrors
  rw [bind_ok (attempt_apply a w), bind_ok (attempt_apply b w₁), h]

/-- A failure to prepare a handle is the end of both commands, and the same one. -/
theorem perform_of_error {e : Failure} (h : prepare context o false w = (.error e, w₁)) :
    ∃ r w₂, (∀ c : Command, c.perform context o false w = (r, w₂)) ∧
      Adds Event.isAside w₁ w₂ ∧ (r = .error e ∨ r = .ok (.ok LaunchError.exitCode)) := by
  have hreport (c : Command) : c.perform context o false w = reportErrors (throw e) w₁ := by
    cases c <;> exact reportErrors_congr (bind_error h)
  -- An error of the launcher is reported; any other failure passes through.
  cases e with
  | launch e =>
      exact ⟨_, _, hreport, keeps_complain (fun _ => rfl) _ w₁, Or.inr rfl⟩
  | _ => exact ⟨_, _, hreport, .refl _ w₁, Or.inl rfl⟩

theorem perform_of_misuse (c : Command) {fault : UsageFault}
    (h : prepare context o false w = (.ok (.error fault), w₁)) :
    c.perform context o false w = (.ok (.error fault), w₁) := by
  have hreport : c.perform context o false w = reportErrors (pure (.error fault)) w₁ := by
    cases c <;> exact reportErrors_congr (bind_ok h)
  rw [hreport]
  rfl

theorem perform_args_of_prepared {handle : Handle}
    (h : prepare context o false w = (.ok (.ok handle), w₁)) :
    Command.args.perform context o false w = (.ok (.ok 0),
      w₁.record (.printed (ControlSequence.plain (commandLine false handle.command)))) := by
  have hargs : Command.args.perform context o false w = reportErrors (do
      print (commandLine false handle.command)
      return .ok 0) w₁ := reportErrors_congr (bind_ok h)
  rw [hargs]
  rfl

theorem perform_start_of_prepared {handle : Handle}
    (ho : ∀ n, o.timeout = some n → ∃ x, n = .float x)
    (h : prepare context o false w = (.ok (.ok handle), w₁)) :
    LaunchesOnce handle.command w₁ (Command.start.perform context o false w).2 := by
  have hstart : Command.start.perform context o false w = reportErrors (do
      return .ok (← withHandle handle launchAndWait)) w₁ := reportErrors_congr (bind_ok h)
  rw [hstart]
  exact ((withHandle_spec ho h).1.bind fun code => .pure _).reportErrors

theorem Command.dryRun {globals words : List String} {w₀ : World} (hwords : SharedWords words)
    (context : LaunchContext) (hadds : Adds Event.isAside w₀ w) :
    DryRun globals words w₀ (Command.args.run context words w)
      (Command.start.run context words w) := by
  unfold Command.run
  rw [parseWords_options .args hwords, parseWords_options .start hwords]
  cases hparse : parseWords true sharedOptions words with
  | error fault => exact .misused hadds
  | ok p =>
      dsimp only
      cases hrole : p.eager? with
      | some role => exact .shown hparse hrole hadds
      | none =>
          dsimp only
          rw [bind_ok (get_apply w), bind_ok (get_apply w)]
          cases hread : readServerOptions w.host p with
          | error fault => exact .misused hadds
          | ok o =>
              dsimp only
              rw [hasOwn_of_shared .args hparse, hasOwn_of_shared .start hparse]
              -- Neither has an option of its own, so both prepare the same handle.
              have hadds' := hadds.trans (keeps_prepare context o false w)
              rcases hprepare : prepare context o false w with ⟨outcome, w₁⟩
              rw [hprepare] at hadds'
              rcases outcome with e | fault | handle
              · rcases perform_of_error hprepare with ⟨r, w₂, hperform, hcomplained, hr⟩
                rcases hr with rfl | rfl
                · rw [bind_error (hperform .args), bind_error (hperform .start)]
                  exact .failed (fun h => nomatch h) (hadds'.trans hcomplained)
                · rw [bind_ok (hperform .args), bind_ok (hperform .start)]
                  exact .failed (fun h => nomatch h) (hadds'.trans hcomplained)
              · rw [bind_ok (perform_of_misuse .args hprepare),
                  bind_ok (perform_of_misuse .start hprepare)]
                exact .misused hadds'
              · rw [bind_ok (perform_args_of_prepared hprepare)]
                have ho := readServerOptions_timeout hread
                have hlaunch := perform_start_of_prepared ho hprepare
                refine .launched hadds' (hlaunch.bind fun result => ?_)
                cases result with
                | ok code => exact .pure _
                | error fault => exact keeps_refuse (fun _ => rfl) _ _

end Commands

section Program

/-! ## The program -/

variable {globals words : List String} {w : World}

theorem runWords_of_interrupted {w₁ : World} (h : dispatch words w = (.error .interrupted, w₁)) :
    runWords words w = (.ok LaunchError.exitCode,
      w₁.record (.complained (ControlSequence.plain abortedText))) := by
  unfold runWords
  rw [bind_ok (attempt_apply _ w), h]
  rfl

theorem runWords_of_ne (h : (dispatch words w).1 ≠ .error .interrupted) :
    runWords words w = dispatch words w := by
  unfold runWords
  rw [bind_ok (attempt_apply _ w)]
  rcases hdispatch : dispatch words w with ⟨r, w₁⟩
  rw [hdispatch] at h
  rcases r with e | code
  · cases e <;> first | rfl | exact absurd rfl h
  · rfl

theorem LaunchesOnce.runWords {command : List String} {w₀ : World}
    (h : LaunchesOnce command w₀ (dispatch words w).2) :
    LaunchesOnce command w₀ (runWords words w).2 := by
  refine h.attempt.bind fun outcome => ?_
  cases outcome with
  | ok result => exact .ofExcept _
  | error e =>
      cases e with
      | interrupted => exact Keeps.bind (keeps_complain (fun _ => rfl) _) fun _ => .pure _
      | _ => exact .ofExcept _

/-- Interruptions on either side become messages. -/
theorem runWords_dryRun {argsWords startWords : List String} {w₀ : World}
    (h : DryRun globals words w₀ (dispatch argsWords w) (dispatch startWords w)) :
    DryRun globals words w₀ (runWords argsWords w) (runWords startWords w) := by
  generalize ha : dispatch argsWords w = a at h
  generalize hs : dispatch startWords w = s at h
  -- An end with an exit code is left as it is.
  have hkept {words : List String} {code : Int} (hcode : (dispatch words w).1 = .ok code) :
      runWords words w = dispatch words w :=
    runWords_of_ne (by rw [hcode]; exact fun h => nomatch h)
  cases h with
  | @unreached r w₁ hgroup hadds =>
      by_cases hr : r = .error .interrupted
      · rw [runWords_of_interrupted (hr ▸ ha), runWords_of_interrupted (hr ▸ hs)]
        exact .unreached hgroup (hadds.trans (record_adds rfl w₁))
      · rw [runWords_of_ne (by rwa [ha]), runWords_of_ne (by rwa [hs]), ha, hs]
        exact .unreached hgroup hadds
  | shown hparse hrole hadds =>
      rw [hkept (by rw [ha, showAtOnce_fst]), hkept (by rw [hs, showAtOnce_fst]), ha, hs]
      exact .shown hparse hrole hadds
  | misused hadds =>
      rw [hkept (by rw [ha, refuse_fst]), hkept (by rw [hs, refuse_fst]), ha, hs]
      exact .misused hadds
  | @failed r w₁ hr hadds =>
      by_cases hr' : r = .error .interrupted
      · rw [runWords_of_interrupted (hr' ▸ ha), runWords_of_interrupted (hr' ▸ hs)]
        exact .failed (fun h => nomatch h) (hadds.trans (record_adds rfl w₁))
      · rw [runWords_of_ne (by rwa [ha]), runWords_of_ne (by rwa [hs]), ha, hs]
        exact .failed hr hadds
  | launched hadds hlaunch =>
      -- The launch may have been interrupted, which adds a message behind it.
      rw [hkept (by rw [ha]), ha]
      exact .launched hadds (LaunchesOnce.runWords (by rwa [hs]))

/-- A command is run if the options of the group leave it to be run. -/
theorem dispatch_append (hglobals : GroupWords globals) (c : Command) (words : List String)
    (w : World) : dispatch (globals ++ c.name :: words) w =
      match readGroup w.host globals with
      | .error fault => refuse none fault w
      | .ok (.atOnce role) => showAtOnce none role w
      | .ok (.config path isVerbose _) =>
        (LaunchContext.create path isVerbose none >>= fun context => c.run context words) w := by
  unfold dispatch
  rw [bind_ok (get_apply w), readGroup_append hglobals]
  rcases readGroup w.host globals with fault | role | ⟨path, isVerbose, rest⟩
  · rfl
  · rfl
  · cases c <;> rfl

theorem dispatch_dryRun (hglobals : GroupWords globals) (hwords : SharedWords words) (w : World) :
    DryRun globals words w (dispatch (globals ++ Command.args.name :: words) w)
      (dispatch (globals ++ Command.start.name :: words) w) := by
  rw [dispatch_append hglobals, dispatch_append hglobals]
  rcases hread : readGroup w.host globals with fault | role | ⟨path, isVerbose, rest⟩
  · have hgroup : Unreached globals w.host := Or.inr fun _ _ _ h => nomatch hread.symm.trans h
    exact .unreached hgroup (keeps_refuse (fun _ => rfl) _ _ w)
  · have hgroup : Unreached globals w.host := Or.inr fun _ _ _ h => nomatch hread.symm.trans h
    exact .unreached hgroup (keeps_showAtOnce _ _ w)
  · have hadds := (LaunchContext.keeps_create path isVerbose none w).adds
      fun _ => Event.isAside_of_isLogging
    dsimp only
    rcases hcreate : LaunchContext.create path isVerbose none w with ⟨outcome, w₁⟩
    rw [hcreate] at hadds
    cases outcome with
    | error e =>
        rw [bind_error hcreate, bind_error hcreate]
        exact .failed (fun h => nomatch h) hadds
    | ok context =>
        rw [bind_ok hcreate, bind_ok hcreate]
        exact Command.dryRun hwords context hadds

/-- Two runs of the program with the same options, one of which prints a command and the other
    launches it, come to one of the ends of a dry run. The first of them launches nothing, and
    if it fails, so does the second, in the same way and without a launch. -/
theorem run_dryRun {globals words : List String} (hglobals : GroupWords globals)
    (hwords : SharedWords words) (w : World) :
    DryRun globals words w (run (globals ++ "args" :: words) w)
        (run (globals ++ "start" :: words) w) ∧
      Adds Event.isAside w (run (globals ++ "args" :: words) w).2 ∧
      ((run (globals ++ "args" :: words) w).1 ≠ .ok 0 →
        (run (globals ++ "start" :: words) w).1 = (run (globals ++ "args" :: words) w).1 ∧
          Adds Event.isAside w (run (globals ++ "start" :: words) w).2) := by
  have hrun : DryRun globals words w (run (globals ++ "args" :: words) w)
      (run (globals ++ "start" :: words) w) := by
    unfold run
    rw [bind_ok (get_apply w), bind_ok (get_apply w)]
    -- A shell that asks for something gets its answer, whatever the words are.
    cases hrequest : Request.ofEnvironment? w.host with
    | some request =>
        have hgroup : Unreached globals w.host := Or.inl (by rw [hrequest]; rfl)
        exact .unreached hgroup (keeps_answerShell request w)
    | none => exact runWords_dryRun (dispatch_dryRun hglobals hwords w)
  exact ⟨hrun, hrun.args_adds, hrun.start_of_failed⟩

/-- What is printed is launched, with a free port on both sides. -/
theorem run_dryRun_twoFiles :
    ∃ a s, a = run ["-v", "args", "--node", "node", "--main-script=main.js", "-p0"] .twoFiles ∧
      s = run ["-v", "start", "--node", "node", "--main-script=main.js", "-p0"] .twoFiles ∧
      DryRun ["-v"] ["--node", "node", "--main-script=main.js", "-p0"] .twoFiles a s ∧
      .printed "node /main.js --port 49152 --address 0.0.0.0\n" ∈ a.2.past ∧
      .launched ["node", "/main.js", "--port", "49152", "--address", "0.0.0.0"] .pipe [] (some 0)
        ∈ s.2.past := by
  have hgroup : parseWords false groupOptions ["-v"] = .ok ⟨[(verboseOption, none)], []⟩ := by
    decide +kernel
  have hglobals : GroupWords ["-v"] := by
    refine ⟨fun name h => ?_, fun p h => ?_⟩ <;> rw [hgroup] at h <;> cases h
    rfl
  have hwords : SharedWords ["--node", "node", "--main-script=main.js", "-p0"] := by
    intro name similar h
    have hok : (parseWords true sharedOptions
      ["--node", "node", "--main-script=main.js", "-p0"]).isOk := by decide +kernel
    rw [h] at hok
    exact absurd hok Bool.false_ne_true
  refine ⟨_, _, rfl, rfl, (run_dryRun hglobals hwords .twoFiles).1, ?_, ?_⟩
  · decide +kernel
  · decide +kernel

end Program

end CommandLine

end ServerLaunch
