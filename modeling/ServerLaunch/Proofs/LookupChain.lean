import ServerLaunch.Bootstrap
import ServerLaunch.Proofs.Discovery
import ServerLaunch.Proofs.Outcome
import ServerLaunch.Proofs.Tables

/-!
# The Chain of Lookups

Which file a launch takes, out of all the places that may name one.

A file may be given by the caller, by an override of the process, by a variable of the
environment, and last by a search. The first of them that says anything decides, and what it
says is final: a path that leads nowhere is a failure, even if the next place would have led
somewhere. So the whole of a lookup is one path or none, `told` of what the first three places
say or else what a search would find, and the verdict on it depends on whether it exists. A
search is made only if none of the three says anything, and the package manager is asked once
at the most.

Not every failure is a verdict against a path. The system may refuse to look at it, or at the
package manager, and the run of the package manager may break down; `SearchFault` has these, and
they leave a lookup as they are. And everything but a path that the caller gives is noted in a
log: a locator without a logger of its own makes one for its first message, and what the making
fails with passes through the locator. There is no third sort.

## Main definitions

* `OverrideCall`, `World.overriddenBy`: Changes to the overrides of the process.
* `overrideAfter`, `told`: What the places before a search say.
* `SearchFault`, `Finding`: What goes wrong with a search; what one comes to.
* `Host.programPath?`, `Host.scriptFinding`: What a search finds.
* `Verdict`: The outcome for a path, or for none.
* `Locator.Decides`: What a lookup gives and does.

## Theorems

* `lookup_overriddenBy`: The last change of an override counts.
* `Locator.findBinary_decides`, `Locator.findMainScript_decides`: The two searches.
* `Locator.resolveFile_decides`: A lookup, for any search.
* `Locator.resolve_first_told`: The two files, after any changes to the overrides.
-/

namespace ServerLaunch

open Act World

section Overrides

/-! ## Overrides -/

/-- What is found in a table without a name. -/
theorem Table.lookup_drop {α : Type} (table : Table α) (name key : String) :
    (table.drop name).lookup key = if name = key then none else table.lookup key := by
  induction table with
  | nil => exact (ite_self none).symm
  | cons e rest ih =>
      rcases e with ⟨other, a⟩
      unfold drop at ih ⊢
      by_cases hdropped : other = name
      · rw [List.filter_cons_of_neg (by simpa using hdropped), ih]
        by_cases hkey : name = key
        · rw [if_pos hkey, if_pos hkey]
        · have hne : (key == other) = false := by
            rw [hdropped]
            exact beq_false_of_ne fun h => hkey h.symm
          rw [if_neg hkey, if_neg hkey, List.lookup_cons, hne]
      · rw [List.filter_cons_of_pos (by simpa using hdropped), List.lookup_cons, List.lookup_cons,
          ih]
        by_cases hkey : key = other
        · have hne : name ≠ other := fun h => hdropped h.symm
          simp only [hkey, beq_self_eq_true, if_neg hne]
        · rw [beq_false_of_ne hkey]

/-- A change to the overrides of the process. -/
inductive OverrideCall where
  | set (name value : String)
  | clear (name : String)

namespace OverrideCall

/-- The name that is changed. -/
def name : OverrideCall → String
  | .set name _ => name
  | .clear name => name

/-- What it is changed to. -/
def value? : OverrideCall → Option String
  | .set _ value => some value
  | .clear _ => none

/-- Makes the change. -/
def perform : OverrideCall → WorldAct Unit
  | .set name value => setOverride name value
  | .clear name => clearOverride name

end OverrideCall

/-- The world after some changes to the overrides, one after the other. -/
def World.overriddenBy (w : World) (calls : List OverrideCall) : World :=
  calls.foldl (fun w call => (call.perform w).2) w

/-- The override that a name has after some changes: that of the last one for the name, or else
    the one from before. -/
def overrideAfter (before : Option String) (calls : List OverrideCall) (name : String) :
    Option String :=
  match calls.reverse.find? fun call => call.name == name with
  | some call => call.value?
  | none => before

/-- The last change of an override counts, and no other. -/
theorem lookup_overriddenBy (w : World) (calls : List OverrideCall) (name : String) :
    (w.overriddenBy calls).overrides.lookup name
      = overrideAfter (w.overrides.lookup name) calls name := by
  induction calls using List.reverseRecOn with
  | nil => rfl
  | append_singleton calls call ih =>
      have hlast : w.overriddenBy (calls ++ [call]) = (call.perform (w.overriddenBy calls)).2 :=
        List.foldl_concat _ _ _ _
      have hafter : overrideAfter (w.overrides.lookup name) (calls ++ [call]) name
          = if call.name = name then call.value?
            else overrideAfter (w.overrides.lookup name) calls name := by
        unfold overrideAfter
        rw [List.reverse_concat, List.find?_cons]
        by_cases hname : call.name = name
        · rw [if_pos hname, beq_iff_eq.mpr hname]
        · rw [if_neg hname, beq_false_of_ne hname]
      rw [hlast, hafter, ← ih]
      cases call with
      | set other value => exact Table.lookup_put _ other name value
      | clear other => exact Table.lookup_drop _ other name

end Overrides

/-- A value other than the empty text. -/
def visible (value : Option String) : Option String :=
  value.filter fun s => !s.toList.isEmpty

/-- The path that is named before anything is searched for: by the caller, by an override, or by
    a variable, in this order, and an empty text names none. -/
def told (explicit : Option Path) (override environment : Option String) : Option Path :=
  explicit.or (((visible override).or (visible environment)).map Path.ofString)

/-- Where the search for a program ends. -/
def Host.programPath? (h : Host) (name : String) : Option Path :=
  (visible (h.program? name)).map Path.ofString

/-- What goes wrong with a search itself: a look that is refused, or a program whose run breaks
    down. -/
inductive SearchFault where
  | look (fault : LookFault)
  | run (fault : RunFault)

/-- The failure that comes of it. -/
def SearchFault.failure : SearchFault → Failure
  | .look fault => fault.failure
  | .run fault => fault.failure

theorem SearchFault.failure_ne_launch (fault : SearchFault) (e : LaunchError) :
    fault.failure ≠ .launch e := by
  rcases fault with fault | (_ | _ | _ | _) <;> exact fun h => nomatch h

/-- What a lookup comes to before its path is looked at: a path, or none, unless it breaks down. -/
abbrev Finding := Except SearchFault (Option Path)

/-- The path that is named, or else what a search comes to. -/
def Finding.after (found : Finding) (told : Option Path) : Finding :=
  match told with
  | some p => .ok (some p)
  | none => found

theorem Finding.after_ok (told found : Option Path) :
    Finding.after (.ok found) told = .ok (told.or found) := by
  cases told <;> rfl

/-- The main script below the directory that the package manager prints. -/
def scriptBelow (text : String) : Path :=
  (Path.ofString (Text.trimmed text)).append mainScriptSuffix

/-- Where the answer of the package manager leads to. -/
def NpmOutcome.finding : NpmOutcome → Finding
  | .printed text => .ok (some (scriptBelow text))
  | .broken fault => .error (.run fault)
  | .failed | .timedOut | .missing => .ok none

/-- Where the search for the main script ends: below the directory that the package manager prints,
    if there is one and it runs. -/
def Host.scriptFinding (h : Host) : Finding :=
  match h.programPath? "npm" with
  | none => .ok none
  | some npm =>
    match h.look npm with
    | .error fault => .error (.look fault)
    | .ok false => .ok none
    | .ok true => h.npm.finding

/-- The outcome for a path, or for none: the path if it exists, or else that the installation is
    broken. What goes wrong with a look, or went wrong before, is the outcome as it is. -/
inductive Verdict (host : Host) : Finding → Except Failure Path → Prop
  | found {p : Path} (h : host.look p = .ok true) : Verdict host (.ok (some p)) (.ok p)
  | missing {p : Path} {e : LaunchError} (h : host.look p = .ok false)
      (he : e.kind = .invalidInstance) : Verdict host (.ok (some p)) (.error (.launch e))
  | refused {p : Path} {fault : LookFault} (h : host.look p = .error fault) :
      Verdict host (.ok (some p)) (.error (SearchFault.look fault).failure)
  | unknown {e : LaunchError} (he : e.kind = .invalidInstance) :
      Verdict host (.ok none) (.error (.launch e))
  | broken (fault : SearchFault) : Verdict host (.error fault) (.error fault.failure)

/-- A path is looked at, and that is all. -/
theorem validatePath_verdict (p : Option Path) (message : String) (w : World) :
    ∃ r, validatePath p message w = (r, w) ∧ Verdict w.host (.ok p) r := by
  unfold validatePath
  cases p with
  | none => exact ⟨_, rfl, .unknown rfl⟩
  | some p =>
      have hlooked := lookAt_apply p w
      dsimp only
      rcases hlook : w.host.look p with fault | _ | _
      · rw [hlook] at hlooked
        exact ⟨_, bind_error hlooked, .refused hlook⟩
      · rw [hlook] at hlooked
        exact ⟨_, bind_ok hlooked, .missing hlook rfl⟩
      · rw [hlook] at hlooked
        exact ⟨_, bind_ok hlooked, .found hlook⟩

/-- The package manager is run, and that is seen however the run ends. -/
theorem runNpm_run (command : List String) (timeout : Value) (w : World) :
    runNpm command timeout w = (w.host.npm.answer, w.record (.ran command timeout)) :=
  rfl

namespace Event

/-- A program is run to its end. -/
def isRun : Event → Bool
  | .ran .. => true
  | _ => false

/-- A program is searched for or run. -/
def isInquiry : Event → Bool
  | .searched _ => true
  | e => e.isRun

/-- What comes of a search for a program. -/
def isProgramSearch (e : Event) : Bool :=
  e.isSearch && !e.isRun

theorem isProgramSearch_of_isLogging {e : Event} (h : e.isLogging) : e.isProgramSearch := by
  cases e <;> first | rfl | exact absurd h Bool.false_ne_true

theorem isInquiry_of_isLogging {e : Event} (h : e.isLogging) : e.isInquiry = false := by
  cases e <;> first | rfl | exact absurd h Bool.false_ne_true

end Event

/-- The world goes on with a search in which programs are run so many times at the most. -/
def Runs (n : Nat) (w w' : World) : Prop :=
  ∃ es, w'.past = es ++ w.past ∧ (∀ e ∈ es, e.isSearch) ∧ es.countP Event.isRun ≤ n

namespace Runs

variable {m n : Nat} {w w' w'' : World}

theorem trans (h : Runs m w w') (h' : Runs n w' w'') : Runs (m + n) w w'' := by
  rcases h with ⟨es, hpast, hsearch, hcount⟩
  rcases h' with ⟨es', hpast', hsearch', hcount'⟩
  refine ⟨es' ++ es, by rw [hpast', hpast, List.append_assoc],
    List.forall_mem_append.mpr ⟨hsearch', hsearch⟩, ?_⟩
  rw [List.countP_append]
  omega

theorem mono (hmn : m ≤ n) (h : Runs m w w') : Runs n w w' := by
  rcases h with ⟨es, hpast, hsearch, hcount⟩
  exact ⟨es, hpast, hsearch, Nat.le_trans hcount hmn⟩

/-- In a search for a program none is run. -/
theorem of_onward (h : Onward Event.isProgramSearch w w') : Runs 0 w w' := by
  rcases h.past with ⟨es, hpast, hkind⟩
  have hboth (e : Event) (he : e ∈ es) : e.isSearch ∧ ¬ e.isRun := by
    have hsearch := hkind e he
    simp only [Event.isProgramSearch, Bool.and_eq_true, Bool.not_eq_true'] at hsearch
    exact ⟨hsearch.1, by rw [hsearch.2]; exact Bool.false_ne_true⟩
  refine ⟨es, hpast, fun e he => (hboth e he).1, Nat.le_of_eq ?_⟩
  exact List.countP_eq_zero.mpr fun e he => (hboth e he).2

/-- A program that is run. -/
theorem single (command : List String) (timeout : Value) (w : World) :
    Runs 1 w (w.record (.ran command timeout)) :=
  ⟨[.ran command timeout], rfl, List.forall_mem_singleton.mpr rfl, Nat.le_refl 1⟩

end Runs

namespace Locator

/-- What a lookup gives and does, for a path that is told beforehand, if there is one, and one
    that a search would find. -/
structure Decides (log : LogSource) (explicit told : Option Path) (found : Finding) (w : World)
    (a : WorldAct Path) : Prop where
  verdict : explicit.isSome ∨ (log.logger w).1.isOk → Verdict w.host (found.after told) (a w).1
  unheard : explicit = none → ∀ e, (log.logger w).1 = .error e → (a w).1 = .error e
  host : (a w).2.host = w.host
  events : ∃ es, (a w).2.past = es ++ w.past ∧ (∀ e ∈ es, e.isSearch) ∧
    (told.isSome → ∀ e ∈ es, e.isInquiry = false) ∧ es.countP Event.isRun ≤ 1

variable (l : Locator)

/-- A message of a logger that is known. -/
theorem log_settled {logger : Logger} {w : World} (hl : LogSource.Settled w l.log logger)
    (level : LogLevel) (message : String) :
    ∃ w', l.log.log level message w = (.ok (), w') ∧ Onward Event.isProgramSearch w w' ∧
      LogSource.Settled w' l.log logger := by
  have honward := logger.written_onward .launcher level message w
  exact ⟨_, hl.log_apply level message, honward.mono fun _ he =>
    Event.isProgramSearch_of_isLogging (Event.isLogging_of_isMessage he), hl.onward honward⟩

/-- A search for a program, step by step. -/
theorem findBinary_run (name message : String) (w : World) :
    ∃ r w', l.findBinary name message w = (r, w') ∧ Onward Event.isProgramSearch w w' ∧
      ((∃ e, r = .error e ∧ (l.log.logger w).1 = .error e) ∨
      Verdict w.host (.ok (w.host.programPath? name)) r ∧ (l.log.logger w).1.isOk ∧
        ∃ logger, LogSource.Settled w' l.log logger) := by
  unfold findBinary
  rcases l.log.log_first .debug ("Searching PATH for " ++ name) w with
    ⟨r₁, w₁, hlog, honward₁, ⟨e, rfl, hlogger⟩ | ⟨rfl, hlogger, logger, hl⟩⟩
  · rw [bind_error hlog]
    exact ⟨_, w₁, rfl, honward₁.mono fun _ => Event.isProgramSearch_of_isLogging,
      Or.inl ⟨e, rfl, hlogger⟩⟩
  · have hsearched : record (.searched name) w₁ = (.ok (), w₁.record (.searched name)) := rfl
    have hrecord : Onward Event.isProgramSearch w₁ (w₁.record (.searched name)) :=
      record_onward rfl w₁
    have honward₂ := (honward₁.mono fun _ => Event.isProgramSearch_of_isLogging).trans hrecord
    have hl₂ := hl.onward hrecord
    rw [bind_ok hlog, bind_ok hsearched]
    generalize w₁.record (.searched name) = w₂ at honward₂ hl₂
    have hhost : w₂.host = w.host := honward₂.host
    rw [bind_ok (get_apply w₂)]
    dsimp only
    unfold Host.programPath? visible
    rw [← hhost]
    cases (w₂.host.program? name).filter fun s => !s.toList.isEmpty with
    | none =>
        rcases validatePath_verdict none message w₂ with ⟨r, hrun, hverdict⟩
        exact ⟨r, w₂, hrun, honward₂, Or.inr ⟨hverdict, hlogger, logger, hl₂⟩⟩
    | some s =>
        rcases l.log_settled hl₂ .debug ("Found " ++ name ++ " at: " ++ s) with
          ⟨w₃, hlog₃, honward₃, hl₃⟩
        rcases validatePath_verdict (some (Path.ofString s)) message w₃ with ⟨r, hrun, hverdict⟩
        rw [honward₃.host] at hverdict
        exact ⟨r, w₃, (bind_ok hlog₃).trans hrun, honward₂.trans honward₃,
          Or.inr ⟨hverdict, hlogger, logger, hl₃⟩⟩

/-- What a search for the main script does once the package manager is found. -/
def askForScript (npm : Path) : WorldAct Path := do
  let command := npmRootCommand (← get).host npm
  l.log.log .debug ("Querying global modules root: " ++ wordList command)
  match ← runNpm command l.npmTimeout with
  | .error cause =>
    let context : Entries := [(.text "command", .text (spaced command))]
    throw (.launch ⟨.invalidInstance, modulesUnknown, context, some cause⟩)
  | .ok text =>
    let root := Text.trimmed text
    l.log.log .debug ("Global modules root: " ++ root)
    let script := (Path.ofString root).append mainScriptSuffix
    validatePath (some script) (scriptMissing (← get).host.cwd script)

theorem findMainScript_eq : l.findMainScript = l.findNpm >>= l.askForScript :=
  rfl

/-- The package manager is run once, and its answer decides. -/
theorem askForScript_run {logger : Logger} {w : World} (hl : LogSource.Settled w l.log logger)
    (npm : Path) :
    ∃ r w', l.askForScript npm w = (r, w') ∧ w'.host = w.host ∧ Runs 1 w w' ∧
      Verdict w.host w.host.npm.finding r := by
  unfold askForScript
  rcases l.log_settled hl .debug ("Querying global modules root: " ++
    wordList (npmRootCommand w.host npm)) with ⟨w₁, hlog₁, honward₁, hl₁⟩
  rw [bind_ok (get_apply w)]
  dsimp only
  rw [bind_ok hlog₁]
  generalize npmRootCommand w.host npm = command
  have hruns := (Runs.of_onward honward₁).trans (.single command l.npmTimeout w₁)
  have hran := runNpm_run command l.npmTimeout w₁
  rw [honward₁.host] at hran
  cases hnpm : w.host.npm with
  | broken fault =>
      rw [hnpm] at hran
      exact ⟨_, _, bind_error hran, honward₁.host, hruns, .broken _⟩
  | failed =>
      rw [hnpm] at hran
      exact ⟨_, _, bind_ok hran, honward₁.host, hruns, .unknown rfl⟩
  | timedOut =>
      rw [hnpm] at hran
      exact ⟨_, _, bind_ok hran, honward₁.host, hruns, .unknown rfl⟩
  | missing =>
      rw [hnpm] at hran
      exact ⟨_, _, bind_ok hran, honward₁.host, hruns, .unknown rfl⟩
  | printed text =>
      rw [hnpm] at hran
      have hrecord : Onward Event.isSearch w₁ (w₁.record (.ran command l.npmTimeout)) :=
        record_onward rfl w₁
      rcases l.log_settled (hl₁.onward hrecord) .debug
        ("Global modules root: " ++ Text.trimmed text) with ⟨w₂, hlog₂, honward₂, _⟩
      rw [bind_ok hran]
      dsimp only
      rw [bind_ok hlog₂, bind_ok (get_apply w₂)]
      rcases validatePath_verdict (some (scriptBelow text))
        (scriptMissing w₂.host.cwd (scriptBelow text)) w₂ with ⟨r, hrun, hverdict⟩
      have hhost : w₂.host = w.host := honward₂.host.trans honward₁.host
      rw [hhost] at hverdict
      exact ⟨r, w₂, hrun, hhost, hruns.trans (.of_onward honward₂), hverdict⟩

/-- The search for the main script, step by step. -/
theorem findMainScript_run (w : World) :
    ∃ r w', l.findMainScript w = (r, w') ∧ w'.host = w.host ∧ Runs 1 w w' ∧
      ((∃ e, r = .error e ∧ (l.log.logger w).1 = .error e) ∨
      Verdict w.host w.host.scriptFinding r ∧ (l.log.logger w).1.isOk) := by
  rw [findMainScript_eq, findNpm]
  rcases l.findBinary_run "npm" npmMissing w with
    ⟨r₁, w₁, hnpm, honward₁, ⟨e, rfl, hlogger⟩ | ⟨hverdict, hlogger, logger, hl₁⟩⟩
  · exact ⟨_, w₁, bind_error hnpm, honward₁.host,
      (Runs.of_onward honward₁).mono (Nat.zero_le 1), Or.inl ⟨e, rfl, hlogger⟩⟩
  · have hruns₁ := Runs.of_onward honward₁
    unfold Host.scriptFinding
    generalize w.host.programPath? "npm" = found at hverdict ⊢
    -- Without a package manager there is nobody to ask.
    cases hverdict with
    | unknown he =>
        exact ⟨_, w₁, bind_error hnpm, honward₁.host, hruns₁.mono (Nat.zero_le 1),
          Or.inr ⟨.unknown he, hlogger⟩⟩
    | missing hlook he =>
        dsimp only
        rw [hlook]
        exact ⟨_, w₁, bind_error hnpm, honward₁.host, hruns₁.mono (Nat.zero_le 1),
          Or.inr ⟨.unknown he, hlogger⟩⟩
    | refused hlook =>
        dsimp only
        rw [hlook]
        exact ⟨_, w₁, bind_error hnpm, honward₁.host, hruns₁.mono (Nat.zero_le 1),
          Or.inr ⟨.broken _, hlogger⟩⟩
    | found hlook =>
        dsimp only
        rw [hlook]
        rcases l.askForScript_run hl₁ _ with ⟨r, w₂, hrun, hhost₂, hruns₂, hverdict₂⟩
        rw [honward₁.host] at hverdict₂
        exact ⟨r, w₂, (bind_ok hnpm).trans hrun, hhost₂.trans honward₁.host,
          hruns₁.trans hruns₂, Or.inr ⟨hverdict₂, hlogger⟩⟩

variable {l} {explicit : Option Path} {found : Finding} {w : World}

/-- A lookup that is the same action in this world. -/
theorem Decides.congr {log : LogSource} {told : Option Path} {a b : WorldAct Path} (hab : a w = b w)
    (h : Decides log explicit told found w a) : Decides log explicit told found w b := by
  rcases h with ⟨hverdict, hunheard, hhost, hevents⟩
  rw [hab] at hverdict hunheard hhost hevents
  exact ⟨hverdict, hunheard, hhost, hevents⟩

/-- A lookup that comes to a verdict, unless there is no logger and no path from the caller. -/
theorem Decides.of_run {log : LogSource} {told : Option Path} {a : WorldAct Path}
    {r : Except Failure Path} {w' : World} (hrun : a w = (r, w')) (hhost : w'.host = w.host)
    (hevents : ∃ es, w'.past = es ++ w.past ∧ (∀ e ∈ es, e.isSearch) ∧
      (told.isSome → ∀ e ∈ es, e.isInquiry = false) ∧ es.countP Event.isRun ≤ 1)
    (hcase : (explicit = none ∧ ∃ e, r = .error e ∧ (log.logger w).1 = .error e) ∨
      Verdict w.host (found.after told) r ∧ (explicit.isSome ∨ (log.logger w).1.isOk)) :
    Decides log explicit told found w a := by
  refine ⟨fun hheard => ?_, fun hnone e he => ?_, by rw [hrun, hhost], by rw [hrun]; exact hevents⟩
  · rw [hrun]
    rcases hcase with ⟨hnone, e, _, hlogger⟩ | ⟨hverdict, _⟩
    · rw [hnone, hlogger] at hheard
      rcases hheard with h | h <;> exact absurd h Bool.false_ne_true
    · exact hverdict
  · rw [hrun]
    rcases hcase with ⟨_, e', rfl, hlogger⟩ | ⟨_, hheard⟩
    · exact congrArg _ (Except.error.inj (hlogger.symm.trans he))
    · rw [hnone, he] at hheard
      rcases hheard with h | h <;> exact absurd h Bool.false_ne_true

/-- A search, in which a program is run once at the most. -/
theorem Decides.of_search {search : WorldAct Path} {r : Except Failure Path} {w' : World}
    (hrun : search w = (r, w')) (hhost : w'.host = w.host) (hruns : Runs 1 w w')
    (hcase : (∃ e, r = .error e ∧ (l.log.logger w).1 = .error e) ∨
      Verdict w.host found r ∧ (l.log.logger w).1.isOk) :
    Decides l.log none none found w search := by
  rcases hruns with ⟨es, hpast, hsearch, hcount⟩
  refine .of_run hrun hhost
    ⟨es, hpast, hsearch, fun h => absurd h Bool.false_ne_true, hcount⟩ ?_
  rcases hcase with hunheard | ⟨hverdict, hheard⟩
  · exact Or.inl ⟨rfl, hunheard⟩
  · exact Or.inr ⟨hverdict, Or.inr hheard⟩

/-- A path that is told beforehand and looked at, with messages in a log at the most. -/
theorem Decides.of_told {log : LogSource} {a : WorldAct Path} {p : Path} {r : Except Failure Path}
    {w' : World} (hrun : a w = (r, w')) (honward : Onward Event.isLogging w w')
    (hcase : (explicit = none ∧ ∃ e, r = .error e ∧ (log.logger w).1 = .error e) ∨
      Verdict w.host (.ok (some p)) r ∧ (explicit.isSome ∨ (log.logger w).1.isOk)) :
    Decides log explicit (some p) found w a := by
  rcases honward.past with ⟨es, hpast, hlogging⟩
  have hquiet : es.countP Event.isRun = 0 := by
    refine List.countP_eq_zero.mpr fun e he hran => ?_
    have hsearch := Event.isProgramSearch_of_isLogging (hlogging e he)
    rw [Event.isProgramSearch, hran, Bool.not_true, Bool.and_false] at hsearch
    exact absurd hsearch Bool.false_ne_true
  refine .of_run hrun honward.host ⟨es, hpast, fun e he => Event.isSearch_of_isLogging
    (hlogging e he), fun _ e he => Event.isInquiry_of_isLogging (hlogging e he), ?_⟩ hcase
  omega

theorem findBinary_decides (l : Locator) (name message : String) (w : World) :
    Decides l.log none none (.ok (w.host.programPath? name)) w (l.findBinary name message) := by
  rcases l.findBinary_run name message w with ⟨r, w', hrun, honward, hcase⟩
  refine .of_search hrun honward.host ((Runs.of_onward honward).mono (Nat.zero_le 1)) ?_
  rcases hcase with hcase | ⟨hverdict, hlogger, _⟩
  · exact Or.inl hcase
  · exact Or.inr ⟨hverdict, hlogger⟩

theorem findMainScript_decides (l : Locator) (w : World) :
    Decides l.log none none w.host.scriptFinding w l.findMainScript := by
  rcases l.findMainScript_run w with ⟨r, w', hrun, hhost, hruns, hcase⟩
  exact .of_search hrun hhost hruns hcase

/-- What the two sources say that are asked unless told otherwise. -/
theorem lookupPath_defaultSources (w : World) (name : String) :
    lookupPath w name defaultSources
      = ((visible (w.overrides.lookup name)).or
        (visible (w.host.environmentValue? name))).map Path.ofString := by
  have hoverride : LookupSource.override? w name .overrides = visible (w.overrides.lookup name) :=
    rfl
  have hvariable :
      LookupSource.override? w name .environment = visible (w.host.environmentValue? name) := rfl
  unfold lookupPath defaultSources
  rw [List.findSome?_cons, hoverride, List.findSome?_cons, hvariable, List.findSome?_nil]
  cases visible (w.overrides.lookup name) with
  | some s => rfl
  | none => cases visible (w.host.environmentValue? name) <;> rfl

section Cases

variable (l : Locator) {name use : String} {missing : Path → Path → String} {search : WorldAct Path}

theorem resolveFile_explicit (p : Path) (w : World) :
    l.resolveFile name use missing search (some p) w
      = validatePath (some p) (missing w.host.cwd p) w := by
  unfold resolveFile
  rw [bind_ok (get_apply w)]

theorem resolveFile_named {p : Path} {w : World} (h : lookupPath w name l.sources = some p) :
    l.resolveFile name use missing search none w = (do
      l.log.log .debug ("Using " ++ use ++ " from " ++ name ++ ": " ++ p.toText)
      validatePath (some p) (missing w.host.cwd p)) w := by
  unfold resolveFile
  rw [bind_ok (get_apply w)]
  dsimp only
  rw [h]

theorem resolveFile_search {w : World} (h : lookupPath w name l.sources = none) :
    l.resolveFile name use missing search none w = search w := by
  unfold resolveFile
  rw [bind_ok (get_apply w)]
  dsimp only
  rw [h]

end Cases

/-- A path that is told beforehand is looked at and nothing else is; without one the search is all
    there is. -/
theorem resolveFile_decides {timeout : Value} {log : LogSource} (name use : String)
    (missing : Path → Path → String) {search : WorldAct Path} (explicit : Option Path)
    (hsearch : Decides log none none found w search) :
    Decides log explicit (told explicit (w.overrides.lookup name) (w.host.environmentValue? name))
      found w (resolveFile ⟨defaultSources, timeout, log⟩ name use missing search explicit) := by
  unfold told
  rw [← lookupPath_defaultSources]
  cases explicit with
  | some p =>
      rcases validatePath_verdict (some p) (missing w.host.cwd p) w with ⟨r, hrun, hverdict⟩
      exact .of_told ((resolveFile_explicit _ p w).trans hrun) (.refl _ w)
        (Or.inr ⟨hverdict, Or.inl rfl⟩)
  | none =>
      rw [Option.none_or]
      cases hlookup : lookupPath w name defaultSources with
      | none => exact hsearch.congr (resolveFile_search _ hlookup).symm
      | some p =>
          refine Decides.congr (resolveFile_named _ hlookup).symm ?_
          generalize "Using " ++ use ++ " from " ++ name ++ ": " ++ p.toText = message
          rcases log.log_first .debug message w with
            ⟨r₁, w₁, hlog, honward, ⟨e, rfl, hlogger⟩ | ⟨rfl, hlogger, _⟩⟩
          · exact .of_told (bind_error hlog) honward (Or.inl ⟨rfl, e, rfl, hlogger⟩)
          · rcases validatePath_verdict (some p) (missing w.host.cwd p) w₁ with ⟨r, hrun, hverdict⟩
            rw [honward.host] at hverdict
            exact .of_told ((bind_ok hlog).trans hrun) honward (Or.inr ⟨hverdict, Or.inr hlogger⟩)

/-- Whoever looks for the two files gets what the first place says that says anything, however the
    overrides were changed before. -/
theorem resolve_first_told (timeout : Value) (log : LogSource) (explicit : Option Path)
    (calls : List OverrideCall) (w₀ : World) :
    let w := w₀.overriddenBy calls
    let override (name : String) := overrideAfter (w₀.overrides.lookup name) calls name
    Decides log explicit
        (told explicit (override nodeVariable) (w.host.environmentValue? nodeVariable))
        (.ok (w.host.programPath? "node")) w (resolveNode ⟨defaultSources, timeout, log⟩ explicit) ∧
      Decides log explicit
        (told explicit (override mainScriptVariable) (w.host.environmentValue? mainScriptVariable))
        w.host.scriptFinding w (resolveMainScript ⟨defaultSources, timeout, log⟩ explicit) := by
  intro w override
  have hoverride (name : String) : override name = w.overrides.lookup name :=
    (lookup_overriddenBy w₀ calls name).symm
  rw [hoverride, hoverride]
  constructor
  · exact resolveFile_decides _ _ _ explicit (findBinary_decides ⟨_, timeout, log⟩ _ _ w)
  · exact resolveFile_decides _ _ _ explicit (findMainScript_decides ⟨_, timeout, log⟩ w)

end Locator

/-- A world with a program at its root, and with settings that want a log file where no directory
    can be made. -/
def World.refusing : World :=
  (bootstrap (return {})
    (World.start
      { cwd := ⟨.single, []⟩, home := ⟨.single, ["root"]⟩, files := [(["node"], .octets [])]
        directories := [], environment := [], programs := [("node", "/node")], npm := .missing
        system := "Linux", freePort := 49152, refusal := some "denied" }
      default .seconds)).2

-- The program exists, and a locator that has no logger of its own does not get to look at it.
example : (World.refusing.host.programPath? "node").filter World.refusing.host.pathExists
      = some ⟨.single, ["node"]⟩ ∧
    ((do Locator.resolveNode ⟨defaultSources, defaultNpmTimeout, ← LogSource.new⟩ none)
      World.refusing).1 = .error (.denied "denied") :=
  ⟨by decide +kernel, rfl⟩

end ServerLaunch
