import ServerLaunch.Discovery
import ServerLaunch.Proofs.Logging

/-!
# Searching Files

A search for the files of a launch adds searches and messages to the history, and leaves
the host as it finds it.

That no free port is asked for and no child is touched is what the stages of a launch are
told apart by, so it is stated once for every part of the search, and for the two files.

## Theorems

* `Locator.keeps_resolveFile`: A file that is given, overridden or searched for.
* `Locator.keeps_resolveNode`, `Locator.keeps_resolveMainScript`: The two files.
-/

namespace ServerLaunch

open Act World

theorem keeps_validatePath {kind : Event → Bool} (p : Option Path) (message : String) :
    (validatePath p message).Keeps (Onward kind) := by
  cases p with
  | none => exact .throw _
  | some p => exact Keeps.bind (keeps_lookAt p) fun found => Keeps.ite (.pure p) (.throw _)

theorem keeps_runNpm (command : List String) (timeout : Value) :
    (runNpm command timeout).Keeps (Onward Event.isSearch) :=
  Keeps.bind (keeps_record rfl) fun _ => Keeps.bind .get fun _ => .ofExcept _

/-- A message is a case of all that a search does. -/
theorem LogSource.keeps_log_search (source : LogSource) (level : LogLevel) (message : String) :
    (source.log level message).Keeps (Onward Event.isSearch) :=
  (source.keeps_log level message).mono fun _ _ h => h.mono fun _ => Event.isSearch_of_isLogging

namespace Locator

variable (l : Locator)

theorem keeps_findBinary (name message : String) :
    (l.findBinary name message).Keeps (Onward Event.isSearch) := by
  refine Keeps.bind (l.log.keeps_log_search _ _) fun _ => Keeps.bind (keeps_record rfl) fun _ => ?_
  refine Keeps.bind .get fun w => ?_
  dsimp only
  cases (w.host.program? name).filter fun s => !s.toList.isEmpty with
  | none => exact keeps_validatePath _ message
  | some s => exact Keeps.bind (l.log.keeps_log_search _ _) fun _ => keeps_validatePath _ message

theorem keeps_findMainScript : l.findMainScript.Keeps (Onward Event.isSearch) := by
  refine Keeps.bind (l.keeps_findBinary "npm" npmMissing) fun npm => Keeps.bind .get fun w => ?_
  refine Keeps.bind (l.log.keeps_log_search _ _) fun _ => ?_
  refine Keeps.bind (keeps_runNpm _ _) fun answer => ?_
  cases answer with
  | error cause => exact .throw _
  | ok text =>
      exact Keeps.bind (l.log.keeps_log_search _ _) fun _ => Keeps.bind .get fun _ =>
        keeps_validatePath _ _

/-- A file that is given or overridden is only looked at; else the search is all there is. -/
theorem keeps_resolveFile (overrideName use : String) (missing : Path → Path → String)
    {search : WorldAct Path} (hsearch : search.Keeps (Onward Event.isSearch))
    (explicit : Option Path) :
    (l.resolveFile overrideName use missing search explicit).Keeps (Onward Event.isSearch) := by
  refine Keeps.bind .get fun w => ?_
  cases explicit with
  | some p => exact keeps_validatePath _ _
  | none =>
      cases lookupPath w overrideName l.sources with
      | some p =>
          exact Keeps.bind (l.log.keeps_log_search _ _) fun _ => keeps_validatePath _ _
      | none => exact hsearch

theorem keeps_resolveNode (explicit : Option Path) :
    (l.resolveNode explicit).Keeps (Onward Event.isSearch) :=
  l.keeps_resolveFile _ _ _ (l.keeps_findBinary _ _) explicit

theorem keeps_resolveMainScript (explicit : Option Path) :
    (l.resolveMainScript explicit).Keeps (Onward Event.isSearch) :=
  l.keeps_resolveFile _ _ _ l.keeps_findMainScript explicit

end Locator

end ServerLaunch
