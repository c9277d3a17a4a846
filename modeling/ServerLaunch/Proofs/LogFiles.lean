import Mathlib.Data.List.Basic
import ServerLaunch.Logging.Rollover
import ServerLaunch.Proofs.Tables

/-!
# Log Files That Stay Where They Are

What moves a log file, and what does not.

The files have numbers so that a place can change while what is written to does not. Nearly
everything leaves a file that is at a place there: other files come in behind it, it may grow,
and streams come and go. Only when a log file is set aside do files move, and then only from the
place of that file and from those of its predecessors. A file at any other place stays, and that is
the one lemma that the others do not give.

## Theorems

* `LogFiles.placeOf_openAt`, `LogFiles.placeOf_filed`: A file that stays at its place.
* `LogFiles.placeOf_filed_of_isFull`: A file that does not.
* `LogFiles.openAt_place`: A file that was opened is at its place.
* `LogFiles.streams_openAt`, `LogFiles.streams_filed`: What the channels write to.
-/

namespace ServerLaunch

/-- What is set aside moves between the places that log files are set aside to. -/
theorem mem_placesAside {base source target : List String}
    (h : (source, target) ∈ stepsAside base) :
    source ∈ placesAside base ∧ target ∈ placesAside base := by
  rcases List.mem_map.mp h with ⟨i, hi, heq⟩
  have hlt : i < logFileBackups := List.mem_range.mp (List.mem_reverse.mp hi)
  cases heq
  exact ⟨List.mem_map_of_mem (List.mem_range.mpr (by omega)),
    List.mem_map_of_mem (List.mem_range.mpr (by omega))⟩

/-- What is set aside is no longer where it was. -/
theorem placeAside_ne (base : List String) (times : Nat) : placeAside base (times + 1) ≠ base := by
  intro heq
  have hlast : some (base.getLast?.getD "" ++ "." ++ toString (times + 1)) = base.getLast? :=
    List.getLast?_concat.symm.trans (congrArg List.getLast? heq)
  have hlength := congrArg (fun last? : Option String => (last?.getD "").length) hlast
  simp only [Option.getD_some, String.length_append] at hlength
  have hdot : ".".length = 1 := rfl
  omega

namespace LogFiles

variable {logs : LogFiles} {name key : String} {place base : List String} {number : Nat}
variable (sizeAt : List String → Option Nat)

/-! ## Places -/

theorem lt_of_placeOf (h : logs.placeOf number = some place) : number < logs.files.length := by
  rcases Option.bind_eq_some_iff.mp h with ⟨file, hfile, -⟩
  exact (List.getElem?_eq_some_iff.mp hfile).1

theorem placeOf_adding (h : logs.placeOf number = some place) (other : List String) (size : Nat) :
    (logs.adding other size).placeOf number = some place := by
  rcases Option.bind_eq_some_iff.mp h with ⟨file, hfile, hplace⟩
  rw [placeOf, adding, List.getElem?_append_left (lt_of_placeOf h), hfile]
  exact hplace

/-- A file that comes in is where it is said to be. -/
theorem placeOf_adding_self (logs : LogFiles) (place : List String) (size : Nat) :
    (logs.adding place size).placeOf logs.files.length = some place := by
  rw [placeOf, adding, List.getElem?_concat_length]
  rfl

theorem placeOf_streaming (logs : LogFiles) (name : String) (base : List String)
    (other number : Nat) :
    (logs.streaming name base other).placeOf number = logs.placeOf number := rfl

theorem placeOf_starting (h : logs.placeOf number = some place) (name : String)
    (base : List String) (size : Nat) :
    (logs.starting name base size).placeOf number = some place := by
  rw [starting, placeOf_streaming]
  exact placeOf_adding h base size

/-- A file that grows stays at its place. -/
theorem placeOf_grown (logs : LogFiles) (other octets number : Nat) :
    (logs.grown other octets).placeOf number = logs.placeOf number := by
  unfold placeOf grown
  rw [List.getElem?_modify]
  cases logs.files[number]? with
  | none => rfl
  | some file =>
      rw [Option.map_eq_map, Option.map_some]
      split <;> rfl

theorem placeOf_known (h : logs.placeOf number = some place) (other : List String) :
    (logs.known sizeAt other).placeOf number = some place := by
  unfold known
  split
  · exact placeOf_adding h _ _
  · exact h

/-- A file moves only from the one place, or if it is in the way at the other. -/
theorem placeOf_moved {source target : List String} (h : logs.placeOf number = some place)
    (hsource : place ≠ source) (htarget : place ≠ target) :
    (logs.moved sizeAt source target).placeOf number = some place := by
  have hknown := placeOf_known sizeAt h source
  unfold moved
  dsimp only
  split
  · rcases Option.bind_eq_some_iff.mp hknown with ⟨file, hfile, hplace⟩
    have hstays : movedPlace source target file = file := by
      rw [movedPlace, hplace, if_neg (fun heq => htarget (Option.some.inj heq)),
        if_neg (fun heq => hsource (Option.some.inj heq))]
    rw [placeOf, List.getElem?_map, hfile, Option.map_some, hstays]
    exact hplace
  · exact hknown

/-- Setting a log file aside leaves a file at any other place where it is. -/
theorem placeOf_setAllAside (h : logs.placeOf number = some place)
    (hother : place ∉ placesAside base) :
    (logs.setAllAside sizeAt base).placeOf number = some place := by
  have hsteps : ∀ steps : List (List String × List String), (∀ step ∈ steps,
      step ∈ stepsAside base) → ∀ logs : LogFiles, logs.placeOf number = some place →
        (steps.foldl (fun logs step => logs.moved sizeAt step.1 step.2) logs).placeOf number
          = some place := by
    intro steps hsteps
    induction steps with
    | nil => exact fun _ h => h
    | cons step rest ih =>
        intro logs h
        have hmem := mem_placesAside (hsteps step List.mem_cons_self)
        refine ih (fun other hmem => hsteps other (List.mem_cons_of_mem _ hmem)) _
          (placeOf_moved sizeAt h ?_ ?_)
        · exact fun heq => hother (heq ▸ hmem.1)
        · exact fun heq => hother (heq ▸ hmem.2)
  exact hsteps _ (fun _ h => h) logs h

theorem placeOf_openAt (h : logs.placeOf number = some place) (name : String)
    (base : List String) : (logs.openAt sizeAt name base).placeOf number = some place := by
  unfold openAt
  split
  · exact h
  · exact placeOf_starting h _ _ _

/-- A message leaves the files at other places where they are, and the others too unless it makes
    a file too large. -/
theorem placeOf_filed {stream : LogStream} (h : logs.placeOf number = some place) (name : String)
    (entry : LogRecord)
    (hother : logs.isFull stream.number entry = true → place ∉ placesAside stream.base) :
    (logs.filed sizeAt name stream entry).placeOf number = some place := by
  unfold filed
  split
  · next hfull => exact placeOf_starting (placeOf_setAllAside sizeAt h (hother hfull)) _ _ _
  · rw [placeOf_grown]
    exact h

/-- A file that is not in the way moves with its place. -/
theorem placeOf_moved_self {source target : List String} (h : logs.placeOf number = some source)
    (hne : source ≠ target) :
    (logs.moved sizeAt source target).placeOf number = some target := by
  rcases Option.bind_eq_some_iff.mp (placeOf_known sizeAt h source) with ⟨file, hfile, hplace⟩
  have hfound : ((logs.known sizeAt source).numberAt? source).isSome = true := by
    rw [numberAt?, List.findIdx?_isSome, List.any_eq_true]
    exact ⟨file, List.mem_of_getElem? hfile, beq_iff_eq.mpr hplace⟩
  unfold moved
  dsimp only
  rw [if_pos hfound, placeOf, List.getElem?_map, hfile, Option.map_some, Option.bind_some,
    movedPlace, hplace, if_neg fun heq => hne (Option.some.inj heq), if_pos rfl]

/-- A log file that is set aside is at the first of the places for that. -/
theorem placeOf_setAllAside_self (h : logs.placeOf number = some base) :
    (logs.setAllAside sizeAt base).placeOf number = some (placeAside base 1) := by
  have hfirst : (logs.moved sizeAt (placeAside base 1) (placeAside base 2)).placeOf number
      = some base :=
    placeOf_moved sizeAt h (placeAside_ne base 0).symm (placeAside_ne base 1).symm
  exact placeOf_moved_self sizeAt hfirst (placeAside_ne base 0).symm

/-- So is the file of a channel for whose place another one has a message that makes the file too
    large, while that message starts a new file there. -/
theorem placeOf_filed_of_isFull {stream : LogStream} {entry : LogRecord}
    (h : logs.placeOf number = some stream.base)
    (hfull : logs.isFull stream.number entry = true) (name : String) :
    (logs.filed sizeAt name stream entry).placeOf number = some (placeAside stream.base 1) := by
  rw [filed, if_pos hfull]
  exact placeOf_starting (placeOf_setAllAside_self sizeAt h) _ _ _

/-! ## Streams -/

theorem streams_known (logs : LogFiles) (place : List String) :
    (logs.known sizeAt place).streams = logs.streams := by
  unfold known
  split <;> rfl

theorem streams_moved (logs : LogFiles) (source target : List String) :
    (logs.moved sizeAt source target).streams = logs.streams := by
  unfold moved
  dsimp only
  split <;> exact streams_known sizeAt logs source

theorem streams_setAllAside (logs : LogFiles) (base : List String) :
    (logs.setAllAside sizeAt base).streams = logs.streams := by
  unfold setAllAside
  induction stepsAside base generalizing logs with
  | nil => rfl
  | cons step rest ih =>
      rw [List.foldl_cons, ih]
      exact streams_moved sizeAt logs step.1 step.2

/-! ## Files -/

/-- Opening a file touches none that was open before. -/
theorem files_openAt (logs : LogFiles) (name : String) (base : List String) :
    ∃ more, (logs.openAt sizeAt name base).files = logs.files ++ more := by
  unfold openAt
  split
  · exact ⟨[], (List.append_nil _).symm⟩
  · exact ⟨_, rfl⟩

theorem length_known (logs : LogFiles) (place : List String) :
    logs.files.length ≤ (logs.known sizeAt place).files.length := by
  unfold known
  split
  · simp only [adding, List.length_append, Nat.le_add_right]
  · exact Nat.le_refl _

theorem length_moved (logs : LogFiles) (source target : List String) :
    logs.files.length ≤ (logs.moved sizeAt source target).files.length := by
  unfold moved
  dsimp only
  split
  · rw [List.length_map]
    exact length_known sizeAt logs source
  · exact length_known sizeAt logs source

theorem length_setAllAside (logs : LogFiles) (base : List String) :
    logs.files.length ≤ (logs.setAllAside sizeAt base).files.length := by
  unfold setAllAside
  induction stepsAside base generalizing logs with
  | nil => exact Nat.le_refl _
  | cons step rest ih => exact Nat.le_trans (length_moved sizeAt logs step.1 step.2) (ih _)

theorem length_openAt (logs : LogFiles) (name : String) (base : List String) :
    logs.files.length ≤ (logs.openAt sizeAt name base).files.length := by
  rcases files_openAt sizeAt logs name base with ⟨more, hfiles⟩
  rw [hfiles, List.length_append]
  exact Nat.le_add_right _ _

theorem length_filed (logs : LogFiles) (name : String) (stream : LogStream) (entry : LogRecord) :
    logs.files.length ≤ (logs.filed sizeAt name stream entry).files.length := by
  unfold filed
  split
  · refine Nat.le_trans (length_setAllAside sizeAt logs stream.base) ?_
    simp only [starting, streaming, adding, List.length_append, Nat.le_add_right]
  · exact Nat.le_of_eq (List.length_modify _ _ _).symm

/-- A channel that was opened writes to a file of its own place, which is there. -/
theorem openAt_place (logs : LogFiles) (name : String) (base : List String) :
    ∃ number, (logs.openAt sizeAt name base).streams = logs.streams.put name ⟨base, number⟩ ∧
      (logs.openAt sizeAt name base).placeOf number = some base := by
  unfold openAt
  split
  · next number hnumber =>
      refine ⟨number, rfl, ?_⟩
      rw [placeOf_streaming]
      rcases List.findIdx?_eq_some_iff_getElem.mp hnumber with ⟨hlt, hplace, -⟩
      rw [placeOf, List.getElem?_eq_getElem hlt]
      exact beq_iff_eq.mp hplace
  · exact ⟨logs.files.length, rfl, placeOf_adding_self logs base _⟩

theorem streams_openAt_of_ne (h : name ≠ key) (logs : LogFiles) (base : List String) :
    (logs.openAt sizeAt name base).streams.lookup key = logs.streams.lookup key := by
  rcases openAt_place sizeAt logs name base with ⟨number, hstreams, -⟩
  rw [hstreams, Table.lookup_put, if_neg h]

theorem streams_filed_of_ne (h : name ≠ key) (logs : LogFiles) (stream : LogStream)
    (entry : LogRecord) :
    (logs.filed sizeAt name stream entry).streams.lookup key = logs.streams.lookup key := by
  unfold filed
  split
  · rw [starting, streaming, Table.lookup_put, if_neg h]
    exact congrArg (List.lookup key) (streams_setAllAside sizeAt logs stream.base)
  · rfl

/-- A channel goes on writing to a file that it opened by the same path. -/
theorem streams_filed_self {stream : LogStream} (h : logs.streams.lookup name = some stream)
    (hlt : stream.number < logs.files.length) (entry : LogRecord) :
    ∃ number, (logs.filed sizeAt name stream entry).streams.lookup name
        = some ⟨stream.base, number⟩ ∧
      number < (logs.filed sizeAt name stream entry).files.length ∧
      (logs.placeOf stream.number = some stream.base →
        (logs.filed sizeAt name stream entry).placeOf number = some stream.base) := by
  have hlength := length_filed sizeAt logs name stream entry
  unfold filed at hlength ⊢
  split at hlength
  · next hfull =>
      have hplace : ((logs.setAllAside sizeAt stream.base).starting name stream.base
          entry.fileOctets).placeOf (logs.setAllAside sizeAt stream.base).files.length
          = some stream.base := placeOf_adding_self _ _ _
      rw [if_pos hfull]
      refine ⟨_, ?_, lt_of_placeOf hplace, fun _ => hplace⟩
      rw [starting, streaming, Table.lookup_put, if_pos rfl]
  · next hfits =>
      rw [if_neg hfits]
      refine ⟨stream.number, h, Nat.lt_of_lt_of_le hlt hlength, fun hplace => ?_⟩
      rw [placeOf_grown]
      exact hplace

end LogFiles

end ServerLaunch
