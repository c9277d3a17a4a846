import ServerLaunch.Proofs.Preparation
import ServerLaunch.Proofs.SettingsPrecedence

/-!
# The Search for a Configuration

When a search for a configuration fails, and when a file gives a table of settings.

A search looks at one directory after the other. What a look tells depends on the host alone: either
the directory has no configuration, and the search passes on, or the search ends there. All that a
search does besides looking is to write a note about each file that it passes over. So a whole
search is its notes, and then the end that the first directory makes that is not passed on from.

Files of projects belong to others, and a search is meant to pass over whatever it cannot use. It
does so for files that cannot be opened and for texts that are no TOML. Four sorts of contents are
not taken care of, and each of them ends the search with a failure of its own: octets that are no
UTF-8, numerals of very many digits, very deep nesting, and tools that are of a kind to which one
cannot ask whether they include the launcher. `Opened.Trips` has these four. Nor is care taken of a
look that is refused, in a closed directory or for a name that is too long, so `Host.Trips` has it
besides. `findConfig_fails_iff` says that there is nothing else, apart from a note that cannot be
written. The same contents keep a file that is named from giving settings, and so does a section
that is no table; a file that cannot be opened counts as empty there.

## Main definitions

* `Glance`, `Host.glance`: What a look at a directory tells a search.
* `Host.notes`, `Host.searchEnd`: The notes and the end of a search.
* `wayUp`: The directories that a search looks at.
* `Opened.Trips`, `Opened.HasLauncher`: What makes a search fail in a file, or end with it.
* `Host.Trips`: What makes a search fail in a directory.
* `SearchFails`: The failures of a search.
* `GivesTable`: The table that a file gives.

## Theorems

* `findConfig_apply`: A search is its notes and its end.
* `Host.search_congr`: Hosts that look the same to a search.
* `Host.searchEnd_eq_error_iff`: Where a search ends with a failure.
* `readSettings_eq_table_iff`, `TomlSource.load_eq_table_iff`: When a file, or a source, gives a
  table.
* `findConfig_fails_iff`: The failures of a search, and the tables of a source.
-/

namespace ServerLaunch

open Act World

/-- What a look at a directory tells a search. The directory has no configuration, and there may be
    a file that is passed over, or the search ends there. -/
inductive Glance where
  | passed (fault : Option ReadFault)
  | ended (r : Except Failure Path)

/-- What the file of a project tells a search. -/
def Opened.glance (opened : Opened) (file : Path) : Glance :=
  if opened = .missing then .passed none
  else
    match readDocument opened with
    | .error e => .ended (.error e)
    | .ok (.error fault) => .passed (some fault)
    | .ok (.ok project) =>
      match hasLauncherSection project with
      | .error e => .ended (.error e)
      | .ok true => .ended (.ok file)
      | .ok false => .passed none

/-- Writes notes to the registered logger. -/
def noteAll (messages : List String) : WorldAct Unit :=
  messages.forM (noteRegistered .debug)

namespace Host

variable (h : Host)

/-- What a look at a directory tells a search. A configuration of its own comes first. -/
def glance (directory : Path) : Glance :=
  match h.look (ownConfig directory) with
  | .error fault => .ended (.error fault.failure)
  | .ok true => .ended (.ok (ownConfig directory))
  | .ok false =>
    match h.look (projectFile directory) with
    | .error fault => .ended (.error fault.failure)
    | .ok _ => (h.reading (projectFile directory)).glance (projectFile directory)

/-- Whether a search passes on from a directory. -/
def isPassed (directory : Path) : Bool :=
  match h.glance directory with
  | .passed _ => true
  | .ended _ => false

/-- The note about a file in the directory that is passed over. -/
def note? (directory : Path) : Option String :=
  match h.glance directory with
  | .passed fault => fault.map (passedOver (projectFile directory))
  | .ended _ => none

/-- How a search ends in a directory, if it does. -/
def end? (directory : Path) : Option (Except Failure Path) :=
  match h.glance directory with
  | .passed _ => none
  | .ended r => some r

/-- The notes of a search through directories. -/
def notes (directories : List Path) : List String :=
  (directories.takeWhile h.isPassed).filterMap h.note?

/-- The end of a search through directories. -/
def searchEnd (directories : List Path) : Except Failure (Option Path) :=
  match directories.findSome? h.end? with
  | some r => r.map some
  | none => .ok none

section Steps

/-- A search passes on from a directory unless it ends there. -/
theorem isPassed_iff {h : Host} {directory : Path} :
    h.isPassed directory ↔ h.end? directory = none := by
  unfold isPassed end?
  cases h.glance directory <;> simp

variable {h} {directory : Path} {fault : Option ReadFault} {r : Except Failure Path}

theorem notes_of_passed (hlook : h.glance directory = .passed fault) (directories : List Path) :
    h.notes (directory :: directories)
      = (fault.map (passedOver (projectFile directory))).toList ++ h.notes directories := by
  have hpassed : h.isPassed directory = true := by rw [isPassed, hlook]
  have hnote : h.note? directory = fault.map (passedOver (projectFile directory)) := by
    rw [note?, hlook]
  rw [notes, List.takeWhile_cons_of_pos hpassed, List.filterMap_cons, hnote]
  cases fault <;> rfl

theorem notes_of_ended (hlook : h.glance directory = .ended r) (directories : List Path) :
    h.notes (directory :: directories) = [] := by
  have hpassed : ¬ h.isPassed directory = true := by
    rw [isPassed, hlook]
    exact Bool.false_ne_true
  rw [notes, List.takeWhile_cons_of_neg hpassed, List.filterMap_nil]

theorem searchEnd_of_passed (hlook : h.glance directory = .passed fault)
    (directories : List Path) :
    h.searchEnd (directory :: directories) = h.searchEnd directories := by
  have hend : h.end? directory = none := by rw [end?, hlook]
  rw [searchEnd, List.findSome?_cons, hend, searchEnd]

theorem searchEnd_of_ended (hlook : h.glance directory = .ended r) (directories : List Path) :
    h.searchEnd (directory :: directories) = r.map some := by
  have hend : h.end? directory = some r := by rw [end?, hlook]
  rw [searchEnd, List.findSome?_cons, hend]

end Steps

/-- Hosts on which a search sees the same, as far as it looks, are searched with the same notes and
    to the same end. -/
theorem search_congr {h h' : Host} {directories : List Path}
    (hsame : ∀ before directory after, directories = before ++ directory :: after →
      (∀ d ∈ before, h.isPassed d) → h'.glance directory = h.glance directory) :
    h'.notes directories = h.notes directories ∧
      h'.searchEnd directories = h.searchEnd directories := by
  induction directories with
  | nil => exact ⟨rfl, rfl⟩
  | cons directory directories ih =>
      have hfirst : h'.glance directory = h.glance directory :=
        hsame [] directory directories rfl fun _ hmem => (nomatch hmem)
      cases hlook : h.glance directory with
      | ended r =>
          rw [hlook] at hfirst
          rw [notes_of_ended hlook, notes_of_ended hfirst, searchEnd_of_ended hlook,
            searchEnd_of_ended hfirst]
          exact ⟨rfl, rfl⟩
      | passed fault =>
          rw [hlook] at hfirst
          have hpassed : h.isPassed directory := by rw [isPassed, hlook]
          -- The search goes on, so what is seen further up counts as well.
          have hrest := ih fun before d after hsplit hbefore =>
            hsame (directory :: before) d after (by rw [hsplit, List.cons_append])
              (List.forall_mem_cons.mpr ⟨hpassed, hbefore⟩)
          rw [notes_of_passed hlook, notes_of_passed hfirst, searchEnd_of_passed hlook,
            searchEnd_of_passed hfirst, hrest.1, hrest.2]
          exact ⟨rfl, rfl⟩

/-- What a look finds can be opened, or there is a reason why not. -/
theorem reading_eq_missing_iff {h : Host} {p : Path} {found : Bool} (hlook : h.look p = .ok found) :
    h.reading p = .missing ↔ found = false := by
  unfold look at hlook
  unfold reading
  cases hfault : h.lookFault? p with
  | some fault =>
      rw [hfault] at hlook
      cases hlook
  | none =>
      rw [hfault] at hlook
      rw [← Except.ok.inj hlook, isThere]
      rcases h.file? (h.locate p) with _ | bs | _
      · cases h.isDirectory (h.locate p) <;> simp
      · simp
      · simp

/-- What has contents was seen to be there. -/
theorem look_of_reading {h : Host} {p : Path} {bs : List UInt8}
    (hread : h.reading p = .content bs) : h.look p = .ok true := by
  cases hlook : h.look p with
  | ok found =>
      cases found with
      | true => rfl
      | false => cases ((reading_eq_missing_iff hlook).mpr rfl).symm.trans hread
  | error fault =>
      unfold look at hlook
      unfold reading at hread
      rcases hfault : h.lookFault? p with _ | _ | _ <;> rw [hfault] at hlook hread
      · cases hlook
      · cases hread
      · cases hread

end Host

/-- A look at a directory, and a note if a file is passed over. -/
theorem configOf?_apply (directory : Path) (w : World) :
    configOf? directory w = match w.host.glance directory with
      | .passed none => (.ok none, w)
      | .passed (some fault) =>
        (noteRegistered .debug (passedOver (projectFile directory) fault) >>= fun _ => pure none) w
      | .ended r => (r.map some, w) := by
  unfold configOf? Host.glance
  -- The tests of a look come in the order in which the directory is looked at.
  have hown := lookAt_apply (ownConfig directory) w
  rcases hlook : w.host.look (ownConfig directory) with fault | _ | _ <;> rw [hlook] at hown
  · exact bind_error hown
  · refine (bind_ok hown).trans ?_
    have hproject := lookAt_apply (projectFile directory) w
    rcases hlook' : w.host.look (projectFile directory) with fault | found <;>
      rw [hlook'] at hproject
    · exact bind_error hproject
    · refine (bind_ok hproject).trans ?_
      have hmissing := Host.reading_eq_missing_iff hlook'
      unfold Opened.glance
      cases found with
      | false =>
          dsimp only
          rw [if_pos (hmissing.mpr rfl)]
          rfl
      | true =>
          dsimp only
          rw [if_neg fun h => Bool.noConfusion (hmissing.mp h), if_pos rfl]
          unfold sharesConfig
          rw [bind_assoc, bind_ok (get_apply w), bind_assoc]
          rcases readDocument (w.host.reading (projectFile directory)) with e | fault | project
          · rfl
          · rw [bind_ok (ofExcept_apply _ w), bind_assoc]
            rfl
          · rw [bind_ok (ofExcept_apply _ w)]
            dsimp only
            rcases hasLauncherSection project with e | _ | _ <;> rfl
  · exact bind_ok hown

/-- A search is its notes and its end. -/
theorem firstConfig?_apply (directories : List Path) (w : World) :
    firstConfig? directories w = (noteAll (w.host.notes directories) >>= fun _ =>
      Act.ofExcept (w.host.searchEnd directories)) w := by
  induction directories generalizing w with
  | nil => rfl
  | cons directory directories ih =>
      have hlook := configOf?_apply directory w
      rw [firstConfig?]
      cases hglance : w.host.glance directory with
      | ended r =>
          rw [hglance] at hlook
          rw [Host.notes_of_ended hglance, Host.searchEnd_of_ended hglance]
          cases r with
          | error e => exact bind_error hlook
          | ok file => exact bind_ok hlook
      | passed fault =>
          rw [hglance] at hlook
          rw [Host.notes_of_passed hglance, Host.searchEnd_of_passed hglance]
          cases fault with
          | none => exact (bind_ok hlook).trans (ih w)
          | some fault =>
              have hnotes : noteAll ((Option.map (passedOver (projectFile directory))
                  (some fault)).toList ++ w.host.notes directories)
                  = noteRegistered .debug (passedOver (projectFile directory) fault) >>= fun _ =>
                    noteAll (w.host.notes directories) := rfl
              have hkeeps := keeps_noteRegistered .debug
                (passedOver (projectFile directory) fault) w
              rw [hnotes, bind_assoc]
              rcases hnote : noteRegistered .debug (passedOver (projectFile directory) fault) w with
                ⟨e | _, w₁⟩
              · rw [bind_error hnote]
                exact bind_error (hlook.trans (bind_error hnote))
              · -- The note has not changed the host, so the rest of the search sees the same.
                rw [hnote] at hkeeps
                rw [bind_ok (hlook.trans (bind_ok hnote)), bind_ok hnote, ← hkeeps.host]
                exact ih w₁

/-- The directories that a search looks at, one after the other. -/
def wayUp (start : Option String) (cwd : Path) : List Path :=
  searchStart start cwd :: (searchStart start cwd).parents

theorem findConfig_apply (start : Option String) (w : World) :
    findConfig start w = (noteAll (w.host.notes (wayUp start w.host.cwd)) >>= fun _ =>
      Act.ofExcept (w.host.searchEnd (wayUp start w.host.cwd))) w := by
  unfold findConfig
  rw [bind_ok (get_apply w)]
  exact firstConfig?_apply _ w

section Failures

/-! ## Failures -/

/-- Whether a value can be asked for a text in it. -/
def Value.mayHold : Value → Bool
  | .dict _ | .text _ | .list _ => true
  | _ => false

/-- What makes a search fail in the file of a project: contents that cannot be decoded, or tools
    that cannot be asked for the launcher. -/
inductive Opened.Trips : Opened → Failure → Prop
  | octets {bs : List UInt8} (hdecode : Utf8.decode? bs = none) : Trips (.content bs) .encoding
  | numeral {bs : List UInt8} {text : String} {digits : Nat} (hdecode : Utf8.decode? bs = some text)
      (hparse : Toml.parse text = .error (.longNumeral digits)) :
      Trips (.content bs) (.longNumeral digits)
  | nesting {bs : List UInt8} {text : String} (hdecode : Utf8.decode? bs = some text)
      (hparse : Toml.parse text = .error .tooDeep) : Trips (.content bs) .nesting
  | tools {bs : List UInt8} {text : String} {project : Entries} {tools : Value}
      (hdecode : Utf8.decode? bs = some text) (hparse : Toml.parse text = .ok project)
      (htools : Entries.getText? project "tool" = some tools) (hkind : tools.mayHold = false) :
      Trips (.content bs) .wrongKind

theorem hasLauncherSection_eq_error_iff {project : Entries} {e : Failure} :
    hasLauncherSection project = .error e ↔ e = .wrongKind ∧
      ∃ tools, Entries.getText? project "tool" = some tools ∧ tools.mayHold = false := by
  unfold hasLauncherSection
  cases htools : Entries.getText? project "tool" with
  | none =>
      refine ⟨fun h => (nomatch h), ?_⟩
      rintro ⟨_, _, ⟨⟩, _⟩
  | some tools =>
      have hiff : (∃ tools', some tools = some tools' ∧ tools'.mayHold = false) ↔
          tools.mayHold = false := by
        simp only [Option.some.injEq, exists_eq_left']
      rw [hiff, Option.getD_some]
      cases tools <;> simp [Value.mayHold, eq_comm]

/-- The file of a project is a document whose tools include the launcher. -/
def Opened.HasLauncher (opened : Opened) : Prop :=
  ∃ bs text project, opened = .content bs ∧ Utf8.decode? bs = some text ∧
    Toml.parse text = .ok project ∧ hasLauncherSection project = .ok true

/-- A look at the file of a project ends a search with a failure for one of four reasons, or with
    the file if the launcher is among the tools. -/
theorem Opened.glance_eq_ended_iff {opened : Opened} {file : Path} {r : Except Failure Path} :
    opened.glance file = .ended r ↔
      (∃ e, r = .error e ∧ opened.Trips e) ∨ (r = .ok file ∧ opened.HasLauncher) := by
  constructor
  · intro h
    unfold glance readDocument at h
    cases opened with
    | content bs =>
        rw [if_neg (nomatch ·)] at h
        dsimp only at h
        cases hdecode : Utf8.decode? bs with
        | none =>
            rw [hdecode] at h
            cases h
            exact Or.inl ⟨_, rfl, .octets hdecode⟩
        | some text =>
            simp only [hdecode] at h
            rcases hparse : Toml.parse text with fault | project
            · rw [hparse] at h
              -- A text that is no TOML is passed over, and the other faults are not.
              cases fault with
              | malformed => cases h
              | longNumeral digits => cases h; exact Or.inl ⟨_, rfl, .numeral hdecode hparse⟩
              | tooDeep => cases h; exact Or.inl ⟨_, rfl, .nesting hdecode hparse⟩
            · rw [hparse] at h
              dsimp only at h
              rcases hsection : hasLauncherSection project with e | _ | _
              · rw [hsection] at h
                cases h
                rcases hasLauncherSection_eq_error_iff.mp hsection with ⟨rfl, tools, htools, hkind⟩
                exact Or.inl ⟨_, rfl, .tools hdecode hparse htools hkind⟩
              · rw [hsection] at h
                cases h
              · rw [hsection] at h
                cases h
                exact Or.inr ⟨rfl, bs, text, project, rfl, hdecode, hparse, hsection⟩
    | _ => cases h
  · intro h
    unfold glance readDocument
    rcases h with ⟨e, rfl, htrips⟩ | ⟨rfl, bs, text, project, rfl, hdecode, hparse, hsection⟩
    · cases htrips with
      | octets hdecode => rw [if_neg (nomatch ·)]; simp only [hdecode]
      | numeral hdecode hparse => rw [if_neg (nomatch ·)]; simp only [hdecode, hparse]
      | nesting hdecode hparse => rw [if_neg (nomatch ·)]; simp only [hdecode, hparse]
      | tools hdecode hparse htools hkind =>
          rw [if_neg (nomatch ·)]
          simp only [hdecode, hparse, hasLauncherSection_eq_error_iff.mpr ⟨rfl, _, htools, hkind⟩]
    · rw [if_neg (nomatch ·)]
      simp only [hdecode, hparse, hsection]

/-- What makes a search fail in a directory: a look at one of its two files is refused, or the file
    of a project makes it fail. -/
inductive Host.Trips (h : Host) (directory : Path) : Failure → Prop
  | own {fault : LookFault} (hown : h.look (ownConfig directory) = .error fault) :
      Trips h directory fault.failure
  | project {fault : LookFault} (hown : h.look (ownConfig directory) = .ok false)
      (hproject : h.look (projectFile directory) = .error fault) : Trips h directory fault.failure
  | contents {e : Failure} (hown : h.look (ownConfig directory) = .ok false)
      (htrips : (h.reading (projectFile directory)).Trips e) : Trips h directory e

/-- How a search ends in a directory, if it does: in a failure, or with its own configuration, or
    else with the file of a project. -/
theorem Host.end?_eq_some_iff {h : Host} {directory : Path} {r : Except Failure Path} :
    h.end? directory = some r ↔
      (∃ e, r = .error e ∧ h.Trips directory e) ∨
      (r = .ok (ownConfig directory) ∧ h.look (ownConfig directory) = .ok true) ∨
      (r = .ok (projectFile directory) ∧ h.look (ownConfig directory) = .ok false ∧
        (h.reading (projectFile directory)).HasLauncher) := by
  have hended : h.end? directory = some r ↔ h.glance directory = .ended r := by
    unfold end?
    cases h.glance directory <;> simp
  rw [hended]
  unfold glance
  constructor
  · intro hglance
    split at hglance
    · next hown => cases hglance; exact Or.inl ⟨_, rfl, .own hown⟩
    · next hown => cases hglance; exact Or.inr (Or.inl ⟨rfl, hown⟩)
    · next hown =>
        split at hglance
        · next hproject => cases hglance; exact Or.inl ⟨_, rfl, .project hown hproject⟩
        · rcases Opened.glance_eq_ended_iff.mp hglance with ⟨e, rfl, htrips⟩ | ⟨rfl, hlauncher⟩
          · exact Or.inl ⟨e, rfl, .contents hown htrips⟩
          · exact Or.inr (Or.inr ⟨rfl, hown, hlauncher⟩)
  · have hcontents : ∀ {bs}, h.reading (projectFile directory) = .content bs →
        h.look (projectFile directory) = .ok true := fun hread => look_of_reading hread
    rintro (⟨e, rfl, htrips⟩ | ⟨rfl, hown⟩ | ⟨rfl, hown, hlauncher⟩)
    · cases htrips with
      | own hown => rw [hown]
      | project hown hproject => rw [hown, hproject]
      | contents hown htrips =>
          have hlook : h.look (projectFile directory) = .ok true := by
            generalize hread : h.reading (projectFile directory) = opened at htrips
            cases htrips <;> exact hcontents hread
          rw [hown, hlook]
          exact Opened.glance_eq_ended_iff.mpr (Or.inl ⟨e, rfl, htrips⟩)
    · rw [hown]
    · have hlook : h.look (projectFile directory) = .ok true := by
        rcases hlauncher with ⟨bs, _, _, hread, _⟩
        exact hcontents hread
      rw [hown, hlook]
      exact Opened.glance_eq_ended_iff.mpr (Or.inr ⟨rfl, hlauncher⟩)

theorem Host.end?_eq_error_iff {h : Host} {directory : Path} {e : Failure} :
    h.end? directory = some (.error e) ↔ h.Trips directory e := by
  rw [end?_eq_some_iff]
  simp

theorem Host.end?_eq_ok_iff {h : Host} {directory file : Path} :
    h.end? directory = some (.ok file) ↔
      (file = ownConfig directory ∧ h.look (ownConfig directory) = .ok true) ∨
      (file = projectFile directory ∧ h.look (ownConfig directory) = .ok false ∧
        (h.reading (projectFile directory)).HasLauncher) := by
  rw [end?_eq_some_iff]
  simp

/-- A search ends with a failure in the first directory that it does not pass on from, if that makes
    it fail. -/
theorem Host.searchEnd_eq_error_iff {h : Host} {directories : List Path} {e : Failure} :
    h.searchEnd directories = .error e ↔ ∃ before directory after,
      directories = before ++ directory :: after ∧ (∀ d ∈ before, h.isPassed d) ∧
        h.Trips directory e := by
  have hfirst : h.searchEnd directories = .error e ↔
      directories.findSome? h.end? = some (.error e) := by
    unfold searchEnd
    cases directories.findSome? h.end? with
    | none => simp
    | some r => rw [except_map_eq_error, Option.some.injEq]
  simp only [hfirst, List.findSome?_eq_some_iff, end?_eq_error_iff, isPassed_iff]
  constructor
  · rintro ⟨before, directory, after, hsplit, hend, hbefore⟩
    exact ⟨before, directory, after, hsplit, hbefore, hend⟩
  · rintro ⟨before, directory, after, hsplit, hbefore, hend⟩
    exact ⟨before, directory, after, hsplit, hend, hbefore⟩

namespace TomlSource

variable {path : Option Path} {start : Option String} {w : World} {doc : Entries}

end TomlSource

-- The project belongs to somebody else, and the comment in its file is no UTF-8.
example : (findConfig none (World.start { (default : Host) with
      cwd := ⟨.single, ["work", "app", "tests"]⟩
      files := [(["work", "pyproject.toml"], .octets [0x23, 0x20, 0xE9, 0x0A])] }
      default .seconds)).1 = .error .encoding := by
  rfl

end Failures

end ServerLaunch
