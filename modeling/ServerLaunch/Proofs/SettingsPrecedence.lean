import ServerLaunch.Proofs.MergedSections
import ServerLaunch.Proofs.Outcome

/-!
# Precedence of Settings

Where the value of each field of the settings comes from, and when there are settings at all.

There are three sources: variables of the environment, a document in a file, and defaults.
Each field is decided on its own by the first of them that has something for it. If what
decides suits the fields there are settings; if it does not for some of them, these are
reported, and only these: a value that is passed over need not suit.

A file that is missing or holds no TOML is meant to count as an empty document, with a warning
in the log. It does so as far as the file can be decoded. Octets that are no UTF-8, numerals of
very many digits and tables in very deep tables are not taken care of: there are no settings
then, whatever the environment has.

## Main definitions

* `settingsFile`: The file from which settings are loaded.
* `DecidedFieldByField`: The outcome is that of settings decided field by field.
* `CountsAs`: The document as which a file is meant to count.
* `Heeded`: What a file has is taken, or the file is passed over with a warning.

## Theorems

* `loadSettings_of_ok`: Loading settings with a document.
* `loadSettings_decided_iff`: When settings are decided field by field.
-/

namespace ServerLaunch

open Act

section Loading

variable {path : Option Path} {start : Option String} {w w' : World} {doc : Entries}

/-- The outcome is that of settings in which every field is decided on its own, by a variable
    of the environment, else by a document, else by its default. -/
def DecidedFieldByField (environment : Table String) (doc : Entries)
    (outcome : Except Failure Settings) : Prop :=
  ∃ r, outcome = r.mapError .invalid ∧
    Settings.Decided (fun f => decidingValue? environment doc serverSection f.name)
      (fun f => decidingValue? environment doc loggingSection f.name) r

/-- Faulty fields are the only failure of that kind. -/
theorem not_decidedFieldByField {environment : Table String} {e : Failure}
    (he : ∀ reports, e ≠ .invalid reports) :
    ¬ DecidedFieldByField environment doc (.error e) := by
  rintro ⟨r, hr, _⟩
  cases r with
  | ok s => cases hr
  | error reports => exact he reports (Except.error.inj hr)

/-- With a document, settings are decided field by field. -/
theorem loadSettings_of_ok (hserver : FieldVariables w.host.environment serverSection)
    (hlogging : FieldVariables w.host.environment loggingSection) (hdoc : HasSections doc)
    (hread : TomlSource.readFirst ⟨path, start, none⟩ w = (.ok (.dict doc), w')) :
    DecidedFieldByField w.host.environment doc (loadSettings path start w).1 := by
  have hsections := environmentSections_eq hserver hlogging
  have hdecided := Settings.ofEntries_merged hserver hlogging hdoc
  generalize sectionEntries _ _ = sections at hsections hdecided
  have hgather : gatherSections [] path start w
      = (.ok (mergeDeep mergeDepth doc sections), w') := by
    unfold gatherSections
    rw [bind_ok (get_apply w), hsections, bind_ok (ofExcept_apply _ w), bind_ok hread]
    rfl
  refine ⟨_, ?_, hdecided⟩
  unfold loadSettings
  rw [bind_ok hgather]
  rfl

-- A value that is passed over need not suit, and the sources are chosen anew for each field.
example : (match (loadSettings none none (World.start { (default : Host) with
      cwd := Path.ofString "/work"
      files := [(["work", ".appium-launcher", "config.toml"],
        .octets ("server.port = -1\nlogging.level = 'debug'".toList.map fun c => c.toNat.toUInt8))]
      environment := [("APPIUM_LAUNCHER_SERVER__PORT", "4900")] } default .seconds)).1 with
    | .ok s => (s.server.port, s.logging.level)
    | .error _ => default) = (4900, .debug) := by
  decide +kernel

/-- Without one, there are none. -/
theorem loadSettings_of_error {e : Failure}
    (hserver : FieldVariables w.host.environment serverSection)
    (hlogging : FieldVariables w.host.environment loggingSection)
    (hread : TomlSource.readFirst ⟨path, start, none⟩ w = (.error e, w')) :
    (loadSettings path start w).1 = .error e := by
  have hgather : gatherSections [] path start w = (.error e, w') := by
    unfold gatherSections
    rw [bind_ok (get_apply w), environmentSections_eq hserver hlogging,
      bind_ok (ofExcept_apply _ w), bind_error hread]
  unfold loadSettings
  rw [bind_error hgather]

/-- The file from which settings are loaded: the one that is named, or else the nearest. -/
def settingsFile (path : Option Path) (start : Option String) : WorldAct (Option Path) :=
  match path with
  | some file => pure (some file)
  | none => findConfig start

/-- A configuration of its own, where the search starts, is the nearest. -/
theorem findConfig_of_own
    (h : w.host.pathExists (ownConfig (searchStart start w.host.cwd))) :
    findConfig start w = (.ok (some (ownConfig (searchStart start w.host.cwd))), w) := by
  have hown : configOf? (searchStart start w.host.cwd) w
      = (.ok (some (ownConfig (searchStart start w.host.cwd))), w) := by
    unfold configOf?
    rw [bind_ok (lookAt_of_look (Host.look_of_pathExists h)), if_pos rfl]
    rfl
  unfold findConfig
  rw [bind_ok (get_apply w)]
  exact bind_ok hown

theorem readFirst_of_none (hfile : settingsFile path start w = (.ok none, w')) :
    TomlSource.readFirst ⟨path, start, none⟩ w = (.ok (.dict []), w') := by
  cases path with
  | none => exact bind_ok hfile
  | some file => cases hfile

theorem readFirst_of_some {file : Path}
    (hfile : settingsFile path start w = (.ok (some file), w')) :
    TomlSource.readFirst ⟨path, start, none⟩ w = readSettings file w' := by
  cases path with
  | none => exact bind_ok hfile
  | some file' => cases hfile; rfl

theorem readSettings_apply (file : Path) (w : World) :
    readSettings file w = match readDocument (w.host.reading file) with
      | .error e => (.error e, w)
      | .ok (.ok table) => (settingsIn file table, w)
      | .ok (.error fault) =>
        (noteRegistered .warning (noSettings file fault) >>= fun _ => pure (.dict [])) w := by
  unfold readSettings
  rw [bind_ok (get_apply w)]
  rcases hread : readDocument (w.host.reading file) with e | fault | table
  · rfl
  · rfl
  · rfl

theorem noteRegistered_failsOnly (level : LogLevel) (message : String) :
    (noteRegistered level message).FailsOnly Failure.isUnheard := by
  refine FailsOnly.bind registeredLogger_failsOnly fun object => ?_
  refine FailsOnly.bind (asLogger_failsOnly object) fun logger w e h => ?_
  rw [logger.log_apply] at h
  cases h

/-- The document as which a file is meant to count. One that is not there, cannot be read or is
    no TOML counts as empty. -/
inductive CountsAs (w : World) : Option Path → Entries → Prop
  | absent : CountsAs w none []
  | settings {file : Path} {table doc : Entries}
      (hread : readDocument (w.host.reading file) = .ok (.ok table))
      (hin : settingsIn file table = .ok (.dict doc)) : CountsAs w (some file) doc
  | unusable {file : Path} (hread : ∀ table, readDocument (w.host.reading file) ≠ .ok (.ok table)) :
      CountsAs w (some file) []

/-- What a file has is taken, or the file is passed over with a warning. -/
inductive Heeded (w : World) : Option Path → Prop
  | absent : Heeded w none
  | taken {file : Path} {table : Entries}
      (hread : readDocument (w.host.reading file) = .ok (.ok table)) : Heeded w (some file)
  | warned {file : Path} {fault : ReadFault}
      (hread : readDocument (w.host.reading file) = .ok (.error fault))
      (hnote : (noteRegistered .warning (noSettings file fault) w).1.isOk) : Heeded w (some file)

/-- Reading a document does not come upon faulty fields. -/
theorem readDocument_ne_invalid (opened : Opened) (reports : List FieldReport) :
    readDocument opened ≠ .error (.invalid reports) := by
  intro h
  unfold readDocument at h
  split at h
  · cases h
  · cases h
  · cases h
  · cases h
  · split at h
    · cases h
    · split at h <;> cases h

section File

variable {file? : Option Path}

/-- The contents that are heeded are the document as which the file counts. -/
theorem readFirst_of_heeded (hfile : settingsFile path start w = (.ok file?, w'))
    (hcounts : CountsAs w' file? doc) (h : Heeded w' file?) :
    ∃ w'', TomlSource.readFirst ⟨path, start, none⟩ w = (.ok (.dict doc), w'') := by
  cases hcounts with
  | absent => exact ⟨w', readFirst_of_none hfile⟩
  | settings hread hin =>
      rw [readFirst_of_some hfile, readSettings_apply, hread]
      exact ⟨w', congrArg (·, w') hin⟩
  | @unusable file hnone =>
      rw [readFirst_of_some hfile, readSettings_apply]
      cases h with
      | taken hread => exact absurd hread (hnone _)
      | @warned _ fault hread hnote =>
          rcases hrun : noteRegistered .warning (noSettings file fault) w' with ⟨e | u, w''⟩
          · rw [hrun] at hnote
            cases hnote
          · rw [hread]
            exact ⟨w'', bind_ok hrun⟩

/-- Otherwise reading fails, though not with reports of faulty fields. -/
theorem readFirst_of_not_heeded (hfile : settingsFile path start w = (.ok file?, w'))
    (h : ¬ Heeded w' file?) :
    ∃ e w'', TomlSource.readFirst ⟨path, start, none⟩ w = (.error e, w'') ∧
      ∀ reports, e ≠ .invalid reports := by
  cases file? with
  | none => exact absurd .absent h
  | some file =>
      rw [readFirst_of_some hfile, readSettings_apply]
      rcases hread : readDocument (w'.host.reading file) with e | fault | table
      · refine ⟨e, w', rfl, fun reports he => ?_⟩
        exact readDocument_ne_invalid _ reports (hread.trans (congrArg _ he))
      · rcases hrun : noteRegistered .warning (noSettings file fault) w' with ⟨e | u, w''⟩
        · refine ⟨e, w'', bind_error hrun, fun reports he => ?_⟩
          -- The note fails for want of a logger, and for nothing else.
          have hunheard := noteRegistered_failsOnly _ _ w' e (by rw [hrun])
          rw [he] at hunheard
          cases hunheard
        · exact absurd (.warned hread (by rw [hrun]; rfl)) h
      · exact absurd (.taken hread) h

/-- Settings are decided field by field exactly if what the file has is taken, or the file is
    passed over with a warning. A file that cannot be decoded is neither: there are no settings
    then, and the failure is that of decoding it. -/
theorem loadSettings_decided_iff (hserver : FieldVariables w.host.environment serverSection)
    (hlogging : FieldVariables w.host.environment loggingSection)
    (hfile : settingsFile path start w = (.ok file?, w')) (hcounts : CountsAs w' file? doc)
    (hdoc : HasSections doc) :
    (DecidedFieldByField w.host.environment doc (loadSettings path start w).1 ↔
        Heeded w' file?) ∧
      ∀ file e, file? = some file → readDocument (w'.host.reading file) = .error e →
        (loadSettings path start w).1 = .error e := by
  refine ⟨⟨fun hdecided => ?_, fun hheeded => ?_⟩, ?_⟩
  · by_contra hnot
    rcases readFirst_of_not_heeded hfile hnot with ⟨e, w'', hread, he⟩
    rw [loadSettings_of_error hserver hlogging hread] at hdecided
    exact not_decidedFieldByField he hdecided
  · rcases readFirst_of_heeded hfile hcounts hheeded with ⟨w'', hread⟩
    exact loadSettings_of_ok hserver hlogging hdoc hread
  · rintro file e rfl he
    have hread := readFirst_of_some hfile
    rw [readSettings_apply, he] at hread
    exact loadSettings_of_error hserver hlogging hread

/-- A variable gives the port, and the comment in the file is no UTF-8. -/
def latin : World :=
  World.start { (default : Host) with
    cwd := Path.ofString "/work"
    files := [(["work", ".appium-launcher", "config.toml"], .octets [0x23, 0x20, 0xE9, 0x0A])]
    environment := [("APPIUM_LAUNCHER_SERVER__PORT", "4900")] } default .seconds

/-- A comment keeps the variable from being heeded. -/
theorem loadSettings_decided_iff_latin :
    (loadSettings none none latin).1 = .error .encoding ∧
      ¬ DecidedFieldByField latin.host.environment [] (loadSettings none none latin).1 := by
  have hserver : FieldVariables latin.host.environment serverSection := by
    refine ⟨by decide +kernel, fun e he field hname => ?_⟩
    rw [List.mem_singleton.mp he] at hname
    have hport : fieldVariable serverSection "port" = fieldVariable serverSection field := by
      rw [← hname]
      decide +kernel
    rw [← fieldVariable_inj.mp hport]
    decide +kernel
  have hlogging : FieldVariables latin.host.environment loggingSection := by
    refine ⟨by decide +kernel, fun e he field hname => ?_⟩
    rw [List.mem_singleton.mp he] at hname
    have hprefix := fieldVariable_prefix loggingSection field
    rw [← hname] at hprefix
    exact absurd hprefix (by decide +kernel)
  have hfile : settingsFile none none latin
      = (.ok (some (ownConfig (Path.ofString "/work"))), latin) :=
    findConfig_of_own (by decide +kernel)
  have hread : readDocument (latin.host.reading (ownConfig (Path.ofString "/work")))
      = .error .encoding := by
    rfl
  have hcounts : CountsAs latin (some (ownConfig (Path.ofString "/work"))) [] :=
    .unusable fun table h => by rw [hread] at h; cases h
  have hdoc : HasSections [] := ⟨fun _ h => (nomatch h), fun _ h => (nomatch h)⟩
  rcases loadSettings_decided_iff hserver hlogging hfile hcounts hdoc with ⟨hiff, hfails⟩
  have hload := hfails _ _ rfl hread
  refine ⟨hload, ?_⟩
  rw [hload]
  exact not_decidedFieldByField fun _ h => nomatch h

end File

end Loading

end ServerLaunch
