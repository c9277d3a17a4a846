import ServerLaunch.Proofs.LogFiles
import ServerLaunch.Proofs.Registrations

/-!
# Where Messages Go

The channels, seen through where each of them writes.

Of a channel three things matter for a message of its name: the threshold, the console and the
file. The fourth, the channel above, matters only to a channel without a threshold of its own, and
it is the only thing that a channel of another name may change. So in the view of
`Channels.placement?`, which leaves it out, opening a channel or setting a threshold is one
equation that mentions a single name.

A channel that is opened from a section of the settings has a threshold, for the levels of a
section are all graver than nothing. From then on what is written of a message is a list of events
that can be told from the placement alone, but for how the message gets into the file. That is up
to the log files, which are all else that a message changes.

## Main definitions

* `Placement`, `Channels.placement?`: Where a channel writes, and from which severity on.
* `LoggingConfig.placement`: What a section says about it.
* `Placement.events`: What is written of a message.
* `World.recordAll`, `World.Writes`: The world with several events more.
* `World.Opens`: What opening a channel does.

## Theorems

* `Channels.placement?_configure`, `Channels.placement?_setThreshold`: What changes.
* `World.writeLog_eq`, `World.writeLog_writes`: What a message adds to the world.
* `severityOfName_name`: The names of the levels are understood.
* `openLogger_opens`: A logger that is opened.
-/

namespace ServerLaunch

open Act

/-- Where a channel writes, and from which severity on. -/
structure Placement where
  threshold : Severity
  console : Bool
  file : Option Path
deriving DecidableEq, Repr

/-- A channel without the one above it. -/
def Channel.placement (channel : Channel) : Placement :=
  ⟨channel.threshold, channel.console, channel.file⟩

namespace LoggingConfig

/-- The log file of a section, if it asks for one. -/
def logFile? (config : LoggingConfig) (home : Path) : Option Path :=
  if config.file then some (config.filePath.getD (defaultLogFile home)) else none

/-- The place of the log file of a section, if it asks for one. -/
def logPlace? (config : LoggingConfig) (host : Host) : Option (List String) :=
  (config.logFile? host.home).map host.locate

/-- Where a section says that messages go. -/
def placement (config : LoggingConfig) (home : Path) : Placement :=
  ⟨config.level.severity, config.console, config.logFile? home⟩

end LoggingConfig

/-- Every level is graver than nothing. -/
theorem LogLevel.severity_pos (level : LogLevel) : 0 < level.severity := by
  cases level <;> decide

/-! ## Channels -/

namespace Channels

variable {channels : Channels} {name key : String}

/-- Where the channel of a name writes, if there is one. -/
def placement? (channels : Channels) (name : String) : Option Placement :=
  (channels.lookup name).map Channel.placement

theorem placement?_put (channels : Channels) (name key : String) (channel : Channel) :
    placement? (channels.put name channel) key
      = if name = key then some channel.placement else placement? channels key := by
  unfold placement?
  rw [Table.lookup_put]
  split <;> rfl

/-- The channels that move below a new one write where they wrote. -/
theorem placement?_adopt (channels : Channels) (name key : String) :
    placement? (adopt channels name) key = placement? channels key := by
  induction channels with
  | nil => rfl
  | cons e rest ih =>
      obtain ⟨k, channel⟩ := e
      -- Whether or not the first channel moves, its name and its placement stay.
      obtain ⟨channel', hadopt, hplace⟩ : ∃ channel', adopt ((k, channel) :: rest) name
          = (k, channel') :: adopt rest name ∧ channel'.placement = channel.placement := by
        simp only [adopt, List.map_cons]
        split
        · exact ⟨_, rfl, rfl⟩
        · exact ⟨_, rfl, rfl⟩
      rw [hadopt]
      simp only [placement?, List.lookup_cons] at ih ⊢
      cases key == k with
      | true => simp only [Option.map_some, hplace]
      | false => exact ih

theorem placement?_withName (h : name ≠ key) :
    placement? (withName channels name) key = placement? channels key := by
  unfold withName
  split
  · rfl
  · rw [placement?_put, if_neg h, placement?_adopt]

/-- A channel that is opened anew writes where it is told to, and all others where they wrote. -/
theorem placement?_configure (channels : Channels) (name key : String) (threshold : Severity)
    (console : Bool) (file : Option Path) :
    placement? (configure channels name threshold console file) key
      = if name = key then some ⟨threshold, console, file⟩ else placement? channels key := by
  unfold configure
  rw [placement?_put]
  by_cases h : name = key
  · rw [if_pos h, if_pos h]
    rfl
  · rw [if_neg h, if_neg h, placement?_withName h]

theorem find_placement {p : Placement} (h : placement? channels name = some p) :
    (find channels name).placement = p := by
  rcases Option.map_eq_some_iff.mp h with ⟨channel, hfound, rfl⟩
  rw [find, hfound, Option.getD_some]

/-- A threshold is set for one channel, which goes on writing where it wrote. -/
theorem placement?_setThreshold {p : Placement} (h : placement? channels name = some p)
    (threshold : Severity) (key : String) :
    placement? (setThreshold channels name threshold) key
      = if name = key then some { p with threshold } else placement? channels key := by
  unfold setThreshold
  rw [placement?_put, ← find_placement h]
  rfl

/-- A channel with a threshold of its own does not ask the one above. -/
theorem threshold_eq {p : Placement} (h : placement? channels name = some p)
    (hp : 0 < p.threshold) : threshold channels name = p.threshold := by
  have hfound : (find channels name).threshold = p.threshold :=
    congrArg Placement.threshold (find_placement h)
  unfold threshold thresholdFrom
  simp only [hfound, Nat.ne_of_gt hp, false_and, if_false]

end Channels

/-! ## Messages -/

namespace Placement

/-- A message at the console and in the file, at each once. -/
def copies (p : Placement) (filing? : Option Filing) (entry : LogRecord) : List Event :=
  (if p.console then [.shown entry] else []) ++
    if p.file.isSome then (filing?.map fun filing => .filed filing entry).toList else []

/-- What is written of a message: its copies, if it is grave enough. Where there is neither console
    nor file, it is shown bare if it is a warning at least. -/
def events (p : Placement) (filing? : Option Filing) (level : LogLevel) (entry : LogRecord) :
    List Event :=
  if p.threshold ≤ level.severity then
    if p.console = false ∧ p.file = none then
      if bareThreshold ≤ level.severity then [.shownBare entry] else []
    else p.copies filing? entry
  else []

/-- Whether a message is put into a log file. -/
def Files (p : Placement) (level : LogLevel) : Prop :=
  p.threshold ≤ level.severity ∧ p.file.isSome = true

instance (p : Placement) (level : LogLevel) : Decidable (p.Files level) :=
  inferInstanceAs (Decidable (_ ∧ _))

end Placement

namespace World

/-- The world with several events more, one after the other. -/
def recordAll (w : World) (es : List Event) : World :=
  es.foldl record w

theorem recordAll_cons (w : World) (e : Event) (es : List Event) :
    w.recordAll (e :: es) = (w.record e).recordAll es := rfl

/-- Only the history is longer. -/
theorem recordAll_eq (w : World) (es : List Event) :
    w.recordAll es = { w with past := es.reverse ++ w.past } := by
  induction es generalizing w with
  | nil => rfl
  | cons e es ih =>
      rw [recordAll_cons, ih, record, List.reverse_cons, List.append_assoc]
      rfl

/-- The history is longer by some events, and nothing else is different but the log files, which
    are so only if a message goes into one of them. -/
def Writes (es : List Event) (w w' : World) : Prop :=
  ∃ logs, w' = { w with logs }.recordAll es ∧
    (logs = w.logs ∨ ∃ filing entry, .filed filing entry ∈ es)

theorem Writes.past {es : List Event} {w w' : World} (h : w.Writes es w') :
    w'.past = es.reverse ++ w.past := by
  rcases h with ⟨logs, rfl, -⟩
  rw [recordAll_eq]

/-- What was added can be told from the history. -/
theorem Writes.unique {es es' : List Event} {w w' : World} (h : w.Writes es w')
    (h' : w.Writes es' w') : es = es' :=
  List.reverse_injective (List.append_cancel_right (h.past.symm.trans h'.past))

/-- How a message is put into the file of a channel, if that writes to one. -/
def filing? (w : World) (name : String) (entry : LogRecord) : Option Filing :=
  (w.logs.streams.lookup name).map fun stream => w.logs.filing stream entry

/-- The log files with a message put into the file of a channel. -/
def filedLogs (w : World) (name : String) (entry : LogRecord) : LogFiles :=
  match w.logs.streams.lookup name with
  | some stream => w.logs.filed w.host.sizeAt name stream entry
  | none => w.logs

theorem file_eq (w : World) (name : String) (entry : LogRecord) :
    w.file name entry = { w with logs := w.filedLogs name entry }.recordAll
      ((w.filing? name entry).map fun filing => Event.filed filing entry).toList := by
  unfold file filing? filedLogs
  cases w.logs.streams.lookup name <;> rfl

theorem write_eq (w : World) (channel : Channel) (entry : LogRecord) :
    channel.write entry w =
      { w with logs := if channel.file.isSome then w.filedLogs entry.name entry else w.logs
        }.recordAll (channel.placement.copies (w.filing? entry.name entry) entry) := by
  unfold Channel.write Placement.copies Channel.placement
  dsimp only
  cases channel.file with
  | none => cases channel.console <;> rfl
  | some path =>
      cases channel.console with
      | false => exact file_eq w entry.name entry
      | true => exact file_eq (w.record (.shown entry)) entry.name entry

/-- A message of a channel that has a threshold adds what its placement says and nothing else. -/
theorem writeLog_eq {w : World} {name : String} {p : Placement}
    (h : w.channels.placement? name = some p) (hp : 0 < p.threshold) (level : LogLevel)
    (message : String) :
    let entry : LogRecord := ⟨level.label, name, message⟩
    w.writeLog name level message =
      { w with logs := if p.Files level then w.filedLogs name entry else w.logs }.recordAll
        (p.events (w.filing? name entry) level entry) := by
  intro entry
  have hfound := Channels.find_placement h
  obtain ⟨hconsole, hfile⟩ : (w.channels.find name).console = p.console ∧
      (w.channels.find name).file = p.file :=
    ⟨congrArg Placement.console hfound, congrArg Placement.file hfound⟩
  have hbare : (w.channels.find name).isBare = true ↔ p.console = false ∧ p.file = none := by
    simp [Channel.isBare, hconsole, hfile]
  unfold writeLog Placement.events Placement.Files
  simp only [Channels.threshold_eq h hp, hbare, write_eq, hfound, hfile]
  by_cases hgrave : p.threshold ≤ level.severity
  · by_cases hnowhere : p.console = false ∧ p.file = none
    · -- Nothing is put into a file, so the log files are what they were.
      simp only [hgrave, hnowhere, Option.isSome_none, and_self, and_false, if_true, if_false,
        Bool.false_eq_true]
      split <;> rfl
    · simp only [hgrave, hnowhere, true_and, if_true, if_false, entry]
  · simp only [hgrave, false_and, if_false]
    rfl

end World

/-! ## Loggers -/

/-- The names of the levels are understood as what they are. -/
theorem severityOfName_name (level : LogLevel) :
    severityOfName level.name = .ok level.severity := by
  cases level <;> rfl

theorem setLevel_name (serial : Nat) (name : String) (file : Option Path) (level : LogLevel)
    (w : World) :
    (Logger.launcher serial name file).setLevel level.name w =
      (.ok (), { w with channels := w.channels.setThreshold name level.severity }) := by
  simp only [Logger.setLevel, severityOfName_name]
  rfl

/-- A channel was opened anew from a section: it writes where the section says, no other one is
    touched, its log file is opened if it has one, and nothing was written. -/
structure World.Opens (config : LoggingConfig) (name : String) (w w' : World) : Prop where
  host : w'.host = w.host
  silent : ∃ es, w'.past = es ++ w.past ∧ ∀ e ∈ es, e.isMessage = false
  placed : ∀ key, w'.channels.placement? key
    = if channelName name = key then some (config.placement w.host.home)
      else w.channels.placement? key
  logs : w'.logs = match config.logPlace? w.host with
    | some base => w.logs.openAt w.host.sizeAt (channelName name) base
    | none => w.logs

/-- Where directories can be made, opening a logger cannot fail. -/
theorem openLogger_opens {w : World} (h : w.host.refusal = none) (config : LoggingConfig)
    (name : String) :
    ∃ w', openLogger config name w = (.ok (.launcher w.serials (channelName name)
        (config.logFile? w.host.home)), w') ∧ w.Opens config name w' := by
  unfold openLogger
  cases hfile : config.file with
  | false =>
      have hnone : config.logFile? w.host.home = none := by
        simp [LoggingConfig.logFile?, hfile]
      rw [hnone]
      refine ⟨_, rfl, rfl, ⟨[], rfl, List.forall_mem_nil _⟩, fun key => ?_, ?_⟩
      · rw [LoggingConfig.placement, hnone]
        exact Channels.placement?_configure _ _ key _ _ _
      · rw [LoggingConfig.logPlace?, hnone]
        rfl
  | true =>
      have hsome : config.logFile? w.host.home
          = some (config.filePath.getD (defaultLogFile w.host.home)) := by
        simp [LoggingConfig.logFile?, hfile]
      obtain ⟨u, hopen, hhost, hserials, hpast, hlogs, hplace⟩ :
          ∃ u, openChannel (channelName name) config none w = (.ok (), u) ∧ u.host = w.host ∧
            u.serials = w.serials ∧ u.past = w.past ∧ u.logs = w.logs ∧
            ∀ key, u.channels.placement? key = if channelName name = key
              then some ⟨config.level.severity, config.console, none⟩
              else w.channels.placement? key :=
        ⟨_, rfl, rfl, rfl, rfl, rfl, fun key => Channels.placement?_configure _ _ key _ _ _⟩
      rw [bind_ok hopen, if_pos rfl, bind_ok (get_apply u),
        bind_ok (makeDirectory_of_allowed (hhost ▸ h) _), hhost, ← hserials, hsome]
      refine ⟨_, rfl, hhost, ⟨[_, _], congrArg (_ :: _ :: ·) hpast, by simp [Event.isMessage]⟩,
        fun key => ?_, ?_⟩
      · rw [LoggingConfig.placement, hsome]
        -- The second opening settles the file, and leaves the other channels as the first did.
        refine (Channels.placement?_configure _ _ key _ _ _).trans ?_
        by_cases hkey : channelName name = key
        · rw [if_pos hkey, if_pos hkey]
        · rw [if_neg hkey, if_neg hkey]
          exact (hplace key).trans (if_neg hkey)
      · rw [LoggingConfig.logPlace?, hsome, ← hlogs, ← hhost]
        rfl

end ServerLaunch
