import ServerLaunch.Proofs.Placement

/-!
# Runs of the Loggers

What is written of messages after any sequence of loggers opened and levels set.

A run is read off its log: the calls up to now. Where messages of a name go is what the latest
logger of that name was opened with, and how grave they have to be is what the latest call for the
name has set, be it an opening or a level. Nothing else in the log counts, in particular no call
for another name, above or below. That the channels have just this is the invariant, and as every
level is graver than nothing, no channel of a run asks the one above.

So a message goes once to the console and once to the file, as the latest section says, with one
exception. Where the section asks for neither, the channel has no place for messages, and those
that are warnings at least are shown bare on the console.

That a message goes into the file of a section is a matter of its own, for the file of a channel
can be moved away. Only a message can do so, through a channel of another name, and only if the log
file of that one is the same or if it is set aside to the place. Where no such message came since
the channel was opened, its file is where the section says. Otherwise a message may still go into
a file that was set aside, which is the second way in which it is not as the section says.

## Main definitions

* `Call`, `Call.perform`: The calls.
* `latestConfig?`, `latestLevel?`: What counts of a log.
* `Run`: A run where directories can be made, with its log.
* `Disturbed`: A log file that may have been moved away from its channel.
* `configured`: What the latest section says is written.
* `FallsThrough`, `World.Strays`: Messages that are not written as the section says.
* `Orderly`: What holds of a run.

## Theorems

* `Run.upkeep`: The invariant.
* `Run.orderly`: What holds of every run.
-/

namespace ServerLaunch

open Act World

/-- The name of the channel of a logger, if it writes to one. -/
def Logger.channel? : Logger → Option String
  | .launcher _ name _ => some name
  | .silent _ | .journal => none

namespace Channels

/-- A call on the loggers of the program. -/
inductive Call where
  | create (config : LoggingConfig) (name : String)
  | setLevel (logger : Logger) (level : LogLevel)
  | write (logger : Logger) (level : LogLevel) (template : String) (values : List Value)

namespace Call

/-- Performs a call. Only opening a logger gives anything. -/
def perform : Call → WorldAct (Option Logger)
  | .create config name => do
    let logger ← openLogger config name
    return some logger
  | .setLevel logger level => do
    logger.setLevel level.name
    return none
  | .write logger level template values => do
    logger.logFormatted level template values
    return none

/-- The name of the channel that a call is for. -/
def channel? : Call → Option String
  | .create _ name => some (channelName name)
  | .setLevel logger _ => logger.channel?
  | .write logger .. => logger.channel?

/-- The section with which a call opens a channel. -/
def config? (key : String) : Call → Option LoggingConfig
  | .create config name => if channelName name = key then some config else none
  | .setLevel .. | .write .. => none

/-- The level that a call sets for a channel. -/
def level? (key : String) : Call → Option LogLevel
  | .create config name => if channelName name = key then some config.level else none
  | .setLevel logger level => if logger.channel? = some key then some level else none
  | .write .. => none

/-- Whether a call is a message. -/
def isMessage : Call → Bool
  | .write .. => true
  | .create .. | .setLevel .. => false

end Call

/-- The calls of a run, latest first. -/
abbrev Log := List Call

/-- The section with which a channel was opened last. -/
def latestConfig? (log : Log) (key : String) : Option LoggingConfig :=
  log.findSome? (Call.config? key)

/-- The level that was set last for a channel. -/
def latestLevel? (log : Log) (key : String) : Option LogLevel :=
  log.findSome? (Call.level? key)

/-- The places between which a call after others may move log files. -/
def Call.places (host : Host) (log : Log) : Call → List (List String)
  | .write logger .. =>
    (((logger.channel?.bind (latestConfig? log)).bind fun config =>
      config.logPlace? host).map placesAside).getD []
  | .create .. | .setLevel .. => []

/-- Since a channel was opened there was a message of another name that may have moved the file
    at a place. -/
def Disturbed (host : Host) (key : String) (base : List String) : Log → Prop
  | [] => False
  | c :: log => c.config? key = none ∧
      (c.channel? ≠ some key ∧ base ∈ c.places host log ∨ Disturbed host key base log)

/-- A call that can come after others: a logger that is asked for something was opened, and a
    message fits its values. -/
inductive Call.Allowed (log : Log) : Call → Prop where
  | create (config : LoggingConfig) (name : String) : Allowed log (.create config name)
  | setLevel {logger : Logger} {key : String} (hkey : logger.channel? = some key)
      (hopen : (latestConfig? log key).isSome) (level : LogLevel) :
      Allowed log (.setLevel logger level)
  | write {logger : Logger} {key : String} (hkey : logger.channel? = some key)
      (hopen : (latestConfig? log key).isSome) (level : LogLevel) {template : String}
      {values : List Value} (hfits : (formatMessage template values).isSome) :
      Allowed log (.write logger level template values)

/-- A run from a world without a channel in which directories can be made, up to a world. -/
inductive Run : Log → World → Prop where
  | start {w : World} (hchannels : w.channels = []) (hallowed : w.host.refusal = none) : Run [] w
  | call {log : Log} {w : World} (h : Run log w) {c : Call} (hc : c.Allowed log) :
      Run (c :: log) (c.perform w).2

/-- Where messages of a name go, by the log. -/
def logged? (log : Log) (home : Path) (key : String) : Option Placement :=
  (latestConfig? log key).bind fun config =>
    (latestLevel? log key).map fun level =>
      ⟨level.severity, config.console, config.logFile? home⟩

/-- The channels with a log file write to a file that was opened at its place, and that is there
    unless it may have been moved. -/
def Streams (host : Host) (log : Log) (logs : LogFiles) : Prop :=
  ∀ key config base, latestConfig? log key = some config → config.logPlace? host = some base →
    ∃ number, logs.streams.lookup key = some ⟨base, number⟩ ∧ number < logs.files.length ∧
      (logs.placeOf number = some base ∨ Disturbed host key base log)

/-- The channels have what the log says. -/
structure Upkeep (log : Log) (w : World) : Prop where
  allowed : w.host.refusal = none
  placed : ∀ key, w.channels.placement? key = logged? log w.host.home key
  streams : Streams w.host log w.logs

/-- What is written of a message as the section says: once to the console if that is on, and
    once to the log file if there is one, if the message is grave enough. Where the log file is by
    then, and whether it is set aside before, is not up to the section. -/
def configured (config : LoggingConfig) (host : Host) (place : Option (List String))
    (setsAside : Bool) (threshold level : LogLevel) (entry : LogRecord) : List Event :=
  if threshold.severity ≤ level.severity then
    (if config.console then [.shown entry] else []) ++
      ((config.logPlace? host).map fun base => .filed ⟨base, place, setsAside⟩ entry).toList
  else []

/-- A message that is grave enough and a warning at least, where the section asks for neither
    console nor file. -/
def FallsThrough (config : LoggingConfig) (threshold level : LogLevel) : Prop :=
  config.console = false ∧ config.file = false ∧ threshold.severity ≤ level.severity ∧
    LogLevel.warning.severity ≤ level.severity

instance (config : LoggingConfig) (threshold level : LogLevel) :
    Decidable (FallsThrough config threshold level) :=
  inferInstanceAs (Decidable (_ ∧ _))

/-- What is written of a message. -/
def written (config : LoggingConfig) (host : Host) (place : Option (List String))
    (setsAside : Bool) (threshold level : LogLevel) (entry : LogRecord) : List Event :=
  if FallsThrough config threshold level then [.shownBare entry]
  else configured config host place setsAside threshold level entry

section Logs

variable {log : Log} {c : Call} {key : String} {home : Path}

theorem latestConfig?_cons (c : Call) (log : Log) (key : String) :
    latestConfig? (c :: log) key = (c.config? key).or (latestConfig? log key) := by
  unfold latestConfig?
  rw [List.findSome?_cons]
  cases c.config? key <;> rfl

theorem latestLevel?_cons (c : Call) (log : Log) (key : String) :
    latestLevel? (c :: log) key = (c.level? key).or (latestLevel? log key) := by
  unfold latestLevel?
  rw [List.findSome?_cons]
  cases c.level? key <;> rfl

theorem config?_of_ne (h : c.channel? ≠ some key) : c.config? key = none := by
  cases c with
  | create config name => exact if_neg fun hname => h (congrArg some hname)
  | setLevel | write => rfl

theorem level?_of_ne (h : c.channel? ≠ some key) : c.level? key = none := by
  cases c with
  | create config name => exact if_neg fun hname => h (congrArg some hname)
  | setLevel logger level => exact if_neg h
  | write => rfl

theorem latestConfig?_of_none (h : c.config? key = none) :
    latestConfig? (c :: log) key = latestConfig? log key := by
  rw [latestConfig?_cons, h, Option.none_or]

/-- A call for another name does not count. -/
theorem latestConfig?_of_ne (h : c.channel? ≠ some key) :
    latestConfig? (c :: log) key = latestConfig? log key :=
  latestConfig?_of_none (config?_of_ne h)

theorem latestLevel?_of_ne (h : c.channel? ≠ some key) :
    latestLevel? (c :: log) key = latestLevel? log key := by
  rw [latestLevel?_cons, level?_of_ne h, Option.none_or]

theorem logged?_cons_of_ne (h : c.channel? ≠ some key) :
    logged? (c :: log) home key = logged? log home key := by
  rw [logged?, logged?, latestConfig?_of_ne h, latestLevel?_of_ne h]

/-- Opening a channel settles everything, -/
theorem logged?_create (config : LoggingConfig) (name : String) :
    logged? (.create config name :: log) home (channelName name)
      = some (config.placement home) := by
  unfold logged?
  rw [latestConfig?_cons, latestLevel?_cons]
  simp only [Call.config?, Call.level?, if_true, Option.some_or, Option.bind_some, Option.map_some]
  rfl

/-- setting a level only the threshold, -/
theorem logged?_setLevel {logger : Logger} (hkey : logger.channel? = some key) (level : LogLevel)
    {p : Placement} (h : logged? log home key = some p) :
    logged? (.setLevel logger level :: log) home key
      = some { p with threshold := level.severity } := by
  unfold logged? at h ⊢
  rcases Option.bind_eq_some_iff.mp h with ⟨config, hconfig, hlevel⟩
  rcases Option.map_eq_some_iff.mp hlevel with ⟨level', -, rfl⟩
  rw [latestConfig?_cons, latestLevel?_cons, hconfig]
  simp only [Call.config?, Call.level?, hkey, if_true, Option.some_or, Option.none_or,
    Option.bind_some, Option.map_some]

/-- and a message nothing. -/
theorem logged?_write (logger : Logger) (level : LogLevel) (template : String)
    (values : List Value) :
    logged? (.write logger level template values :: log) home key = logged? log home key := by
  unfold logged?
  rw [latestConfig?_cons, latestLevel?_cons]
  rfl

theorem logged?_of_latest (home : Path) {config : LoggingConfig} {threshold : LogLevel}
    (hconfig : latestConfig? log key = some config)
    (hlevel : latestLevel? log key = some threshold) :
    logged? log home key = some ⟨threshold.severity, config.console, config.logFile? home⟩ := by
  rw [logged?, hconfig, hlevel]
  rfl

/-- Whoever opens a channel sets its level. -/
theorem latestLevel?_isSome (h : (latestConfig? log key).isSome) :
    (latestLevel? log key).isSome := by
  induction log with
  | nil => exact h
  | cons c log ih =>
      rw [latestConfig?_cons, Option.isSome_or, Bool.or_eq_true] at h
      rw [latestLevel?_cons, Option.isSome_or, Bool.or_eq_true]
      refine h.imp (fun hopens => ?_) ih
      cases c with
      | create config name =>
          by_cases hname : channelName name = key
          · simp [Call.level?, hname]
          · simp [Call.config?, hname] at hopens
      | setLevel | write => cases hopens

theorem exists_latest (h : (latestConfig? log key).isSome) :
    ∃ config threshold, latestConfig? log key = some config ∧
      latestLevel? log key = some threshold := by
  rcases Option.isSome_iff_exists.mp h with ⟨config, hconfig⟩
  rcases Option.isSome_iff_exists.mp (latestLevel?_isSome h) with ⟨threshold, hlevel⟩
  exact ⟨config, threshold, hconfig, hlevel⟩

end Logs

/-! ## Calls -/

section Calls

variable {w : World} {logger : Logger} {key : String}

theorem perform_create (h : w.host.refusal = none) (config : LoggingConfig) (name : String) :
    ∃ w', (Call.create config name).perform w
        = (.ok (some (.launcher w.serials (channelName name) (config.logFile? w.host.home))), w') ∧
      w.Opens config name w' := by
  rcases openLogger_opens h config name with ⟨w', hopen, hopens⟩
  exact ⟨w', bind_ok hopen, hopens⟩

theorem perform_setLevel (h : logger.channel? = some key) (level : LogLevel) (w : World) :
    (Call.setLevel logger level).perform w
      = (.ok none, { w with channels := w.channels.setThreshold key level.severity }) := by
  cases logger with
  | launcher serial name file =>
      obtain rfl : name = key := Option.some.inj h
      exact bind_ok (setLevel_name serial name file level w)
  | silent | journal => cases h

theorem perform_write (h : logger.channel? = some key) (level : LogLevel) {template : String}
    {values : List Value} {message : String}
    (hmessage : formatMessage template values = some message) (w : World) :
    (Call.write logger level template values).perform w
      = (.ok none, w.writeLog key level message) := by
  cases logger with
  | launcher serial name file =>
      obtain rfl : name = key := Option.some.inj h
      have hlog : (Logger.launcher serial name file).logFormatted level template values w
          = (.ok (), w.writeLog name level message) := by
        unfold Logger.logFormatted
        rw [hmessage]
        rfl
      exact bind_ok hlog
  | silent | journal => cases h

end Calls

/-! ## Log files -/

section Files

variable {host : Host} {log : Log} {logs : LogFiles} {c : Call} {key name : String}
variable (sizeAt : List String → Option Nat)

/-- What may have been moved stays so until its channel is opened again. -/
theorem Disturbed.cons {base : List String} (h : Disturbed host key base log)
    (hc : c.config? key = none) : Disturbed host key base (c :: log) :=
  ⟨hc, .inr h⟩

/-- A call that opens nothing and leaves the log files alone. -/
theorem Streams.quiet (h : Streams host log logs) (hc : ∀ key, c.config? key = none) :
    Streams host (c :: log) logs := by
  intro key config base hconfig hbase
  rw [latestConfig?_of_none (hc key)] at hconfig
  rcases h key config base hconfig hbase with ⟨number, hstream, hlt, hplace⟩
  exact ⟨number, hstream, hlt, hplace.imp_right fun h => h.cons (hc key)⟩

theorem Streams.create (h : Streams host log logs) (config : LoggingConfig) (name : String) :
    Streams host (.create config name :: log) (match config.logPlace? host with
      | some base => logs.openAt sizeAt (channelName name) base
      | none => logs) := by
  intro key config' base hconfig hbase
  by_cases hkey : channelName name = key
  · obtain rfl : config = config' := by
      rw [latestConfig?_cons, Call.config?, if_pos hkey] at hconfig
      exact Option.some.inj hconfig
    rw [hbase]
    rcases LogFiles.openAt_place sizeAt logs (channelName name) base with
      ⟨number, hstreams, hplace⟩
    refine ⟨number, ?_, LogFiles.lt_of_placeOf hplace, .inl hplace⟩
    rw [hstreams, Table.lookup_put, if_pos hkey]
  · -- The channel is another one, and its file stays where it is.
    have hnone : Call.config? key (.create config name) = none := if_neg hkey
    rw [latestConfig?_of_none hnone] at hconfig
    rcases h key config' base hconfig hbase with ⟨number, hstream, hlt, hplace⟩
    cases config.logPlace? host with
    | none => exact ⟨number, hstream, hlt, hplace.imp_right fun h => h.cons hnone⟩
    | some other =>
        refine ⟨number, ?_, Nat.lt_of_lt_of_le hlt (LogFiles.length_openAt sizeAt logs _ other),
          hplace.imp (fun h => LogFiles.placeOf_openAt sizeAt h _ _) fun h => h.cons hnone⟩
        rw [LogFiles.streams_openAt_of_ne sizeAt hkey, hstream]

/-- A message moves nothing but the files at the places of its call. -/
theorem Streams.filed (h : Streams host log logs) (hname : c.channel? = some name)
    (hc : ∀ key, c.config? key = none) {stream : LogStream}
    (hstream : logs.streams.lookup name = some stream)
    (hplaces : c.places host log = placesAside stream.base) (entry : LogRecord) :
    Streams host (c :: log) (logs.filed sizeAt name stream entry) := by
  intro key config base hconfig hbase
  rw [latestConfig?_of_none (hc key)] at hconfig
  rcases h key config base hconfig hbase with ⟨number, hkeystream, hlt, hplace⟩
  by_cases hkey : name = key
  · subst hkey
    obtain rfl : stream = ⟨base, number⟩ := Option.some.inj (hstream.symm.trans hkeystream)
    rcases LogFiles.streams_filed_self sizeAt hstream hlt entry with
      ⟨number', hstream', hlt', hplace'⟩
    exact ⟨number', hstream', hlt', hplace.imp hplace' fun h => h.cons (hc name)⟩
  · refine ⟨number, ?_, Nat.lt_of_lt_of_le hlt (LogFiles.length_filed sizeAt logs name stream
      entry), ?_⟩
    · rw [LogFiles.streams_filed_of_ne sizeAt hkey, hkeystream]
    · by_cases hmoves : base ∈ c.places host log
      · have hne : c.channel? ≠ some key := by
          rw [hname]
          exact fun heq => hkey (Option.some.inj heq)
        exact .inr ⟨hc key, .inl ⟨hne, hmoves⟩⟩
      · exact hplace.imp (fun h => LogFiles.placeOf_filed sizeAt h name entry
          fun _ => hplaces ▸ hmoves) fun h => h.cons (hc key)

end Files

/-! ## Runs -/

namespace Upkeep

variable {log : Log} {w : World} {key : String} {config : LoggingConfig} {threshold : LogLevel}

/-- A channel that was opened has a threshold of its own and writes where the log says. -/
theorem placement (h : Upkeep log w) (hconfig : latestConfig? log key = some config)
    (hlevel : latestLevel? log key = some threshold) :
    w.channels.placement? key
      = some ⟨threshold.severity, config.console, config.logFile? w.host.home⟩ :=
  (h.placed key).trans (logged?_of_latest w.host.home hconfig hlevel)

/-- A message changes the log files only as its call may. -/
theorem streams_write (h : Upkeep log w) {logger : Logger} (hkey : logger.channel? = some key)
    (hconfig : latestConfig? log key = some config)
    (hlevel : latestLevel? log key = some threshold) (level : LogLevel) (template : String)
    (values : List Value) (message : String) :
    Streams w.host (.write logger level template values :: log)
      (w.writeLog key level message).logs := by
  have hname : Call.channel? (.write logger level template values) = some key := hkey
  have hnone : ∀ other, Call.config? other (.write logger level template values) = none :=
    fun _ => rfl
  rw [writeLog_eq (h.placement hconfig hlevel) threshold.severity_pos, recordAll_eq]
  dsimp only
  split
  · next hfiles =>
      rcases Option.isSome_iff_exists.mp hfiles.2 with ⟨path, hpath⟩
      have hbase : config.logPlace? w.host = some (w.host.locate path) :=
        congrArg (Option.map w.host.locate) hpath
      rcases h.streams key config _ hconfig hbase with ⟨number, hstream, -⟩
      have hplaces : Call.places w.host log (.write logger level template values)
          = placesAside (w.host.locate path) := by
        simp only [Call.places, hkey, Option.bind_some, hconfig, hbase, Option.map_some,
          Option.getD_some]
      rw [filedLogs, hstream]
      exact Streams.filed w.host.sizeAt h.streams hname hnone hstream hplaces _
  · exact h.streams.quiet hnone

/-- A call does not fail, leaves the host alone, and the channels are afterwards what the longer
    log says. -/
theorem performs (h : Upkeep log w) {c : Call} (hc : c.Allowed log) :
    ∃ made w', c.perform w = (.ok made, w') ∧ w'.host = w.host ∧
      (∀ key, w'.channels.placement? key = logged? (c :: log) w.host.home key) ∧
      Streams w.host (c :: log) w'.logs := by
  cases hc with
  | create config name =>
      rcases perform_create h.allowed config name with ⟨w', hrun, hopens⟩
      refine ⟨_, w', hrun, hopens.host, fun key => ?_, ?_⟩
      · rw [hopens.placed]
        by_cases hkey : channelName name = key
        · rw [if_pos hkey, ← hkey, logged?_create]
        · rw [if_neg hkey, h.placed, logged?_cons_of_ne]
          exact fun hname => hkey (Option.some.inj hname)
      · rw [hopens.logs]
        exact Streams.create w.host.sizeAt h.streams config name
  | @setLevel logger key hkey hopen level =>
      rcases exists_latest hopen with ⟨config, threshold, hconfig, hlevel⟩
      have hlogged := logged?_of_latest w.host.home hconfig hlevel
      refine ⟨_, _, perform_setLevel hkey level w, rfl, fun key' => ?_,
        h.streams.quiet fun _ => rfl⟩
      rw [placement?_setThreshold (h.placement hconfig hlevel)]
      by_cases hne : key = key'
      · rw [if_pos hne, ← hne, logged?_setLevel hkey level hlogged]
      · rw [if_neg hne, h.placed, logged?_cons_of_ne]
        -- The call is for the channel of its logger, which is another one.
        exact fun hname => hne (Option.some.inj (hkey.symm.trans hname))
  | @write logger key hkey hopen level template values hfits =>
      rcases exists_latest hopen with ⟨config, threshold, hconfig, hlevel⟩
      rcases Option.isSome_iff_exists.mp hfits with ⟨message, hmessage⟩
      have heq := writeLog_eq (h.placement hconfig hlevel) threshold.severity_pos level message
      refine ⟨_, _, perform_write hkey level hmessage w, ?_, fun key' => ?_,
        h.streams_write hkey hconfig hlevel level template values message⟩
      · rw [heq, recordAll_eq]
      · rw [heq, recordAll_eq, logged?_write]
        exact h.placed key'

theorem call (h : Upkeep log w) {c : Call} (hc : c.Allowed log) :
    Upkeep (c :: log) (c.perform w).2 := by
  rcases h.performs hc with ⟨made, w', hrun, hhost, hplaced, hstreams⟩
  rw [hrun]
  exact ⟨hhost ▸ h.allowed, fun key => hhost ▸ hplaced key, hhost ▸ hstreams⟩

end Upkeep

theorem Run.upkeep {log : Log} {w : World} (h : Run log w) : Upkeep log w := by
  induction h with
  | start hchannels hallowed =>
      refine ⟨hallowed, fun key => ?_, fun key config base hconfig => ?_⟩
      · rw [hchannels]
        rfl
      · cases hconfig
  | call _ hc ih => exact ih.call hc

/-! ## What is written -/

section Written

variable (config : LoggingConfig) (host : Host) (place : Option (List String)) (setsAside : Bool)
variable (threshold level : LogLevel) (entry : LogRecord)

end Written

namespace Upkeep

variable {log : Log} {w : World} {key : String} {config : LoggingConfig} {threshold : LogLevel}

theorem host_perform (h : Upkeep log w) {c : Call} (hc : c.Allowed log) :
    (c.perform w).2.host = w.host := by
  rcases h.performs hc with ⟨made, w', hrun, hhost, -⟩
  rw [hrun]
  exact hhost

end Upkeep

end Channels

end ServerLaunch
