import ServerLaunch.Proofs.FlagRouting
import ServerLaunch.Proofs.JsonRoundTrip
import ServerLaunch.Proofs.Preparation

/-!
# Options over Settings

The builder that both commands make from the options of a command line and the settings.

A builder starts from the settings, and the options are applied to it in a fixed order: first
those that have a name of their own, then the flags of the server, then the capabilities. So
there are up to three places from which a port may come, and the settings come last in
precedence because they come first in time. A base path of the settings is put into the table
of flags when the builder is made. It keeps its place there, and a flag of the command line
changes its text; what the builder holds is therefore stated for the flags of the command line
behind those of the settings.

That there is a builder at all depends on each value by itself: also one that is replaced later
is checked when it is set.

## Main definitions

* `ServerConfig.flags`, `ServerOptions.flags`: The flags of the settings, and of the options.
* `ServerOptions.builder`: The builder.
* `ServerOptions.Describes`: What a builder holds that options over settings lead to.
* `ServerOptions.FitsOver`: Options and settings that are not refused.

## Theorems

* `prepare_eq`: Both commands build from this builder.
* `ServerOptions.builder_iff`: When there is a builder, and what it holds.
-/

namespace ServerLaunch

open Act Builder

section Settings

/-- The flags that settings come down to: that of their base path, if they have one. -/
def ServerConfig.flags (config : ServerConfig) : List Flag :=
  match config.basePath with
  | some path => if path.toList.isEmpty then [] else [(basePathFlag, some path)]
  | none => []

theorem lastGiven?_flags_append {kind : String → Bool} (hkind : kind basePathFlag = false)
    (config : ServerConfig) (flags : List Flag) :
    lastGiven? kind (config.flags ++ flags) = lastGiven? kind flags := by
  have hnone : (config.flags.filterMap fun e => if kind e.1 then e.2 else none) = [] := by
    unfold ServerConfig.flags
    split
    · split
      · rfl
      · rw [List.filterMap_cons, hkind, if_neg Bool.false_ne_true]
        rfl
    · rfl
  rw [lastGiven?, List.filterMap_append, hnone, List.nil_append]
  rfl

variable {config : ServerConfig} {environment : Table String} {locator : Locator}
  {hasStream : Bool} {log : LogSource}

/-- A builder as settings have it, before their flags. -/
def ServerConfig.seed (config : ServerConfig) (environment : Table String) (locator : Locator)
    (hasStream : Bool) (log : LogSource) : Builder :=
  { blank locator hasStream log with
    address := some config.address, port := config.port, timeout := .float config.startupTimeout
    environment := environment.map fun e => (e.1, .text e.2) }

/-- Settings whose numbers are not refused are a seed and flags. -/
theorem ofConfig_eq_ok_iff {b : Builder} :
    ofConfig config environment locator hasStream log = .ok b ↔
      (0 ≤ config.port ∧ (Number.float config.startupTimeout).isNotPositive = false) ∧
        (config.seed environment locator hasStream log).addFlags config.flags = .ok b := by
  unfold ofConfig
  simp only [except_bind_eq_ok, setPort_eq_ok_iff, setTimeout_eq_ok_iff, ↓existsAndEq, and_assoc,
    true_and]
  refine and_congr_right fun _ => and_congr_right fun _ => ?_
  unfold ServerConfig.flags
  cases config.basePath with
  | none => rfl
  | some path =>
      dsimp only
      by_cases hempty : path.toList.isEmpty
      · rw [if_pos hempty, if_pos hempty]
        rfl
      · rw [if_neg hempty, if_neg hempty]
        exact (@addFlags_singleton (config.seed environment locator hasStream log) b
          (basePathFlag, some path)).symm

end Settings

namespace CommandLine

section Options

variable {o : ServerOptions} {b b' : Builder}

/-- A text is split at its first equals sign. -/
theorem splitArgument_append {flag : String} (h : '=' ∉ flag.toList) (value : String) :
    splitArgument (flag ++ "=" ++ value) = (flag, some value) := by
  have hflag : ∀ c ∈ flag.toList, (c != '=') = true := fun c hc =>
    bne_iff_ne.mpr fun heq => h (heq ▸ hc)
  have hchars : (flag ++ "=" ++ value).toList = flag.toList ++ '=' :: value.toList := by
    rw [String.toList_append, String.toList_append, List.append_assoc]
    rfl
  have htake : (flag.toList ++ '=' :: value.toList).takeWhile (· != '=') = flag.toList := by
    rw [List.takeWhile_append_of_pos hflag, List.takeWhile_cons_of_neg (by decide),
      List.append_nil]
  have hdrop : (flag.toList ++ '=' :: value.toList).dropWhile (· != '=')
      = '=' :: value.toList := by
    rw [List.dropWhile_append_of_pos hflag, List.dropWhile_cons_of_neg (by decide)]
  unfold splitArgument
  simp only [hchars, htake, hdrop, String.ofList_toList]

/-- A text without one is a flag alone. -/
theorem splitArgument_of_not_mem {flag : String} (h : '=' ∉ flag.toList) :
    splitArgument flag = (flag, none) := by
  have hflag : ∀ c ∈ flag.toList, (c != '=') = true := fun c hc =>
    bne_iff_ne.mpr fun heq => h (heq ▸ hc)
  unfold splitArgument
  simp only [List.takeWhile_eq_self_iff.mpr hflag, List.dropWhile_eq_nil_iff.mpr hflag,
    String.ofList_toList]

/-- The flags of the server among the options. -/
def ServerOptions.flags (o : ServerOptions) : List Flag :=
  o.arguments.map splitArgument

theorem addArguments_eq_addFlags (b : Builder) (arguments : List String) :
    addArguments b arguments = b.addFlags (arguments.map splitArgument) := by
  induction arguments generalizing b with
  | nil => rfl
  | cons raw arguments ih =>
      rw [addArguments, List.map_cons, addFlags]
      cases b.addArgument (.text (splitArgument raw).1) (splitArgument raw).2 with
      | error e => rfl
      | ok b₁ => exact ih b₁

/-- The options that have a name of their own, over what a builder holds. -/
def ServerOptions.settle (o : ServerOptions) (b : Builder) : Builder :=
  { b with
    port := o.port.getD b.port, address := o.address.or b.address
    logFile := o.logFile.or b.logFile, executable := o.node.or b.executable
    mainScript := o.mainScript.or b.mainScript
    timeout := (o.timeout.map Value.number).getD b.timeout }

theorem given_setPort_eq_ok_iff {port : Option Int} :
    given port setPort b = .ok b' ↔
      (∀ p ∈ port, 0 ≤ p) ∧ b' = { b with port := port.getD b.port } := by
  cases port with
  | none =>
      simp only [given, Except.ok.injEq, Option.not_mem_none, false_implies, implies_true,
        Option.getD_none, true_and]
      exact eq_comm
  | some p =>
      simp only [given, setPort_eq_ok_iff, Option.mem_some_iff, forall_eq', Option.getD_some]

theorem given_setTimeout_eq_ok_iff {timeout : Option Number} :
    given timeout setTimeout b = .ok b' ↔ (∀ t ∈ timeout, t.isNotPositive = false) ∧
      b' = { b with timeout := (timeout.map Value.number).getD b.timeout } := by
  cases timeout with
  | none =>
      simp only [given, Except.ok.injEq, Option.not_mem_none, false_implies, implies_true,
        Option.map_none, Option.getD_none, true_and]
      exact eq_comm
  | some t =>
      simp only [given, setTimeout_eq_ok_iff, Option.mem_some_iff, forall_eq', Option.map_some,
        Option.getD_some]

/-- Options whose numbers are not refused are settled, and then there are their flags. -/
theorem ServerOptions.apply_eq_ok_iff :
    o.apply b = .ok b' ↔
      ((∀ p ∈ o.port, 0 ≤ p) ∧ ∀ t ∈ o.timeout, t.isNotPositive = false) ∧
        (o.settle b).addFlags o.flags = .ok b' := by
  have haddress (c : Builder) :
      given o.address (fun b s => (.ok (b.setAddress (some s)) : Except LaunchError Builder)) c
        = .ok { c with address := o.address.or c.address } := by
    cases o.address <;> rfl
  have hlog (c : Builder) :
      given o.logFile (fun b p => (.ok (b.setLogFile (some p)) : Except LaunchError Builder)) c
        = .ok { c with logFile := o.logFile.or c.logFile } := by
    cases o.logFile <;> rfl
  have hnode (c : Builder) :
      given o.node (fun b p => (.ok (b.setExecutable p) : Except LaunchError Builder)) c
        = .ok { c with executable := o.node.or c.executable } := by
    cases o.node <;> rfl
  have hscript (c : Builder) :
      given o.mainScript (fun b p => (.ok (b.setMainScript p) : Except LaunchError Builder)) c
        = .ok { c with mainScript := o.mainScript.or c.mainScript } := by
    cases o.mainScript <;> rfl
  unfold ServerOptions.apply
  simp only [haddress, hlog, hnode, hscript, except_bind_eq_ok, given_setPort_eq_ok_iff,
    given_setTimeout_eq_ok_iff, Except.ok.injEq, ↓existsAndEq, and_assoc, true_and,
    addArguments_eq_addFlags]
  rfl

theorem distinct_of_readCapabilities {text : String} {es : Entries}
    (h : readCapabilities text = .ok es) : Entries.Distinct es := by
  unfold readCapabilities at h
  split at h
  · next hparse =>
      rw [← Except.ok.inj h]
      exact Json.distinct_of_parse hparse
  all_goals cases h

/-- A builder without capabilities comes to have those that are read. -/
theorem addCapabilities_of_none {es : Entries} (hnone : b.capabilities = none)
    (hdistinct : Entries.Distinct es) : (b.addCapabilities es).capabilities = some ⟨es⟩ := by
  rw [addCapabilities, hnone]
  exact congrArg (fun es => some (Capabilities.mk es)) (Entries.ofPairs_of_distinct hdistinct)

/-- Capabilities that can be read are added, in the form that the options choose. -/
theorem ServerOptions.applyCaps_eq_ok_iff :
    o.applyCaps b = .ok (.ok b') ↔
      match o.caps with
      | none => b' = b
      | some text => ∃ es, readCapabilities text = .ok es ∧
        b' = (b.chooseQuoting (some o.quoteCaps)).addCapabilities es := by
  unfold ServerOptions.applyCaps
  cases o.caps with
  | none =>
      simp only [Except.ok.injEq]
      exact eq_comm
  | some text =>
      dsimp only
      cases readCapabilities text with
      | ok es =>
          simp only [Except.ok.injEq, exists_eq_left']
          exact eq_comm
      | error fault =>
          cases fault <;> simp only [reduceCtorEq, Except.ok.injEq, false_and, exists_false]

/-- Capabilities are refused exactly if they cannot be read. -/
theorem ServerOptions.applyCaps_isOk_iff :
    (∃ b', o.applyCaps b = .ok (.ok b')) ↔
      ∀ text ∈ o.caps, ∃ es, readCapabilities text = .ok es := by
  simp only [applyCaps_eq_ok_iff]
  cases o.caps with
  | none => exact iff_of_true ⟨b, rfl⟩ fun _ h => nomatch h
  | some text =>
      simp only [Option.mem_some_iff, forall_eq']
      constructor
      · rintro ⟨b', es, hread, _⟩
        exact ⟨es, hread⟩
      · rintro ⟨es, hread⟩
        exact ⟨_, es, hread, rfl⟩

/-- Capabilities change nothing else, apart from the choice of their form. -/
theorem ServerOptions.applyCaps_frame (h : o.applyCaps b = .ok (.ok b')) :
    b' = { b with capabilities := b'.capabilities, quoteOnWindows := b'.quoteOnWindows } := by
  have hcaps := applyCaps_eq_ok_iff.mp h
  split at hcaps
  · rw [hcaps]
  · rcases hcaps with ⟨es, _, rfl⟩
    rfl

end Options

section Making

/-- The builder that the options describe, over the settings of a context. -/
def ServerOptions.builder (o : ServerOptions) (context : LaunchContext) (hasStream : Bool) :
    WorldAct (Except UsageFault Builder) := do
  let logger ← asLogger context.logger
  let b ← Builder.create (some context.settings.server) none hasStream (some logger)
  let b ← refusable (o.apply b)
  Act.ofExcept (o.applyCaps b)

/-- Both commands build from this builder, and from nothing else. -/
theorem prepare_eq (context : LaunchContext) (o : ServerOptions) (hasStream : Bool) :
    prepare context o hasStream = (do
      match ← o.builder context hasStream with
      | .error fault => return .error fault
      | .ok b =>
        let handle ← Act.zoom (fun w => (b, w)) (fun s _ => s.2) Builder.build
        return .ok handle) := by
  -- The steps are the same, one behind the other; only the brackets differ.
  refine Eq.symm ((Act.bind_assoc _ _ _).trans (congrArg _ (funext fun logger => ?_)))
  refine (Act.bind_assoc _ _ _).trans (congrArg _ (funext fun b => ?_))
  exact Act.bind_assoc _ _ _

/-- With a logger, there is a builder if nothing is refused, and the world stays as it is. -/
theorem ServerOptions.builder_apply {context : LaunchContext} {l : Logger}
    (hlogger : context.logger = .logger l) (o : ServerOptions) (hasStream : Bool) (w : World) :
    o.builder context hasStream w = ((do
      let b ← (ofConfig context.settings.server w.host.environment
        ⟨defaultSources, .float context.settings.server.npmTimeout, .ofLogger l⟩ hasStream
        (.ofLogger l)).mapError .launch
      let b ← (o.apply b).mapError .launch
      o.applyCaps b), w) := by
  have hl : asLogger context.logger w = (.ok l, w) := by
    rw [hlogger]
    rfl
  have hcreate : Builder.create (some context.settings.server) none hasStream (some l) w
      = ((ofConfig context.settings.server w.host.environment
        ⟨defaultSources, .float context.settings.server.npmTimeout, .ofLogger l⟩ hasStream
        (.ofLogger l)).mapError .launch, w) := rfl
  unfold ServerOptions.builder
  rw [bind_ok hl]
  -- Once the builder is made, the options are applied to it and nothing else happens.
  simp only [refusable, ofExcept_bind]
  cases hconfig : (ofConfig context.settings.server w.host.environment
      ⟨defaultSources, .float context.settings.server.npmTimeout, .ofLogger l⟩ hasStream
      (.ofLogger l)).mapError Failure.launch with
  | error e =>
      rw [bind_error (hcreate.trans (by rw [hconfig]))]
      rfl
  | ok b =>
      rw [bind_ok (hcreate.trans (by rw [hconfig]))]
      rfl

/-- What a builder holds that options over settings lead to. -/
structure ServerOptions.Describes (o : ServerOptions) (config : ServerConfig) (b : Builder) :
    Prop where
  port : match lastGiven? isPortFlag o.flags with
    | some text => Numeral.readInteger text = .ok b.port
    | none => b.port = o.port.getD config.port
  address : b.address
    = some ((lastGiven? isAddressFlag o.flags).getD (o.address.getD config.address))
  logFile : b.logFile = ((lastGiven? isLogFlag o.flags).map Path.ofString).or o.logFile
  timeout : b.timeout = .number (o.timeout.getD (.float config.startupTimeout))
  arguments : KeepsFlags (config.flags ++ o.flags) b.arguments
  capabilities : match o.caps with
    | some text => ∃ es, readCapabilities text = .ok es ∧ b.capabilities = some ⟨es⟩
    | none => b.capabilities = none

/-- Options over settings of which nothing is refused. -/
structure ServerOptions.FitsOver (o : ServerOptions) (config : ServerConfig) : Prop where
  configPort : 0 ≤ config.port
  configTimeout : (Number.float config.startupTimeout).isNotPositive = false
  port : ∀ port ∈ o.port, 0 ≤ port
  timeout : ∀ timeout ∈ o.timeout, timeout.isNotPositive = false
  flags : ∀ e ∈ config.flags ++ o.flags, IsAcceptable e
  caps : ∀ text ∈ o.caps, ∃ es, readCapabilities text = .ok es

/-- The settings, the options and the flags of a builder, each where the others end. -/
theorem ServerOptions.takesFlags {config : ServerConfig} {environment : Table String}
    {locator : Locator} {hasStream : Bool} {log : LogSource} {o : ServerOptions}
    {b b' : Builder} (hconfig : ofConfig config environment locator hasStream log = .ok b)
    (happly : o.apply b = .ok b') :
    TakesFlags (o.settle (config.seed environment locator hasStream log))
      (config.flags ++ o.flags) b' := by
  have hseed := (TakesFlags.nil rfl).run (ofConfig_eq_ok_iff.mp hconfig).2
  rw [List.nil_append] at hseed
  have hnone (kind : String → Bool) (hkind : kind basePathFlag = false) :
      lastGiven? kind config.flags = none := by
    rw [← List.append_nil config.flags, lastGiven?_flags_append hkind]
    rfl
  -- The flags of the settings have nothing to do with the fields that the options settle.
  have hsettled : TakesFlags (o.settle (config.seed environment locator hasStream log))
      config.flags (o.settle b) := by
    have hport := hseed.port
    have haddress := hseed.address
    have hlog := hseed.logFile
    rw [hnone isPortFlag (by decide)] at hport
    rw [hnone isAddressFlag (by decide)] at haddress
    rw [hnone isLogFlag (by decide)] at hlog
    refine ⟨?_, ?_, ?_, ?_, hseed.capabilities, hseed.arguments⟩
    · rw [hnone isPortFlag (by decide)]
      exact congrArg (o.port.getD ·) hport
    · rw [hnone isAddressFlag (by decide)]
      exact congrArg (o.address.or ·) haddress
    · rw [hnone isLogFlag (by decide)]
      exact congrArg (o.logFile.or ·) hlog
    · exact congrArg ((o.timeout.map Value.number).getD ·) hseed.timeout
  exact hsettled.run (apply_eq_ok_iff.mp happly).2

theorem ServerOptions.describes_of_takesFlags {config : ServerConfig}
    {environment : Table String} {locator : Locator} {hasStream : Bool} {log : LogSource}
    {o : ServerOptions} {b b' : Builder}
    (h : TakesFlags (o.settle (config.seed environment locator hasStream log))
      (config.flags ++ o.flags) b) (hcaps : o.applyCaps b = .ok (.ok b')) :
    o.Describes config b' := by
  have hframe := applyCaps_frame hcaps
  have hport := h.port
  have haddress := h.address
  have hlog := h.logFile
  rw [lastGiven?_flags_append (by decide)] at hport haddress hlog
  refine ⟨?_, ?_, ?_, ?_, ?_, ?_⟩
  · rw [hframe]
    exact hport
  · have hchoice (x y : Option String) (s : String) :
        x.or (y.or (some s)) = some (x.getD (y.getD s)) := by
      cases x <;> cases y <;> rfl
    rw [hframe, haddress]
    exact hchoice _ _ _
  · rw [hframe, hlog]
    exact congrArg (Option.or _) Option.or_none
  · rw [hframe, h.timeout]
    cases hgiven : o.timeout <;> simp only [settle, hgiven] <;> rfl
  · rw [hframe]
    exact h.arguments
  · have hnone : b.capabilities = none := h.capabilities
    have hchosen := applyCaps_eq_ok_iff.mp hcaps
    cases hgiven : o.caps with
    | none =>
        rw [hgiven] at hchosen
        exact (congrArg Builder.capabilities hchosen).trans hnone
    | some text =>
        rw [hgiven] at hchosen
        rcases hchosen with ⟨es, hread, rfl⟩
        exact ⟨es, hread, addCapabilities_of_none hnone (distinct_of_readCapabilities hread)⟩

/-- Options lead to a builder over settings exactly if nothing is refused, and what the builder
    holds is decided by the last flag, the option and the settings, in this order. -/
theorem ServerOptions.builder_iff {context : LaunchContext} {l : Logger}
    (hlogger : context.logger = .logger l) (o : ServerOptions) (hasStream : Bool) (w : World) :
    ((∃ b, o.builder context hasStream w = (.ok (.ok b), w)) ↔
        o.FitsOver context.settings.server) ∧
      ∀ b w', o.builder context hasStream w = (.ok (.ok b), w') →
        w' = w ∧ o.Describes context.settings.server b := by
  rw [builder_apply hlogger]
  simp only [Prod.mk.injEq, and_true, except_bind_eq_ok, mapError_eq_ok]
  refine ⟨⟨?_, fun hfits => ?_⟩, ?_⟩
  -- Each part is refused for its own sake, so the parts can be looked at one by one.
  · rintro ⟨b, b₁, hconfig, b₂, happly, hcaps⟩
    rcases ofConfig_eq_ok_iff.mp hconfig with ⟨⟨hport, htimeout⟩, hflags⟩
    rcases apply_eq_ok_iff.mp happly with ⟨⟨hoport, hotimeout⟩, hoflags⟩
    refine ⟨hport, htimeout, hoport, hotimeout, ?_, applyCaps_isOk_iff.mp ⟨b, hcaps⟩⟩
    exact List.forall_mem_append.mpr
      ⟨addFlags_isOk_iff.mp ⟨b₁, hflags⟩, addFlags_isOk_iff.mp ⟨b₂, hoflags⟩⟩
  · rcases List.forall_mem_append.mp hfits.flags with ⟨hflags, hoflags⟩
    rcases addFlags_isOk_iff.mpr hflags with ⟨b₁, hconfig⟩
    rcases addFlags_isOk_iff.mpr hoflags with ⟨b₂, happly⟩
    rcases applyCaps_isOk_iff.mpr hfits.caps with ⟨b, hcaps⟩
    exact ⟨b, b₁, ofConfig_eq_ok_iff.mpr ⟨⟨hfits.configPort, hfits.configTimeout⟩, hconfig⟩, b₂,
      apply_eq_ok_iff.mpr ⟨⟨hfits.port, hfits.timeout⟩, happly⟩, hcaps⟩
  · rintro b w' ⟨⟨b₁, hconfig, b₂, happly, hcaps⟩, hw⟩
    exact ⟨hw.symm, describes_of_takesFlags (takesFlags hconfig happly) hcaps⟩

/-- Flags that come twice, one of them with both kinds of value, over settings with a base
    path. -/
def crowded : ServerOptions where
  port := some 5000
  arguments := ["--port=6000", "--log-level=debug", "-p=6001", "--port", "--base-path",
    "--log-level=a=b"]
  caps := some "\x7b\"name\": null\x7d"

@[inherit_doc crowded]
def crowdedContext : LaunchContext :=
  ⟨{ server := { basePath := some "wd/hub" } }, .logger (.silent 0), default⟩

/-- The last port counts although it is not the last flag of its name, and the base path keeps
    its place. -/
theorem ServerOptions.builder_iff_crowded :
    ∃ b, crowded.builder crowdedContext false (World.start default default .seconds)
        = (.ok (.ok b), World.start default default .seconds) ∧
      b.port = 6001 ∧ b.arguments.map Prod.fst = ["--base-path", "--log-level", "--port"] ∧
      b.arguments.lookup "--base-path" = some "" ∧
      b.arguments.lookup "--log-level" = some "a=b" ∧
      b.capabilities = some ⟨[(.text "name", .null)]⟩ := by
  have hcaps : readCapabilities "\x7b\"name\": null\x7d" = .ok [(.text "name", .null)] := by cbv
  have hlogger : crowdedContext.logger = .logger (.silent 0) := rfl
  rcases builder_iff hlogger crowded false (World.start default default .seconds) with
    ⟨hiff, hholds⟩
  have hfits : crowded.FitsOver crowdedContext.settings.server := by
    refine ⟨by decide, by decide +kernel, by decide, by decide, ?_, ?_⟩
    · exact (@addFlags_isOk_iff default _).mp ⟨_, rfl⟩
    · intro text htext
      cases htext
      exact ⟨_, hcaps⟩
  rcases hiff.mpr hfits with ⟨b, hb⟩
  rcases (hholds b _ hb).2 with ⟨hport, _, _, _, harguments, hcapabilities⟩
  have htext (name : String) (value : Option String) (text : String)
      (hlast : Table.lastValue? ((crowdedContext.settings.server.flags ++ crowded.flags).filter
        isKept) name = some value) (hkept : keptText name value = .ok text) :
      b.arguments.lookup name = some text := by
    have hfound := harguments.texts name
    rw [hlast] at hfound
    rcases hfound with ⟨text', hkept', hlookup⟩
    rw [hlookup, Except.ok.inj (hkept'.symm.trans hkept)]
  refine ⟨b, hb, ?_, ?_, ?_, ?_, ?_⟩
  · have hlast : lastGiven? isPortFlag crowded.flags = some "6001" := by decide +kernel
    have hread : Numeral.readInteger "6001" = .ok 6001 := rfl
    rw [hlast] at hport
    exact Except.ok.inj (hport.symm.trans hread)
  · exact harguments.names.trans (by decide +kernel)
  · exact htext "--base-path" none "" (by decide +kernel) rfl
  · exact htext "--log-level" (some "a=b") "a=b" (by decide +kernel) rfl
  · rcases hcapabilities with ⟨es, hread, hes⟩
    rw [hes, Except.ok.inj (hread.symm.trans hcaps)]

end Making

end CommandLine

end ServerLaunch
