import ServerLaunch.Proofs.BuilderRun

/-!
# Launch Commands

What stands on the command line of a handle, and that the handle agrees with it.

A command line is written in the middle of a build, and the handle is made at its end, so
the same port and the same address are read twice. `LaunchAgreement` says of a builder
before a build, the builder after it and the handle it gave that all three agree with one
list of words: which words these are, in which order, and that the settings that were read
are the ones written.

The flags are described from the side of the words. `FlagsWritten` says which words a table
may leave behind, one flag after the other, without a look at how they are computed. With
the names of a table distinct, as they are in every builder that can come up, each flag is
written once and at the place where it was first set.

## Main definitions

* `FlagsWritten`: The words of a table of flags.
* `Builder.LaunchAgreement`: The builders around a build, and the command line of its handle.
* `World.twoFiles`: A world in which a launch finds all it needs.

## Theorems

* `flagTokens_written`: What is computed of a table is what the table leaves behind.
* `Builder.capabilityTokens_eq_ok`: Capabilities leave a flag and one token, or nothing.
* `Builder.build_agreement`: Whatever a build gives agrees with the builders around it.
* `Builder.Reachable.build_command`: The same, with every flag written once.
* `Builder.Reachable.build_command_twoFiles`: A builder with flags of all three sorts.
-/

namespace ServerLaunch

/-- The words that a table of flags leaves behind, in the order of the table. A flag without
    a name leaves none, a switch its name, any other flag its name and right after it its
    value. -/
inductive FlagsWritten : Table String → List String → Prop
  | nil : FlagsWritten [] []
  | unnamed {value : String} {flags : Table String} {words : List String}
      (h : FlagsWritten flags words) : FlagsWritten (("", value) :: flags) words
  | switch {name : String} {flags : Table String} {words : List String} (hname : name ≠ "")
      (h : FlagsWritten flags words) : FlagsWritten ((name, "") :: flags) (name :: words)
  | valued {name value : String} {flags : Table String} {words : List String}
      (hname : name ≠ "") (hvalue : value ≠ "") (h : FlagsWritten flags words) :
      FlagsWritten ((name, value) :: flags) (name :: value :: words)

/-- A text has characters unless it is the empty one. -/
theorem toList_isEmpty_iff {s : String} : s.toList.isEmpty = true ↔ s = "" := by
  rw [List.isEmpty_iff, String.toList_eq_nil_iff]

namespace Builder

/-- What is computed of a table of flags is what the table leaves behind. -/
theorem flagTokens_written (flags : Table String) : FlagsWritten flags (flagTokens flags) := by
  induction flags with
  | nil => exact .nil
  | cons flag flags ih =>
      rcases flag with ⟨name, value⟩
      have hstep : flagTokens ((name, value) :: flags)
          = (if name.toList.isEmpty then []
            else if value.toList.isEmpty then [name] else [name, value]) ++ flagTokens flags := rfl
      rw [hstep]
      -- The two tests on a flag decide which of the three sorts it is.
      by_cases hname : name = ""
      · rw [if_pos (toList_isEmpty_iff.mpr hname), hname]
        exact .unnamed ih
      · rw [if_neg (mt toList_isEmpty_iff.mp hname)]
        by_cases hvalue : value = ""
        · rw [if_pos (toList_isEmpty_iff.mpr hvalue), hvalue]
          exact .switch hname ih
        · rw [if_neg (mt toList_isEmpty_iff.mp hvalue)]
          exact .valued hname hvalue ih

/-- Capabilities leave a flag and one token behind, and where there are none, nothing. -/
theorem capabilityTokens_eq_ok {b : Builder} {host : Host} {words : List String}
    (h : b.capabilityTokens host = .ok words) :
    (b.capabilities = none ∧ words = []) ∨
      ∃ c token, b.capabilities = some c ∧
        Capabilities.token (some c.entries) b.quoteOnWindows host.isWindows = .ok token ∧
        words = ["--default-capabilities", token] := by
  unfold capabilityTokens at h
  cases hc : b.capabilities with
  | none =>
      rw [hc] at h
      exact Or.inl ⟨rfl, (Except.ok.inj h).symm⟩
  | some c =>
      simp only [hc] at h
      split at h
      · next token htoken => exact Or.inr ⟨c, token, rfl, htoken, (Except.ok.inj h).symm⟩
      · exact absurd h (by simp only [reduceCtorEq, not_false_eq_true])

/-- The builder before a build, the builder after it and the handle it gave agree with the
    words of one command line: a script, an address, the words of a log file, of flags and
    of capabilities. -/
structure LaunchAgreement (b b' : Builder) (host : Host) (s : Handle) (script : Path)
    (address : String) (logWords flagWords lastWords : List String) : Prop where
  command : s.command = [s.executable.toText, (script.absolute host.cwd).toText, "--port",
    Numeral.intText s.port, "--address", address] ++ logWords ++ flagWords ++ lastWords
  logged : (b.logFile = none ∧ logWords = []) ∨
    ∃ file, b.logFile = some file ∧ logWords = ["--log", (file.absolute host.cwd).toText]
  flagged : FlagsWritten b.arguments flagWords
  last : (b.capabilities = none ∧ lastWords = []) ∨
    ∃ c token, b.capabilities = some c ∧
      Capabilities.token (some c.entries) b.quoteOnWindows host.isWindows = .ok token ∧
      lastWords = ["--default-capabilities", token]
  url : ∃ path, s.url = "http://" ++ connectHost address ++ ":" ++ Numeral.intText s.port ++ path
  address_ne : address ≠ ""
  kept : b' = { b with
    port := s.port, executable := some s.executable, mainScript := some script
    address := some address }
  port_eq : s.port = if b.port = 0 then host.freePort else b.port

/-- Whatever a build gives agrees with the builders around it, and a free port is asked for
    exactly if any port would do. -/
theorem build_agreement {b b' : Builder} {w w' : World} {s : Handle}
    (h : build (b, w) = (.ok s, (b', w'))) :
    (∃ script address logWords flagWords lastWords,
      LaunchAgreement b b' w.host s script address logWords flagWords lastWords) ∧
      ∃ es, w'.past = es ++ w.past ∧ ((∃ port, .boundPort port ∈ es) ↔ b.port = 0) := by
  rcases build_eq_ok h with ⟨executable, script, last, logger, hb', hlast, hs, _, hes⟩
  have haddress : b'.boundAddress = b.boundAddress :=
    boundAddress_of_some (by rw [hb']; rfl) b.boundAddress_ne_empty
  -- The port of the handle is that of the builder after the build, and so is its address.
  have hport : s.port = b.launchPort w.host := by rw [hs, hb']; rfl
  have hexecutable : s.executable = executable := by rw [hs]; rfl
  refine ⟨⟨script, b.boundAddress, b.logFile.elim [] fun file =>
      ["--log", (file.absolute w.host.cwd).toText], flagTokens b.arguments, last, ?_⟩, hes⟩
  constructor
  case command =>
    rw [Handle.command, hs]
    simp only [handle, leadingTokens, haddress, List.cons_append, List.nil_append,
      List.append_assoc]
    have hlogFile : (b.launchReady w.host executable script).logFile = b.logFile := rfl
    rw [hb', hlogFile]
    cases b.logFile <;> rfl
  case logged =>
    cases b.logFile with
    | none => exact Or.inl ⟨rfl, rfl⟩
    | some file => exact Or.inr ⟨file, rfl, rfl⟩
  case flagged => exact flagTokens_written b.arguments
  case last =>
    have hcaps := capabilityTokens_eq_ok hlast
    rw [hb'] at hcaps
    exact hcaps
  case url =>
    refine ⟨urlPath s.basePath, ?_⟩
    have hsaddress : s.address = b.boundAddress := by rw [hs]; exact haddress
    rw [Handle.url, serverUrl, hsaddress]
  case address_ne => exact b.boundAddress_ne_empty
  case kept => rw [hb', hport, hexecutable]; rfl
  case port_eq => exact hport

/-- Whatever was done to a builder, and in whatever world it is built, the handle agrees with
    the builder and with the words of its own command line, on which every flag is written
    once. Where the host hands out no port zero, the server never has it. -/
theorem Reachable.build_command {b b' : Builder} {w w' : World} {s : Handle} (hb : b.Reachable)
    (h : build (b, w) = (.ok s, (b', w'))) :
    (∃ script address logWords flagWords lastWords,
      LaunchAgreement b b' w.host s script address logWords flagWords lastWords) ∧
      (b.arguments.map Prod.fst).Nodup ∧
      (∃ es, w'.past = es ++ w.past ∧ ((∃ port, .boundPort port ∈ es) ↔ b.port = 0)) ∧
      (w.host.freePort ≠ 0 → s.port ≠ 0) := by
  rcases build_agreement h with ⟨hagree, hes⟩
  refine ⟨hagree, hb.nodup_arguments, hes, fun hfree => ?_⟩
  rcases hagree with ⟨script, address, logWords, flagWords, lastWords, hagree⟩
  rw [hagree.port_eq]
  by_cases hport : b.port = 0
  · rw [if_pos hport]
    exact hfree
  · rw [if_neg hport]
    exact hport

end Builder

/-- A new world whose host has nothing but the two files that a launch needs. -/
def World.twoFiles : World :=
  World.start
    { cwd := ⟨.single, []⟩, home := ⟨.single, ["root"]⟩
      files := [(["node"], .octets []), (["main.js"], .octets [])], directories := []
      environment := [], programs := [], npm := .missing, system := "Linux", freePort := 49152
      refusal := none }
    default .seconds

namespace Builder

/-- A builder of a configuration with an empty address, to which any port will do, and which
    has flags with a value, without a name and without a value. -/
theorem Reachable.build_command_twoFiles :
    ∃ b b' w' s, b.Reachable ∧ b.port = 0 ∧
      build (b, World.twoFiles) = (.ok s, (b', w')) ∧
      s.command = ["node", "/main.js", "--port", "49152", "--address", "0.0.0.0",
        "--log-level", "debug", "--relaxed-security"] ∧
      (∃ script address logWords flagWords lastWords,
        LaunchAgreement b b' World.twoFiles.host s script address logWords flagWords lastWords) ∧
      (b.arguments.map Prod.fst).Nodup ∧ s.port ≠ 0 := by
  have hnew : Reachable _ := @Reachable.create (some { address := "" })
    (some ⟨[], .null, .given (.logger .journal)⟩) false (some .journal) .twoFiles _ _ rfl
  have hfound := (hnew.call (.executable ⟨.relative, ["node"]⟩) .twoFiles).call
    (.mainScript ⟨.relative, ["main.js"]⟩) .twoFiles
  have hset := (((hfound.call (.port 0) .twoFiles).call
    (.argument (.general .logLevel) (some "debug")) .twoFiles).call
    (.argument (.text "") (some "unused")) .twoFiles).call
    (.argument (.general .relaxedSecurity) none) .twoFiles
  have hbuild := hset.build_command (w := World.twoFiles) rfl
  exact ⟨_, _, _, _, hset, rfl, rfl, by decide +kernel, hbuild.1, hbuild.2.1,
    hbuild.2.2.2 (by decide)⟩

end Builder

end ServerLaunch
