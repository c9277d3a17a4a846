import ServerLaunch.Config.Assignment
import ServerLaunch.Proofs.BasePath
import ServerLaunch.Proofs.OptionsOverSettings

/-!
# Valid Settings of a Server

That a builder never refuses the settings of a server, however they came about.

The numbers and the base path of a server are checked twice: where they are put into the settings,
and again where a builder is made from these. The two checks were written apart. The first bounds
the port, wants timeouts above zero, and trims the base path, a blank one being none at all. The
second refuses a port below zero, a timeout that is not above zero, and a base path that is blank
once it is trimmed. `ServerConfig.Valid` is what the first makes sure of, and it is enough for the
second.

Settings are valid when they are read, and stay so as values are assigned to their names: what is
assigned is checked, and what is refused changes nothing. Assumed are names for which there is a
check: fields, and names that are none, private or reserved ones and the marks included. Left out
are `OpenSection.uncheckedNames`, by which an object is taken apart, for then there is no telling
what the fields hold.

## Main definitions

* `ServerConfig.Valid`: Settings as their checks leave them.
* `OpenSection.assignAll`: A section after assignments, some of which may be refused.
* `Builder.Reflects`: A builder that has the defaults of a section, and nothing else.

## Theorems

* `ServerConfig.Valid.of_read`, `ServerConfig.Valid.assign`: Settings are valid and stay so.
* `OpenSection.history_append`: What becomes of assignments, and of more of them.
* `ServerConfig.Valid.create`: A builder takes valid settings.
* `ServerConfig.assignAll_valid`: Settings that were read and then assigned to.
-/

namespace ServerLaunch

open Act

namespace Field

variable {v : Value} {s : String} {x : Binary64}

theorem positiveReal_eq_ok (h : positiveReal v = .ok x) : x.isPositive := by
  unfold positiveReal at h
  split at h
  · split at h
    · next hpositive =>
        rw [← Except.ok.inj h]
        exact hpositive
    · cases h
  · cases h

/-- A trimmed text is not empty, and has no blanks at its ends. -/
theorem trimmedText_eq_ok (h : trimmedText v = .ok (some s)) :
    s ≠ "" ∧ Text.EndsOutside Text.isBlank s.toList := by
  have hsome : ∀ t : String, (if t.toList.isEmpty then none else some t) = some s →
      s ≠ "" ∧ t = s := by
    intro t ht
    split at ht
    · cases ht
    · next hne =>
        rw [← Option.some.inj ht]
        exact ⟨fun heq => hne (by rw [heq]; rfl), rfl⟩
  unfold trimmedText at h
  split at h
  · cases h
  · dsimp only at h
    split at h
    · cases h
    · rcases hsome _ (Except.ok.inj h) with ⟨hne, rfl⟩
      refine ⟨hne, ?_⟩
      rw [Text.trimmed, String.toList_ofList]
      exact Text.trim_endsOutside _ _

end Field

namespace ServerConfig

variable {c c' : ServerConfig} {name : String} {v : Value}

/-- Settings as their checks leave them. -/
structure Valid (c : ServerConfig) : Prop where
  port_nonneg : 0 ≤ c.port
  port_le : c.port ≤ 65535
  startupTimeout : c.startupTimeout.isPositive
  npmTimeout : c.npmTimeout.isPositive
  basePath : ∀ s, c.basePath = some s → s ≠ "" ∧ Text.EndsOutside Text.isBlank s.toList

theorem readPort_eq_ok {i : Int} (h : readPort v = .ok i) : 0 ≤ i ∧ i ≤ 65535 := by
  unfold readPort at h
  split at h
  · split at h
    · cases h
    · split at h
      · cases h
      · next hlow hhigh =>
          rw [← Except.ok.inj h]
          exact ⟨Int.not_lt.mp hlow, Int.not_lt.mp hhigh⟩
  · cases h

namespace Valid

theorem default : ({} : ServerConfig).Valid where
  port_nonneg := by decide
  port_le := by decide
  startupTimeout := by decide +kernel
  npmTimeout := by decide +kernel
  basePath _ h := nomatch h

/-- A field takes what its check lets pass, and the others stay. -/
theorem set {field : ServerField} (hc : c.Valid) (h : c.set field v = .ok c') : c'.Valid := by
  cases field with
  | port =>
      rcases except_map_eq_ok.mp h with ⟨i, hport, rfl⟩
      rcases readPort_eq_ok hport with ⟨hlow, hhigh⟩
      exact { hc with port_nonneg := hlow, port_le := hhigh }
  | address =>
      rcases except_map_eq_ok.mp h with ⟨s, _, rfl⟩
      exact { hc with }
  | startupTimeout =>
      rcases except_map_eq_ok.mp h with ⟨x, htimeout, rfl⟩
      exact { hc with startupTimeout := Field.positiveReal_eq_ok htimeout }
  | npmTimeout =>
      rcases except_map_eq_ok.mp h with ⟨x, htimeout, rfl⟩
      exact { hc with npmTimeout := Field.positiveReal_eq_ok htimeout }
  | basePath =>
      rcases except_map_eq_ok.mp h with ⟨path, hpath, rfl⟩
      exact { hc with
        basePath := fun s hs => Field.trimmedText_eq_ok (hpath.trans (congrArg Except.ok hs)) }

/-- Faulty fields leave the settings as they were, and fields that are not given as well. -/
theorem readFields (es : Entries) (fields : List ServerField) (hc : c.Valid) :
    (readFields ServerField.name ServerConfig.set es fields c).1.Valid := by
  induction fields generalizing c with
  | nil => exact hc
  | cons field fields ih =>
      rw [ServerLaunch.readFields]
      cases hgiven : givenField es field.name (c.set field) c with
      | error fault => exact ih hc
      | ok c' =>
          refine ih ?_
          unfold givenField at hgiven
          split at hgiven
          · exact hc.set hgiven
          · rw [← Except.ok.inj hgiven]
            exact hc

/-- Settings that are read are valid. -/
theorem of_read {es : Entries} (h : ServerConfig.read es = .ok c) : c.Valid := by
  have hvalid := Valid.default.readFields es ServerField.all
  unfold ServerConfig.read unlessFaulty at h
  split at h
  · next hread =>
      rw [hread, Except.ok.inj h] at hvalid
      exact hvalid
  · cases h

/-- They stay so when a value is assigned to a name. -/
theorem assign (hc : c.Valid) (h : c.assign name v = .ok c') : c'.Valid := by
  unfold ServerConfig.assign at h
  split at h
  · -- A name that is no field changes nothing, if it can be assigned at all.
    unfold assignOther at h
    split at h
    · cases h
    · split at h
      · cases h
      · split at h
        · rw [← Except.ok.inj h]
          exact hc
        · cases h
  · split at h
    · next hset =>
        rw [← Except.ok.inj h]
        exact hc.set hset
    · cases h

end Valid

end ServerConfig

namespace OpenSection

variable {σ : Type} (rules : SectionRules σ)

/-- A section after assignments one after another. One that is refused leaves it as it was. -/
def assignAll : OpenSection σ → List (Value × Value) → OpenSection σ
  | s, [] => s
  | s, (name, v) :: rest =>
    match s.assign rules name.displayText v with
    | .ok after => assignAll after rest
    | .error _ => assignAll s rest

/-- What becomes of assignments is what becomes of the first of them, and then of the others. -/
theorem history_append (s : OpenSection σ) (calls more : List (Value × Value)) :
    history rules s (calls ++ more)
      = history rules s calls ++ history rules (s.assignAll rules calls) more := by
  induction calls generalizing s with
  | nil => rfl
  | cons call calls ih =>
      rcases call with ⟨name, v⟩
      rw [List.cons_append, history, history, assignAll]
      cases s.assign rules name.displayText v with
      | ok after => exact congrArg _ (ih after)
      | error fault => exact congrArg _ (ih s)

/-- Unless the table is exchanged, an assignment that is not refused is one to a section. -/
theorem assign_intact {s s' : OpenSection σ} {config : σ} {name : String} {v : Value}
    (hname : name ≠ tableName) (hs : s.content = .intact config)
    (h : s.assign rules name v = .ok s') :
    ∃ config', s'.content = .intact config' ∧
      (config' = config ∨ rules.assign config name v = .ok config') := by
  unfold assign at h
  rw [if_neg (by simpa using hname)] at h
  split at h
  · -- The marks are no field.
    split at h
    · rw [← Except.ok.inj h]
      exact ⟨config, hs, Or.inl rfl⟩
    · rw [← Except.ok.inj h]
      exact ⟨config, hs, Or.inl rfl⟩
  · rcases except_bind_eq_ok.mp h with ⟨content, hchanged, h⟩
    rw [hs, changed] at hchanged
    rcases except_map_eq_ok.mp hchanged with ⟨config', hassign, rfl⟩
    split at h
    · cases h
    · rw [← Except.ok.inj h]
      exact ⟨config', rfl, Or.inr hassign⟩

end OpenSection

namespace Builder

variable {c : ServerConfig} {locator : Locator} {hasStream : Bool} {log : LogSource}

/-- A builder that has the defaults of a section: the numbers, the address, and the base path as the
    only argument, if there is one. -/
structure Reflects (b : Builder) (c : ServerConfig) : Prop where
  port : b.port = c.port
  address : b.address = some c.address
  timeout : b.timeout = .float c.startupTimeout
  arguments : (c.basePath = none ∧ b.arguments = []) ∨
    ∃ s path, c.basePath = some s ∧ sanitizeBasePath (some s) = .ok path ∧
      b.arguments = [("--base-path", path)]

end Builder

namespace ServerConfig

open Builder

variable {c : ServerConfig}

/-- A base path that is there already is normalised, and not refused. -/
theorem Valid.sanitizeBasePath_isOk (hc : c.Valid) {s : String} (hs : c.basePath = some s) :
    ∃ path, sanitizeBasePath (some s) = .ok path := by
  rcases hc.basePath s hs with ⟨hne, hends⟩
  have htrimmed : Text.trimmed s = s := by
    rw [Text.trimmed, Text.trim_eq_self hends, String.ofList_toList]
  unfold sanitizeBasePath
  rw [Option.getD_some, htrimmed]
  dsimp only
  rw [if_neg (by rwa [List.isEmpty_iff, String.toList_eq_nil_iff])]
  split
  · exact ⟨_, rfl⟩
  · exact ⟨_, rfl⟩

/-- The defaults of valid settings are taken. -/
theorem Valid.ofConfig (hc : c.Valid) (environment : Table String) (locator : Locator)
    (hasStream : Bool) (log : LogSource) :
    ∃ b, ofConfig c environment locator hasStream log = .ok b ∧ b.Reflects c := by
  have hnumbers : 0 ≤ c.port ∧ (Number.float c.startupTimeout).isNotPositive = false := by
    refine ⟨hc.port_nonneg, ?_⟩
    have htimeout := hc.startupTimeout
    unfold Number.isNotPositive
    split
    · next hnumber => cases hnumber
    · rfl
    · next hnumber =>
        cases hnumber
        rw [htimeout]
        rfl
  simp only [ofConfig_eq_ok_iff]
  cases hpath : c.basePath with
  | none =>
      refine ⟨c.seed environment locator hasStream log, ⟨hnumbers, ?_⟩, rfl, rfl, rfl, ?_⟩
      · rw [flags, hpath]
        rfl
      · exact Or.inl ⟨hpath, rfl⟩
  | some s =>
      rcases hc.sanitizeBasePath_isOk hpath with ⟨path, hsanitized⟩
      refine ⟨(c.seed environment locator hasStream log).putArgument basePathFlag path,
        ⟨hnumbers, ?_⟩, rfl, rfl, rfl, ?_⟩
      · have hne : ¬ s.toList.isEmpty := by
          rw [List.isEmpty_iff, String.toList_eq_nil_iff]
          exact (hc.basePath s hpath).1
        rw [flags, hpath]
        dsimp only
        have hname : (FlagName.text basePathFlag).argument = basePathFlag := rfl
        rw [if_neg hne, addFlags_singleton, addArgument, hname, if_neg (by decide),
          if_neg (by decide), if_neg (by decide), if_pos (by decide), hsanitized]
        rfl
      · exact Or.inr ⟨s, path, hpath, hsanitized, rfl⟩

/-- A builder takes valid settings, whatever else it is given. -/
theorem Valid.create (hc : c.Valid) (locator : Option Locator) (hasStream : Bool)
    (logger : Option Logger) (w : World) :
    ∃ b w', Builder.create (some c) locator hasStream logger w = (.ok b, w') ∧ b.Reflects c := by
  have hrun : ∃ environment locator' log w',
      Builder.create (some c) locator hasStream logger w
        = ((Builder.ofConfig c environment locator' hasStream log).mapError .launch, w') := by
    cases locator <;> cases logger <;> exact ⟨_, _, _, _, rfl⟩
  rcases hrun with ⟨environment, locator', log, w', hrun⟩
  rcases hc.ofConfig environment locator' hasStream log with ⟨b, hb, hreflects⟩
  rw [hb] at hrun
  exact ⟨b, w', hrun, hreflects⟩

/-- Valid settings stay valid through assignments, some of which may be refused. -/
theorem Valid.assignAll (calls : List (Value × Value)) {s : OpenSection ServerConfig}
    (hcalls : ∀ call ∈ calls, call.1.displayText ∉ OpenSection.uncheckedNames) (hc : c.Valid)
    (hs : s.content = .intact c) :
    ∃ c', (s.assignAll rules calls).content = .intact c' ∧ c'.Valid := by
  induction calls generalizing s c with
  | nil => exact ⟨c, hs, hc⟩
  | cons call calls ih =>
      rcases call with ⟨name, v⟩
      rcases List.forall_mem_cons.mp hcalls with ⟨hname, hrest⟩
      rw [OpenSection.assignAll]
      cases hassign : s.assign rules name.displayText v with
      | error fault => exact ih hrest hc hs
      | ok s' =>
          have htable : name.displayText ≠ OpenSection.tableName := fun heq =>
            hname (heq ▸ List.mem_cons_self)
          rcases OpenSection.assign_intact rules htable hs hassign with ⟨c', hs', rfl | hset⟩
          · exact ih hrest hc hs'
          · exact ih hrest (hc.assign hset) hs'

/-- Settings that were read are valid after any assignments that are checked. An assignment that is
    refused leaves every field as it was, and a builder takes the settings with their defaults. -/
theorem assignAll_valid {es : Entries} {config : ServerConfig}
    (hread : ServerConfig.read es = .ok config) (calls : List (Value × Value))
    (hcalls : ∀ call ∈ calls, call.1.displayText ∉ OpenSection.uncheckedNames) :
    ∃ c, ((OpenSection.ofConfig config).assignAll rules calls).content = .intact c ∧ c.Valid ∧
      (∀ name v fault,
        ((OpenSection.ofConfig config).assignAll rules calls).assign rules name v = .error fault →
          OpenSection.history rules (.ofConfig config) (calls ++ [(.text name, v)])
            = OpenSection.history rules (.ofConfig config) calls
              ++ [(some fault, some c.entries)]) ∧
      ∀ locator hasStream logger w, ∃ b w',
        Builder.create (some c) locator hasStream logger w = (.ok b, w') ∧ b.Reflects c := by
  have hstart : (OpenSection.ofConfig config).content = .intact config := rfl
  rcases (Valid.of_read hread).assignAll calls hcalls hstart with ⟨c, hcontent, hc⟩
  refine ⟨c, hcontent, hc, fun name v fault hfault => ?_, hc.create⟩
  have hname : (Value.text name).displayText = name := String.ofList_toList
  have hfields : ((OpenSection.ofConfig config).assignAll rules calls).fields? rules
      = some c.entries := by
    rw [OpenSection.fields?, hcontent]
    rfl
  rw [OpenSection.history_append, OpenSection.history, hname, hfault, hfields]
  rfl

/-- A base path is trimmed and a port is refused, and then a builder ends the path with a slash. -/
theorem assignAll_valid_refused :
    ServerConfig.read [(.text "port", .text "4900")] = .ok { port := 4900 } ∧
      ∃ b w', Builder.create (some { port := 4900, basePath := some "/wd" }) none false none
          (World.start default default .seconds) = (.ok b, w') ∧
        b.port = 4900 ∧ b.arguments = [("--base-path", "/wd/")] := by
  have hread : ServerConfig.read [(.text "port", .text "4900")] = .ok { port := 4900 } := by
    rfl
  rcases assignAll_valid hread
    [(.text "base_path", .text " /wd\t"), (.text "port", .int 70000)] (by decide +kernel)
    with ⟨c, hcontent, _, _, hcreate⟩
  have hassigned : ((OpenSection.ofConfig ({ port := 4900 } : ServerConfig)).assignAll rules
      [(.text "base_path", .text " /wd\t"), (.text "port", .int 70000)]).content
      = .intact { port := 4900, basePath := some "/wd" } := by
    rfl
  cases hassigned.symm.trans hcontent
  rcases hcreate none false none (World.start default default .seconds) with ⟨b, w', hrun, hb⟩
  refine ⟨hread, b, w', hrun, hb.port, ?_⟩
  rcases hb.arguments with ⟨hnone, _⟩ | ⟨s, path, hs, hpath, harguments⟩
  · cases hnone
  · cases hs
    cases (rfl : sanitizeBasePath (some "/wd") = .ok "/wd/").symm.trans hpath
    exact harguments

end ServerConfig

end ServerLaunch
