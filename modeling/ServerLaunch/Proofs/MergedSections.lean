import ServerLaunch.Proofs.EnvironmentSections
import ServerLaunch.Proofs.SectionFields
import ServerLaunch.Settings.Load

/-!
# Sections from Two Sources

What a section is made from when the environment goes over a document.

Sources are merged as tables of tables, the environment put entry by entry into the document.
Two entries of one name are merged if both are tables; and the fields that variables give are
texts, so this comes to an end at the second level. For a field it means that there is one
value that decides: the text of its variable if there is one, what the document has under its
name otherwise. Nothing else in the two sources, and no other field, has a part in it.

## Main definitions

* `sectionTable`: The table that entries have for a section.
* `decidingValue?`: The value that decides a field.
* `Settings.Decided`: Settings in which every field is decided on its own.

## Theorems

* `getText?_mergeDeep`: What is found in a table that went over another.
* `sectionTable_merged`: What is found in a section of the merged sources.
* `Settings.ofEntries_merged`: Settings from both sources.
-/

namespace ServerLaunch

section Merge

/-- What is found where a value was put over what had been there. -/
def mergedValue (fuel : Nat) : Option Value → Value → Value
  | some (.dict old), .dict new => .dict (mergeDeep fuel old new)
  | _, v => v

theorem mergeDeep_succ (fuel : Nat) (lower upper : Entries) :
    mergeDeep (fuel + 1) lower upper = upper.foldl (fun es e =>
      Entries.insert es e.1 (mergedValue fuel (Entries.get? es e.1) e.2)) lower := by
  rw [mergeDeep]
  congr 1
  funext es e
  rcases e with ⟨key, v⟩
  dsimp only
  split
  · next hold => rw [hold]; rfl
  · next hnone =>
      unfold mergedValue
      split
      · next old new hold => exact absurd rfl (hnone _ _ hold)
      · rfl

theorem mergedValue_text (fuel : Nat) (old : Option Value) (text : String) :
    mergedValue fuel old (.text text) = .text text := by
  unfold mergedValue
  split
  · next heq => cases heq
  · rfl

/-- What is found in a table that went over another. No key may be in it twice. -/
theorem getText?_mergeDeep {upper : Entries} (hdistinct : Entries.Distinct upper) (fuel : Nat)
    (lower : Entries) (name : String) :
    Entries.getText? (mergeDeep (fuel + 1) lower upper) name =
      match Entries.getText? upper name with
      | some v => some (mergedValue fuel (Entries.getText? lower name) v)
      | none => Entries.getText? lower name := by
  rw [mergeDeep_succ]
  induction upper generalizing lower with
  | nil => rfl
  | cons e rest ih =>
      rcases List.pairwise_cons.mp hdistinct with ⟨hnew, hrest⟩
      rw [List.foldl_cons, ih hrest, Entries.getText?_cons, Entries.getText?_insert]
      by_cases hkey : e.1 = .text name
      · -- The name does not come again.
        have hnone := Entries.getText?_eq_none_of_distinct hdistinct hkey
        rw [hnone, if_pos hkey, if_pos hkey, hkey]
        rfl
      · rw [if_neg hkey, if_neg hkey]

end Merge

section Sections

variable {environment : Table String} {doc : Entries} {sectionName : String}

/-- What there is under the name of a section, if anything, is a table. -/
def IsSection (es : Entries) (sectionName : String) : Prop :=
  ∀ v, Entries.getText? es sectionName = some v → ∃ fields, v = .dict fields

/-- The table that entries have for a section; an empty one, if they have none. -/
def sectionTable (es : Entries) (sectionName : String) : Entries :=
  match Entries.getText? es sectionName with
  | some (.dict fields) => fields
  | _ => []

theorem readSection_eq {σ : Type} {es : Entries} (h : IsSection es sectionName) (model : String)
    (read : Entries → Except (List FieldReport) σ) :
    readSection es sectionName model read = read (sectionTable es sectionName) := by
  unfold readSection sectionTable
  cases hgiven : Entries.getText? es sectionName with
  | none => rfl
  | some v =>
      rcases h v hgiven with ⟨fields, rfl⟩
      rfl

/-- The value that decides a field: the text of its variable, or what a document has for it. -/
def decidingValue? (environment : Table String) (doc : Entries) (sectionName field : String) :
    Option Value :=
  ((fieldText? environment sectionName field).map .text).or
    (Entries.getText? (sectionTable doc sectionName) field)

/-- The section of an environment, if it gives any field. -/
def ownSection? (environment : Table String) (sectionName : String) : Option Value :=
  if (ownFields environment sectionName).isEmpty then none
  else some (.dict (ownFields environment sectionName))

/-- The fields that an environment gives go over those of a document. -/
theorem getText?_mergeDeep_ownFields (h : FieldVariables environment sectionName) (fuel : Nat)
    (fields : Entries) (field : String) :
    Entries.getText? (mergeDeep (fuel + 1) fields (ownFields environment sectionName)) field
      = ((fieldText? environment sectionName field).map .text).or
        (Entries.getText? fields field) := by
  rw [getText?_mergeDeep (distinct_ownFields h), getText?_ownFields h]
  cases fieldText? environment sectionName field with
  | none => rfl
  | some text => exact congrArg some (mergedValue_text fuel _ text)

theorem fieldText?_eq_none (h : FieldVariables environment sectionName)
    (hempty : (ownFields environment sectionName).isEmpty) (field : String) :
    fieldText? environment sectionName field = none := by
  have hnone := getText?_ownFields h field
  rw [List.isEmpty_iff.mp hempty] at hnone
  exact Option.map_eq_none_iff.mp hnone.symm

/-- In a section of the merged sources there is the value that decides a field. -/
theorem sectionTable_merged (h : FieldVariables environment sectionName)
    (hdoc : IsSection doc sectionName) {fuel : Nat} {merged : Entries}
    (hmerged : Entries.getText? merged sectionName =
      match ownSection? environment sectionName with
      | some v => some (mergedValue (fuel + 1) (Entries.getText? doc sectionName) v)
      | none => Entries.getText? doc sectionName) :
    IsSection merged sectionName ∧ ∀ field,
      Entries.getText? (sectionTable merged sectionName) field
        = decidingValue? environment doc sectionName field := by
  unfold ownSection? at hmerged
  by_cases hempty : (ownFields environment sectionName).isEmpty
  · -- The environment has no such section at all, so that of the document is left alone.
    rw [if_pos hempty] at hmerged
    refine ⟨fun v hv => hdoc v (hmerged.symm.trans hv), fun field => ?_⟩
    rw [decidingValue?, fieldText?_eq_none h hempty, sectionTable, hmerged]
    rfl
  · rw [if_neg hempty] at hmerged
    unfold IsSection sectionTable decidingValue? sectionTable
    cases hgiven : Entries.getText? doc sectionName with
    | none =>
        rw [hgiven] at hmerged
        rw [hmerged]
        refine ⟨fun v hv => ⟨_, (Option.some.inj hv).symm⟩, fun field => ?_⟩
        exact (getText?_ownFields h field).trans (Option.or_none).symm
    | some v =>
        -- Two tables of one name are merged, here on the second level.
        rcases hdoc v hgiven with ⟨fields, rfl⟩
        rw [hgiven] at hmerged
        rw [hmerged]
        refine ⟨fun v hv => ⟨_, (Option.some.inj hv).symm⟩, fun field => ?_⟩
        exact getText?_mergeDeep_ownFields h fuel fields field

end Sections

/-- The sections that there are, as entries. -/
def sectionEntries (server logging : Option Value) : Entries :=
  (server.map (Value.text serverSection, ·)).toList ++
    (logging.map (Value.text loggingSection, ·)).toList

theorem distinct_sectionEntries (server logging : Option Value) :
    Entries.Distinct (sectionEntries server logging) := by
  have hapart : (Value.text serverSection).same (.text loggingSection) = false := rfl
  cases server <;> cases logging <;>
    simp only [sectionEntries, Entries.Distinct, Option.map_none, Option.map_some,
      Option.toList_none, Option.toList_some, List.nil_append, List.append_nil,
      List.singleton_append, List.pairwise_cons, List.mem_singleton, forall_eq, hapart,
      List.not_mem_nil, false_implies, implies_true, List.Pairwise.nil, and_self]

theorem getText?_sectionEntries (server logging : Option Value) :
    Entries.getText? (sectionEntries server logging) serverSection = server ∧
      Entries.getText? (sectionEntries server logging) loggingSection = logging := by
  cases server <;> cases logging <;> exact ⟨rfl, rfl⟩

/-- The sections of an environment that gives them field by field. -/
theorem environmentSections_eq {environment : Table String}
    (hserver : FieldVariables environment serverSection)
    (hlogging : FieldVariables environment loggingSection) :
    environmentSections environment = .ok (sectionEntries
      (ownSection? environment serverSection) (ownSection? environment loggingSection)) := by
  unfold environmentSections
  rw [sectionOfEnvironment_eq hserver (by decide +kernel),
    sectionOfEnvironment_eq hlogging (by decide +kernel)]
  rfl

/-- A report of a field with the name of its section in front. -/
def FieldReport.within (sectionName : String) (report : FieldReport) : FieldReport :=
  { report with location := sectionName :: report.location }

/-- Settings in which every field is decided on its own, or the reports of all fields that
    cannot be. -/
inductive Settings.Decided (server : ServerField → Option Value)
    (logging : LoggingField → Option Value) : Except (List FieldReport) Settings → Prop
  | fit {s : Settings}
      (hserver : ∀ f, ServerConfig.fields.decide f (server f) = .ok (s.server.get f))
      (hlogging : ∀ f, LoggingConfig.fields.decide f (logging f) = .ok (s.logging.get f)) :
      Decided server logging (.ok s)
  | unfit (h : (∃ f fault, ServerConfig.fields.decide f (server f) = .error fault) ∨
        ∃ f fault, LoggingConfig.fields.decide f (logging f) = .error fault) :
      Decided server logging (.error
        ((ServerConfig.fields.faults server).map (FieldReport.within serverSection) ++
          (LoggingConfig.fields.faults logging).map (FieldReport.within loggingSection)))

/-- Two sections in which every field is decided on its own make settings of that kind. -/
theorem Settings.decided_of_sections {server : ServerField → Option Value}
    {logging : LoggingField → Option Value} {rs : Except (List FieldReport) ServerConfig}
    {rl : Except (List FieldReport) LoggingConfig} :
    ServerConfig.fields.Decided server rs → LoggingConfig.fields.Decided logging rl →
      Settings.Decided server logging (match rs, rl with
        | .ok server, .ok logging => .ok ⟨server, logging⟩
        | server, logging =>
          .error (reportsOf serverSection server ++ reportsOf loggingSection logging)) := by
  intro hs hl
  -- A section that is fit has no reports, so it adds none to those of the other.
  cases hs with
  | fit hserver =>
      cases hl with
      | fit hlogging => exact .fit hserver hlogging
      | unfit hlogging =>
          have hunfit := @Decided.unfit server logging (Or.inr ⟨_, _, hlogging⟩)
          rw [ServerConfig.fields.faults_eq_nil hserver] at hunfit
          exact hunfit
  | unfit hserver =>
      have hunfit := @Decided.unfit server logging (Or.inl ⟨_, _, hserver⟩)
      cases hl with
      | fit hlogging =>
          rw [LoggingConfig.fields.faults_eq_nil hlogging] at hunfit
          exact hunfit
      | unfit hlogging => exact hunfit

/-- Reading settings decides every field on its own. -/
theorem Settings.ofEntries_decided {es : Entries} (hserver : IsSection es serverSection)
    (hlogging : IsSection es loggingSection) :
    Settings.Decided (fun f => Entries.getText? (sectionTable es serverSection) f.name)
      (fun f => Entries.getText? (sectionTable es loggingSection) f.name)
      (Settings.ofEntries es) := by
  unfold Settings.ofEntries
  rw [readSection_eq hserver, readSection_eq hlogging]
  exact decided_of_sections (ServerConfig.fields.read_decided _)
    (LoggingConfig.fields.read_decided _)

/-- The sections of a document, if there are any, are tables. -/
structure HasSections (doc : Entries) : Prop where
  server : IsSection doc serverSection
  logging : IsSection doc loggingSection

/-- Settings from an environment that goes over a document have every field decided on its own,
    by the value that decides it. -/
theorem Settings.ofEntries_merged {environment : Table String} {doc : Entries}
    (hserver : FieldVariables environment serverSection)
    (hlogging : FieldVariables environment loggingSection) (hdoc : HasSections doc) :
    Settings.Decided (fun f => decidingValue? environment doc serverSection f.name)
      (fun f => decidingValue? environment doc loggingSection f.name)
      (Settings.ofEntries (mergeDeep mergeDepth doc (sectionEntries
        (ownSection? environment serverSection) (ownSection? environment loggingSection)))) := by
  have hmerged := getText?_mergeDeep (distinct_sectionEntries
    (ownSection? environment serverSection) (ownSection? environment loggingSection)) 999 doc
  have hfound := getText?_sectionEntries
    (ownSection? environment serverSection) (ownSection? environment loggingSection)
  rcases sectionTable_merged hserver hdoc.server ((hmerged _).trans (by rw [hfound.1])) with
    ⟨hs, hserverFields⟩
  rcases sectionTable_merged hlogging hdoc.logging ((hmerged _).trans (by rw [hfound.2])) with
    ⟨hl, hloggingFields⟩
  have hdecided := ofEntries_decided hs hl
  simp only [hserverFields, hloggingFields] at hdecided
  exact hdecided

end ServerLaunch
