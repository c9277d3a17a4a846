import ServerLaunch.Config
import ServerLaunch.Proofs.Action

/-!
# Fields of a Section

A section is read field by field, each as if there were no others.

The fields are read one after the other into one and the same section, and a faulty one leaves
it as it was. The order makes no difference, though. Whether a value suits a field is the same
whatever the others hold, and no field changes another one. Both are known of each kind of
section and are part of `SectionFields`; the rest follows from them alone, and is the same for
the server's section and for the log's.

## Main definitions

* `SectionFields`: The fields of a kind of section.
* `SectionFields.decide`: What a value, or the lack of one, makes of a field.
* `SectionFields.faults`: The reports of faulty fields.
* `SectionFields.Decided`: A section in which every field is decided on its own.

## Theorems

* `SectionFields.readFields_spec`: What reading gives and reports.
* `SectionFields.read_decided`: Reading decides every field on its own.
-/

namespace ServerLaunch

theorem except_map_map {ε α β γ : Type} {f : α → β} {g : β → γ} {r : Except ε α} :
    (r.map f).map g = r.map fun x => g (f x) := by
  cases r <;> rfl

/-- The fields of a kind of section. A field takes a value whatever the others hold, and leaves
    the others alone. -/
structure SectionFields (φ σ : Type) where
  name : φ → String
  all : List φ
  set : σ → φ → Value → Except FieldFault σ
  get : σ → φ → Value
  default : σ
  nodup : all.Nodup
  complete : ∀ f, f ∈ all
  set_local : ∀ c c' f v, (set c f v).map (get · f) = (set c' f v).map (get · f)
  set_frame : ∀ {c c' f v}, set c f v = .ok c' → ∀ g, g ≠ f → get c' g = get c g

/-- The fields of the server's section. -/
def ServerConfig.fields : SectionFields ServerField ServerConfig where
  name := ServerField.name
  all := ServerField.all
  set := ServerConfig.set
  get := ServerConfig.get
  default := {}
  nodup := by decide
  complete f := by cases f <;> decide
  set_local c c' f v := by
    cases f <;> simp only [ServerConfig.set, except_map_map, ServerConfig.get]
  set_frame := by
    intro c c' f v h g hg
    cases f <;> rcases except_map_eq_ok.mp h with ⟨x, _, rfl⟩ <;> cases g <;>
      first | rfl | exact absurd rfl hg

/-- The fields of the log's section. -/
def LoggingConfig.fields : SectionFields LoggingField LoggingConfig where
  name := LoggingField.name
  all := LoggingField.all
  set := LoggingConfig.set
  get := LoggingConfig.get
  default := {}
  nodup := by decide
  complete f := by cases f <;> decide
  set_local c c' f v := by
    cases f <;> simp only [LoggingConfig.set, except_map_map, LoggingConfig.get]
  set_frame := by
    intro c c' f v h g hg
    cases f <;> rcases except_map_eq_ok.mp h with ⟨x, _, rfl⟩ <;> cases g <;>
      first | rfl | exact absurd rfl hg

namespace SectionFields

variable {φ σ : Type} (F : SectionFields φ σ)

/-- What a value makes of a field, or the lack of one: the field has its default then. -/
def decide (f : φ) : Option Value → Except FieldFault Value
  | some v => (F.set F.default f v).map (F.get · f)
  | none => .ok (F.get F.default f)

/-- The report of a field that cannot be decided. -/
def fault? (f : φ) (source : Option Value) : Option FieldReport :=
  match F.decide f source with
  | .ok _ => none
  | .error fault => some ⟨[F.name f], fault⟩

/-- The reports of all fields that cannot be decided, in the order of the fields. -/
def faults (sources : φ → Option Value) : List FieldReport :=
  F.all.filterMap fun f => F.fault? f (sources f)

/-- A section in which every field is decided on its own, or the reports of those that cannot
    be. -/
inductive Decided (sources : φ → Option Value) : Except (List FieldReport) σ → Prop
  | fit {c : σ} (h : ∀ f, F.decide f (sources f) = .ok (F.get c f)) : Decided sources (.ok c)
  | unfit {f : φ} {fault : FieldFault} (h : F.decide f (sources f) = .error fault) :
      Decided sources (.error (F.faults sources))

/-- Whatever the other fields hold, a given value makes the same of a field. -/
theorem decide_eq (c : σ) (f : φ) (v : Value) :
    F.decide f (some v) = (F.set c f v).map (F.get · f) :=
  F.set_local F.default c f v

/-- A field of its own name in the entries, or of none. -/
theorem givenField_cases (es : Entries) (c : σ) (f : φ) (hc : F.get c f = F.get F.default f) :
    (∃ c', givenField es (F.name f) (F.set c f) c = .ok c' ∧
      F.decide f (Entries.getText? es (F.name f)) = .ok (F.get c' f) ∧
      ∀ g, g ≠ f → F.get c' g = F.get c g) ∨
    ∃ fault, givenField es (F.name f) (F.set c f) c = .error fault ∧
      F.decide f (Entries.getText? es (F.name f)) = .error fault := by
  unfold givenField
  cases hgiven : Entries.getText? es (F.name f) with
  | none => exact Or.inl ⟨c, rfl, congrArg Except.ok hc.symm, fun _ _ => rfl⟩
  | some v =>
      rw [F.decide_eq c]
      cases hset : F.set c f v with
      | ok c' => exact Or.inl ⟨c', hset, rfl, F.set_frame hset⟩
      | error fault => exact Or.inr ⟨fault, hset, rfl⟩

/-- Reading fields that still have their defaults reports those that cannot be decided, decides
    the others, and leaves what it does not come to. -/
theorem readFields_spec (es : Entries) {fields : List φ} (hnodup : fields.Nodup) {c : σ}
    (hc : ∀ f ∈ fields, F.get c f = F.get F.default f) :
    (readFields F.name F.set es fields c).2
        = fields.filterMap (fun f => F.fault? f (Entries.getText? es (F.name f))) ∧
      (∀ f ∈ fields, ∀ v, F.decide f (Entries.getText? es (F.name f)) = .ok v →
        F.get (readFields F.name F.set es fields c).1 f = v) ∧
      ∀ f, f ∉ fields → F.get (readFields F.name F.set es fields c).1 f = F.get c f := by
  induction fields generalizing c with
  | nil => exact ⟨rfl, fun _ hf => absurd hf List.not_mem_nil, fun _ _ => rfl⟩
  | cons f fields ih =>
      rcases List.nodup_cons.mp hnodup with ⟨hnew, hnodup⟩
      rw [readFields, List.filterMap_cons, fault?]
      rcases F.givenField_cases es c f (hc f List.mem_cons_self) with
        ⟨c', hgiven, hdecide, hframe⟩ | ⟨fault, hgiven, hdecide⟩
      · -- The field is not among the others, so it keeps what it has taken.
        have hrest : ∀ g ∈ fields, F.get c' g = F.get F.default g := fun g hg =>
          (hframe g fun heq => hnew (heq ▸ hg)).trans (hc g (List.mem_cons_of_mem f hg))
        rcases ih hnodup hrest with ⟨hreports, htaken, hleft⟩
        rw [hgiven, hdecide]
        refine ⟨hreports, fun g hg v hv => ?_, fun g hg => ?_⟩
        · rcases List.mem_cons.mp hg with rfl | hg
          · rw [hdecide] at hv
            cases hv
            exact hleft g hnew
          · exact htaken g hg v hv
        · rcases not_or.mp (mt List.mem_cons.mpr hg) with ⟨hne, hg⟩
          exact (hleft g hg).trans (hframe g hne)
      · rcases ih hnodup fun g hg => hc g (List.mem_cons_of_mem f hg) with
          ⟨hreports, htaken, hleft⟩
        rw [hgiven, hdecide]
        refine ⟨congrArg _ hreports, fun g hg v hv => ?_, fun g hg => ?_⟩
        · rcases List.mem_cons.mp hg with rfl | hg
          · rw [hdecide] at hv
            cases hv
          · exact htaken g hg v hv
        · exact hleft g (mt (List.mem_cons_of_mem f) hg)

theorem fault?_of_error {f : φ} {source : Option Value} {fault : FieldFault}
    (h : F.decide f source = .error fault) : F.fault? f source = some ⟨[F.name f], fault⟩ := by
  rw [fault?, h]

/-- There are no reports of fields that are all decided. -/
theorem faults_eq_nil {sources : φ → Option Value} {values : φ → Value}
    (h : ∀ f, F.decide f (sources f) = .ok (values f)) : F.faults sources = [] := by
  refine List.filterMap_eq_nil_iff.mpr fun f _ => ?_
  rw [fault?, h f]

/-- Reading a section decides every field on its own. -/
theorem read_decided (es : Entries) :
    F.Decided (fun f => Entries.getText? es (F.name f))
      (unlessFaulty (readFields F.name F.set es F.all F.default)) := by
  rcases F.readFields_spec es F.nodup (fun f _ => rfl) with ⟨hreports, htaken, _⟩
  rcases hread : readFields F.name F.set es F.all F.default with ⟨c, reports⟩
  rw [hread] at hreports htaken
  cases reports with
  | nil =>
      refine .fit fun f => ?_
      cases hdecide : F.decide f (Entries.getText? es (F.name f)) with
      | ok v => rw [htaken f (F.complete f) v hdecide]
      | error fault =>
          -- The field would have been reported.
          have hnone := List.filterMap_eq_nil_iff.mp hreports.symm f (F.complete f)
          rw [F.fault?_of_error hdecide] at hnone
          cases hnone
  | cons report reports =>
      have hfaults : report :: reports = F.faults fun f => Entries.getText? es (F.name f) :=
        hreports
      have hmem : report ∈ F.faults fun f => Entries.getText? es (F.name f) := by
        rw [← hfaults]
        exact List.mem_cons_self
      rcases List.mem_filterMap.mp hmem with ⟨f, _, hf⟩
      cases hdecide : F.decide f (Entries.getText? es (F.name f)) with
      | ok v =>
          rw [fault?, hdecide] at hf
          cases hf
      | error fault =>
          change F.Decided _ (.error (report :: reports))
          rw [hfaults]
          exact .unfit hdecide

end SectionFields

end ServerLaunch
