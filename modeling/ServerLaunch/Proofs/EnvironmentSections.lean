import ServerLaunch.Proofs.Entries
import ServerLaunch.Proofs.LowerCase
import ServerLaunch.Proofs.Tables
import ServerLaunch.Settings.Environment

/-!
# Sections from Single Variables

What an environment gives for a section whose fields are given one by one.

A variable may give a whole section or lead into a table inside a field. Without such
variables a section of the environment is a plain table: under the name of a field there is
the text of the variable that is named after the field, and where two variables have this
name, the text of the later one. Nothing else in the environment matters to the field. That a
name is put in lower case when it is read and compared in lower case once more makes no
difference, for by then there are no capitals left that could become the name of a field.

## Main definitions

* `fieldVariable`: The name, in lower case, of the variable that gives a field.
* `FieldVariables`: The fields of a section are given one by one.
* `fieldText?`: The text that the environment gives for a field.
* `ownFields`: The fields that an environment gives, as a table.

## Theorems

* `nestedFields_induction`: Fields are put in one after the other.
* `getText?_ownFields`: What is found under the name of a field.
* `fieldNames_of_isFieldKey`: The names are those of the fields already.
* `sectionOfEnvironment_eq`: The section of the environment.
-/

namespace ServerLaunch

open Text

/-- The name, in lower case, of the variable that gives a field of a section. -/
def fieldVariable (sectionName field : String) : String :=
  settingsVariable ++ sectionName ++ "__" ++ field

/-- The fields of a section are given one by one: no variable gives the section as a whole, and
    none leads into a table inside a field. -/
structure FieldVariables (environment : Table String) (sectionName : String) : Prop where
  apart : ∀ e ∈ environment, lower e.1 ≠ settingsVariable ++ sectionName
  flat : ∀ e ∈ environment, ∀ field, lower e.1 = fieldVariable sectionName field →
    ¬ ['_', '_'] <:+: field.toList

/-- The text that the environment gives for a field, the letter case of names aside. -/
def fieldText? (environment : Table String) (sectionName field : String) : Option String :=
  Table.lastValue? (environment.map fun e => (lower e.1, e.2)) (fieldVariable sectionName field)

/-- A name without two underscores in a row is not cut. -/
theorem splitNested_of_flat {cs : List Char} (h : ¬ ['_', '_'] <:+: cs) :
    splitNested cs = [cs] := by
  induction cs with
  | nil => rfl
  | cons c rest ih =>
      have hrest : ¬ ['_', '_'] <:+: rest :=
        fun hin => h (hin.trans (List.suffix_cons c rest).isInfix)
      have hpair : ∀ tail, c = '_' → rest ≠ '_' :: tail := by
        rintro tail rfl rfl
        exact h (List.prefix_append ['_', '_'] tail).isInfix
      rw [splitNested, ih hrest]
      exact hpair

/-- The name of a variable begins with that of its section. -/
theorem fieldVariable_prefix (sectionName field : String) :
    (settingsVariable ++ sectionName ++ "__").toList
      <+: (fieldVariable sectionName field).toList := by
  rw [fieldVariable, @String.toList_append _ field]
  exact List.prefix_append _ _

theorem namesBehind_append {start field : String} (h : ¬ ['_', '_'] <:+: field.toList) :
    namesBehind start (start ++ field) = some [field] := by
  have hprefix : start.toList.isPrefixOf (start ++ field).toList := by
    rw [String.toList_append]
    exact List.isPrefixOf_iff_prefix.mpr (List.prefix_append _ _)
  have hdrop : (start ++ field).toList.drop start.length = field.toList := by
    rw [String.toList_append, ← String.length_toList, List.drop_left]
  rw [namesBehind, if_pos hprefix, hdrop, splitNested_of_flat h, List.map_singleton,
    String.ofList_toList]

/-- A name with a beginning goes on behind it. -/
theorem exists_append_of_namesBehind {start name : String} {names : List String}
    (h : namesBehind start name = some names) : ∃ field, name = start ++ field := by
  unfold namesBehind at h
  split at h
  · next hprefix =>
      rcases List.isPrefixOf_iff_prefix.mp hprefix with ⟨rest, hrest⟩
      refine ⟨String.ofList rest, String.toList_inj.mp ?_⟩
      rw [String.toList_append, String.toList_ofList, hrest]
  · cases h

section Fields

variable {sectionName : String}

/-- No name leads into a table inside a field. -/
def FlatNames (table : Table String) (sectionName : String) : Prop :=
  ∀ e ∈ table, ∀ field, e.1 = fieldVariable sectionName field → ¬ ['_', '_'] <:+: field.toList

/-- What one variable puts into a section. -/
def putVariable (sectionName : String) (es : Entries) (e : String × String) : Entries :=
  match namesBehind (settingsVariable ++ sectionName ++ "__") e.1 with
  | some names => putNested e.2 names es
  | none => es

theorem nestedFields_eq_foldl (table : Table String) (sectionName : String) :
    nestedFields table sectionName = table.foldl (putVariable sectionName) [] := rfl

/-- A variable puts its field in, or it has nothing to do with the section. -/
theorem putVariable_cases {e : String × String} (hflat : FlatNames [e] sectionName)
    (es : Entries) :
    (∃ field, e.1 = fieldVariable sectionName field ∧
      putVariable sectionName es e = Entries.insert es (.text field) (.text e.2)) ∨
    (∀ field, e.1 ≠ fieldVariable sectionName field) ∧ putVariable sectionName es e = es := by
  unfold putVariable
  by_cases hfield : ∃ field, e.1 = fieldVariable sectionName field
  · rcases hfield with ⟨field, hname⟩
    refine Or.inl ⟨field, hname, ?_⟩
    rw [hname, fieldVariable,
      namesBehind_append (hflat e List.mem_cons_self field hname)]
    rfl
  · refine Or.inr ⟨fun field hname => hfield ⟨field, hname⟩, ?_⟩
    cases hnames : namesBehind (settingsVariable ++ sectionName ++ "__") e.1 with
    | none => rfl
    | some names => exact absurd (exists_append_of_namesBehind hnames) hfield

/-- Fields are put in one after the other, each from a variable that is named after it. -/
theorem nestedFields_induction {P : Entries → Prop} {table : Table String}
    (hflat : FlatNames table sectionName) (hnil : P [])
    (hinsert : ∀ es field text, fieldVariable sectionName field ∈ table.map Prod.fst → P es →
      P (Entries.insert es (.text field) (.text text))) : P (nestedFields table sectionName) := by
  rw [nestedFields_eq_foldl]
  -- What is built up so far takes the place of the empty table.
  revert hnil
  generalize ([] : Entries) = es
  intro hes
  induction table generalizing es with
  | nil => exact hes
  | cons e rest ih =>
      have hrest : FlatNames rest sectionName := fun e' he' =>
        hflat e' (List.mem_cons_of_mem e he')
      have hone : FlatNames [e] sectionName := fun e' he' =>
        hflat e' (by rw [List.mem_singleton.mp he']; exact List.mem_cons_self)
      refine ih hrest (fun es field text hmem => hinsert es field text ?_) _ ?_
      · exact List.mem_cons_of_mem _ hmem
      · rcases putVariable_cases hone es with ⟨field, hname, hput⟩ | ⟨_, hput⟩
        · rw [hput]
          exact hinsert es field e.2 (by rw [List.map_cons, hname]; exact List.mem_cons_self) hes
        · rw [hput]
          exact hes

/-- The variables of two fields have different names. -/
theorem fieldVariable_inj {field field' : String} :
    fieldVariable sectionName field = fieldVariable sectionName field' ↔ field = field' := by
  simp only [fieldVariable, ← String.toList_inj, String.toList_append, List.append_cancel_left_eq]

/-- Under the name of a field there is the text of the variable that is named after it. -/
theorem getText?_nestedFields {table : Table String} (hflat : FlatNames table sectionName)
    (hnodup : (table.map Prod.fst).Nodup) (field : String) :
    Entries.getText? (nestedFields table sectionName) field
      = (table.lookup (fieldVariable sectionName field)).map .text := by
  -- What was there before counts only where no variable of the table has the name.
  have hfrom (es : Entries) : Entries.getText? (table.foldl (putVariable sectionName) es) field
      = ((table.lookup (fieldVariable sectionName field)).map .text).or
        (Entries.getText? es field) := by
    induction table generalizing es with
    | nil => rfl
    | cons e rest ih =>
        have hrest : FlatNames rest sectionName := fun e' he' =>
          hflat e' (List.mem_cons_of_mem e he')
        have hone : FlatNames [e] sectionName := fun e' he' =>
          hflat e' (by rw [List.mem_singleton.mp he']; exact List.mem_cons_self)
        rcases List.nodup_cons.mp hnodup with ⟨hnew, hnodup⟩
        rw [List.foldl_cons, ih hrest hnodup, List.lookup_cons]
        rcases putVariable_cases hone es with ⟨field', hname, hput⟩ | ⟨hother, hput⟩
        · rw [hput, Entries.getText?_insert]
          by_cases hsame : field' = field
          · -- No later variable has the name, for no name is there twice.
            have hnone : rest.lookup (fieldVariable sectionName field) = none := by
              rw [List.lookup_eq_none_iff, ← hsame, ← hname]
              intro p hp
              exact bne_iff_ne.mpr fun heq => hnew (heq ▸ List.mem_map_of_mem hp)
            rw [if_pos (congrArg Value.text hsame), hnone, hname, hsame, beq_self_eq_true]
            rfl
          · have hkey : ¬ Value.text field' = .text field := by
              rw [Value.text.injEq]
              exact hsame
            have hne : (fieldVariable sectionName field == e.1) = false := by
              rw [hname, beq_eq_false_iff_ne]
              exact fun h => hsame (fieldVariable_inj.mp h).symm
            rw [if_neg hkey, hne]
        · have hne : (fieldVariable sectionName field == e.1) = false :=
            beq_eq_false_iff_ne.mpr (hother field).symm
          rw [hput, hne]
  rw [nestedFields_eq_foldl, hfrom]
  exact Option.or_none

/-- The entry of a field that is given on its own: the name has no capitals of ASCII letters. -/
def IsFieldKey (key : Value) : Prop :=
  ∃ field, key = .text field ∧ ∀ c ∈ field.toList, isAsciiCapital c = false

theorem isFieldKey_of_mem_nestedFields {table : Table String}
    (hflat : FlatNames table sectionName)
    (hlower : ∀ name ∈ table.map Prod.fst, ∀ c ∈ name.toList, isAsciiCapital c = false) :
    ∀ e ∈ nestedFields table sectionName, IsFieldKey e.1 ∧ ∃ text, e.2 = .text text := by
  refine nestedFields_induction
    (P := fun es => ∀ e ∈ es, IsFieldKey e.1 ∧ ∃ text, e.2 = .text text) hflat
    (fun e he => absurd he List.not_mem_nil) ?_
  intro es field text hmem hes
  refine Entries.forall_insert (P := IsFieldKey) (Q := fun v => ∃ text, v = .text text) hes
    ⟨field, rfl, fun c hc => hlower _ hmem c ?_⟩ ⟨text, rfl⟩
  rw [fieldVariable, String.toList_append]
  exact List.mem_append_right _ hc

/-- No field is there twice. -/
theorem distinct_nestedFields {table : Table String} (hflat : FlatNames table sectionName) :
    Entries.Distinct (nestedFields table sectionName) :=
  nestedFields_induction hflat List.Pairwise.nil fun _ _ _ _ hes => Entries.distinct_insert hes _ _

/-- The name of a field as the section has it. -/
def sectionKey (fields : List String) (key : Value) : Value :=
  match key with
  | .text name =>
    match fields.find? fun field => lower field == lower name with
    | some field => .text field
    | none => key
  | key => key

theorem fieldNames_eq_foldl (fields : List String) (es : Entries) :
    fieldNames fields es
      = es.foldl (fun done e => Entries.insert done (sectionKey fields e.1) e.2) [] := rfl

/-- A name that is one of the fields in lower case is that field already. -/
theorem sectionKey_of_isFieldKey {fields : List String}
    (hfields : ∀ field ∈ fields, isLowerAscii field)
    {key : Value} (hkey : IsFieldKey key) : sectionKey fields key = key := by
  rcases hkey with ⟨name, rfl, hname⟩
  unfold sectionKey
  dsimp only
  split
  · next field hfind =>
      have hsame : lower field = lower name := by
        simpa only [beq_iff_eq] using List.find?_some hfind
      have hascii := hfields field (List.mem_of_find?_eq_some hfind)
      rw [lower_of_isLowerAscii hascii] at hsame
      rw [eq_of_lower_eq hname hascii hsame.symm]
  · rfl

theorem fieldNames_of_isFieldKey {fields : List String}
    (hfields : ∀ field ∈ fields, isLowerAscii field)
    {es : Entries} (hes : ∀ e ∈ es, IsFieldKey e.1) (hdistinct : Entries.Distinct es) :
    fieldNames fields es = es := by
  have hkeys (done : Entries) (e : Value × Value) (he : e ∈ es) :
      Entries.insert done (sectionKey fields e.1) e.2 = Entries.insert done e.1 e.2 := by
    rw [sectionKey_of_isFieldKey hfields (hes e he)]
  rw [fieldNames_eq_foldl, List.foldl_ext _ _ _ hkeys]
  exact Entries.ofPairs_of_distinct hdistinct

end Fields

section Environment

variable {environment : Table String} {sectionName : String}

theorem lookup_lowerNames (environment : Table String) (name : String) :
    (lowerNames environment).lookup name
      = Table.lastValue? (environment.map fun e => (lower e.1, e.2)) name :=
  Table.lookup_ofPairs _ _

/-- The names are the names of the environment in lower case. -/
theorem exists_of_mem_lowerNames {name : String}
    (h : name ∈ (lowerNames environment).map Prod.fst) : ∃ e ∈ environment, lower e.1 = name := by
  rw [lowerNames, Table.names_ofPairs, List.mem_eraseDups, List.map_map] at h
  exact List.mem_map.mp h

theorem FieldVariables.flatNames (h : FieldVariables environment sectionName) :
    FlatNames (lowerNames environment) sectionName := by
  intro e he field hname
  rcases exists_of_mem_lowerNames (List.mem_map_of_mem he) with ⟨e', he', hlower⟩
  exact h.flat e' he' field (hlower.trans hname)

/-- The fields that the variables of an environment give. -/
def ownFields (environment : Table String) (sectionName : String) : Entries :=
  nestedFields (lowerNames environment) sectionName

theorem getText?_ownFields (h : FieldVariables environment sectionName) (field : String) :
    Entries.getText? (ownFields environment sectionName) field
      = (fieldText? environment sectionName field).map .text := by
  rw [ownFields, getText?_nestedFields h.flatNames (Table.nodup_ofPairs _), lookup_lowerNames]
  rfl

/-- A field that is given on its own has a name without capitals, and a text. -/
theorem isFieldKey_of_mem_ownFields (h : FieldVariables environment sectionName) :
    ∀ e ∈ ownFields environment sectionName, IsFieldKey e.1 ∧ ∃ text, e.2 = .text text := by
  refine isFieldKey_of_mem_nestedFields h.flatNames fun name hname c hc => ?_
  rcases exists_of_mem_lowerNames hname with ⟨e, _, hlower⟩
  rw [← hlower] at hc
  exact not_isAsciiCapital_of_mem_lower hc

theorem distinct_ownFields (h : FieldVariables environment sectionName) :
    Entries.Distinct (ownFields environment sectionName) :=
  distinct_nestedFields h.flatNames

/-- The section of an environment whose variables give it field by field. -/
theorem sectionOfEnvironment_eq (h : FieldVariables environment sectionName)
    {fields : List String}
    (hfields : ∀ field ∈ fields, isLowerAscii field) :
    sectionOfEnvironment environment sectionName fields =
      .ok (if (ownFields environment sectionName).isEmpty then none
        else some (.dict (ownFields environment sectionName))) := by
  have hwhole : (lowerNames environment).lookup (settingsVariable ++ sectionName) = none := by
    rw [List.lookup_eq_none_iff]
    intro p hp
    rcases exists_of_mem_lowerNames (List.mem_map_of_mem hp) with ⟨e, he, hlower⟩
    exact bne_iff_ne.mpr fun heq => h.apart e he (hlower.trans heq.symm)
  have hnames := fieldNames_of_isFieldKey hfields
    (fun e he => (isFieldKey_of_mem_ownFields h e he).1) (distinct_ownFields h)
  unfold ownFields at hnames ⊢
  simp only [sectionOfEnvironment, hwhole, hnames]

end Environment

end ServerLaunch
