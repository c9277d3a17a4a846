import ServerLaunch.Error
import ServerLaunch.Proofs.Merging

/-!
# A Context for Several Errors

What becomes of the context of a caller who builds one error after the other with it.

An error keeps the mapping that it is given, and puts its own details into it, unless the mapping
is empty: then it starts one of its own. So a caller who passes the same mapping again passes the
details of the errors before along with it, and what decides is whether the mapping was empty at
first. The next error has the details of all that came before, and a detail of its own takes the
place of an older one of the same name.

Nothing is left behind exactly if there is nothing to leave: the mapping is empty, or it has all
the details already, with the values that they are given.

## Main definitions

* `Report`: What an error is built from, besides a context.
* `Report.build`, `contextAfter`: One error, and the context of the caller after several.
* `leaked`: The details that several errors leave in a context.
* `Isolated`: Errors of which none has anything of another.

## Theorems

* `Entries.insert_eq_self_iff`, `Entries.update_eq_self_iff`: What changes nothing.
* `Details.named_entries`: The details of an error have different names.
* `Report.build_snd_eq_iff`: When a context is left as it was by one error.
* `contextAfter_eq`: What a context is after several errors.
* `contextAfter_isolated_iff`: What each of several errors has, and when it has nothing of another.
-/

namespace ServerLaunch

namespace Entries

@[simp] theorem update_nil (es : Entries) : update es [] = es := rfl

theorem update_cons (es : Entries) (e : Value × Value) (others : Entries) :
    update es (e :: others) = update (insert es e.1 e.2) others := rfl

theorem update_append (es others more : Entries) :
    update es (others ++ more) = update (update es others) more :=
  List.foldl_append

/-- Putting in an entry changes nothing exactly if it is there. -/
theorem insert_eq_self_iff (es : Entries) (key value : Value) :
    insert es key value = es ↔ get? es key = some value := by
  induction es with
  | nil => simp [insert, get?]
  | cons e rest ih =>
      obtain ⟨k, v⟩ := e
      cases h : k.same key with
      | true => simp [insert, get?, h, eq_comm]
      | false =>
          have hfound : get? ((k, v) :: rest) key = get? rest key := by
            simp only [get?, List.find?_cons, h]
          simp [insert, h, hfound, ih]

theorem insert_ne_nil (es : Entries) (key value : Value) : insert es key value ≠ [] := by
  cases es with
  | nil => exact List.cons_ne_nil _ _
  | cons e rest =>
      unfold insert
      split <;> exact List.cons_ne_nil _ _

theorem update_ne_nil {es : Entries} (h : es ≠ []) (others : Entries) : update es others ≠ [] := by
  induction others generalizing es with
  | nil => exact h
  | cons e others ih => exact ih (insert_ne_nil es e.1 e.2)

/-- The value of a name is found where the names are distinct. -/
theorem Named.getText?_of_mem {es : Entries} (h : Named es) {name : String} {value : Value}
    (hmem : (Value.text name, value) ∈ es) : getText? es name = some value := by
  induction es with
  | nil => cases hmem
  | cons e rest ih =>
      rw [getText?_cons]
      rcases List.mem_cons.mp hmem with rfl | hrest
      · rw [if_pos rfl]
      · have hfound := ih h.tail hrest
        by_cases hkey : e.1 = .text name
        · rw [getText?_eq_none_of_distinct h.distinct hkey] at hfound
          cases hfound
        · rw [if_neg hkey, hfound]

/-- Putting in named entries one after the other changes nothing exactly if all are there. -/
theorem update_eq_self_iff (es : Entries) {others : Entries} (h : Named others) :
    update es others = es ↔ ∀ e ∈ others, get? es e.1 = some e.2 := by
  constructor
  · intro hsame e he
    rcases h.texts e he with ⟨name, hname⟩
    have hmem : (Value.text name, e.2) ∈ others := hname ▸ he
    -- What was put in is found afterwards, which is before.
    have hfound : getText? (update es others) name = (getText? others name).or (getText? es name) :=
      getText?_update h.distinct name
    rw [hsame, h.getText?_of_mem hmem, Option.some_or] at hfound
    rw [hname]
    exact hfound
  · intro hall
    clear h
    induction others with
    | nil => rfl
    | cons e others ih =>
        have hfirst := (insert_eq_self_iff es e.1 e.2).mpr (hall e List.mem_cons_self)
        rw [update_cons, hfirst]
        exact ih fun e' he' => hall e' (List.mem_cons_of_mem _ he')

/-- Texts as keys, which are among given names and in their order. -/
def NamedAmong (names : List String) (es : Entries) : Prop :=
  ∃ found, List.Sublist found names ∧ keys es = found.map Value.text

namespace NamedAmong

variable {names others : List String} {es fs : Entries}

theorem none : NamedAmong names [] :=
  ⟨[], List.nil_sublist _, rfl⟩

theorem one (name : String) (value : Value) : NamedAmong [name] [(.text name, value)] :=
  ⟨[name], List.Sublist.refl _, rfl⟩

theorem append (hes : NamedAmong names es) (hfs : NamedAmong others fs) :
    NamedAmong (names ++ others) (es ++ fs) := by
  rcases hes with ⟨ns, hns, hes⟩
  rcases hfs with ⟨ms, hms, hfs⟩
  refine ⟨ns ++ ms, hns.append hms, ?_⟩
  rw [keys, List.map_append, List.map_append, ← hes, ← hfs]
  rfl

theorem named (h : NamedAmong names es) (hnames : names.Nodup) : Named es := by
  rcases h with ⟨found, hfound, hkeys⟩
  exact .of_keys hkeys (hnames.sublist hfound)

end NamedAmong

end Entries

namespace Details

/-- The names of the details that a kind has of its own. -/
def names : ErrorKind → List String
  | .invalidInstance => ["path"]
  | .invalidArgument => ["argument", "value"]
  | .startup => ["url", "exit_code"]
  | _ => []

theorem nodup_names (kind : ErrorKind) : (names kind).Nodup := by
  cases kind <;> decide

theorem unlessEmpty_among (name : String) (given : Option String) :
    Entries.NamedAmong [name] (unlessEmpty name given) := by
  cases given with
  | none => exact .none
  | some s =>
      cases hempty : s.toList.isEmpty with
      | true => simpa only [unlessEmpty, hempty] using .none
      | false => simpa only [unlessEmpty, hempty] using .one name _

theorem given_among {α : Type} (name : String) (given : Option α) (value : α → Value) :
    Entries.NamedAmong [name] (given.map fun a => (Value.text name, value a)).toList := by
  cases given with
  | none => exact .none
  | some a => exact .one name _

/-- The details of an error are among those of its kind, in their order. -/
theorem entries_among (d : Details) (kind : ErrorKind) :
    Entries.NamedAmong (names kind) (d.entries kind) := by
  cases kind with
  | invalidInstance => exact unlessEmpty_among _ _
  | invalidArgument => exact (unlessEmpty_among _ _).append (given_among _ _ _)
  | startup => exact (unlessEmpty_among _ _).append (given_among _ _ _)
  | launcher | config | service | notRunning => exact .none

theorem named_entries (d : Details) (kind : ErrorKind) : Entries.Named (d.entries kind) :=
  (d.entries_among kind).named (nodup_names kind)

end Details

namespace LaunchError

/-- What an error is built from, besides a context. -/
structure Report where
  kind : ErrorKind
  message : String
  details : Details
  cause : Option Cause
deriving Repr

namespace Report

/-- The details of a report as entries of a context. -/
def entries (r : Report) : Entries :=
  r.details.entries r.kind

theorem named_entries (r : Report) : Entries.Named r.entries :=
  r.details.named_entries r.kind

/-- The error of a report, and the context of the caller afterwards. -/
def build (r : Report) (given : Option Entries) : LaunchError × Option Entries :=
  LaunchError.build r.kind r.message r.details given r.cause

/-- Whatever the context is, the error has its items with the details put in. -/
theorem build_fst (r : Report) (given : Option Entries) :
    (r.build given).1 =
      ⟨r.kind, r.message, Entries.update (given.getD []) r.entries, r.cause⟩ := rfl

/-- A context without an item is left alone, -/
theorem build_snd_of_empty (r : Report) {given : Option Entries} (h : given.getD [] = []) :
    (r.build given).2 = given := by
  cases given with
  | none => rfl
  | some es =>
      obtain rfl : es = [] := h
      rfl

/-- and one with items gets the details too. -/
theorem build_snd_of_ne (r : Report) {es : Entries} (h : es ≠ []) :
    (r.build (some es)).2 = some (Entries.update es r.entries) := by
  cases es with
  | nil => exact absurd rfl h
  | cons e es => rfl

/-- A context is left as it was exactly if it is empty or has the details already. -/
theorem build_snd_eq_iff (r : Report) (given : Option Entries) :
    (r.build given).2 = given ↔ given.getD [] = [] ∨
      ∀ e ∈ r.entries, Entries.get? (given.getD []) e.1 = some e.2 := by
  by_cases h : given.getD [] = []
  · exact ⟨fun _ => .inl h, fun _ => r.build_snd_of_empty h⟩
  · cases given with
    | none => exact absurd rfl h
    | some es =>
        rw [Option.getD_some] at h ⊢
        rw [r.build_snd_of_ne h, Option.some.injEq, Entries.update_eq_self_iff _ r.named_entries]
        exact ⟨.inr, fun hor => hor.resolve_left h⟩

end Report

/-- The context of a caller after errors were built with it one after the other. -/
def contextAfter (given : Option Entries) (reports : List Report) : Option Entries :=
  reports.foldl (fun context r => (r.build context).2) given

/-- The details that errors leave in the context that they are built with. -/
def leaked (given : Option Entries) (reports : List Report) : Entries :=
  if given.getD [] = [] then [] else reports.flatMap Report.entries

/-- Each of several errors that are built with one context has the items of the caller with its own
    details alone, and leaves the context as the caller gave it. -/
def Isolated (given : Option Entries) (reports : List Report) : Prop :=
  ∀ before r, before ++ [r] <+: reports →
    (r.build (contextAfter given before)).1.context = Entries.update (given.getD []) r.entries ∧
      (r.build (contextAfter given before)).2 = given

theorem contextAfter_concat (given : Option Entries) (reports : List Report) (r : Report) :
    contextAfter given (reports ++ [r]) = (r.build (contextAfter given reports)).2 :=
  List.foldl_concat _ _ _ _

/-- A context without an item stays what it is, -/
theorem contextAfter_of_empty {given : Option Entries} (h : given.getD [] = [])
    (reports : List Report) : contextAfter given reports = given := by
  induction reports using List.reverseRecOn with
  | nil => rfl
  | append_singleton reports r ih =>
      rw [contextAfter_concat, ih]
      exact r.build_snd_of_empty h

/-- and one with items gets the details of all errors, each over those before it. -/
theorem contextAfter_of_ne {es : Entries} (h : es ≠ []) (reports : List Report) :
    contextAfter (some es) reports
      = some (Entries.update es (reports.flatMap Report.entries)) := by
  induction reports using List.reverseRecOn with
  | nil => rfl
  | append_singleton reports r ih =>
      -- What has an item once has one after every error, so it goes on being shared.
      rw [contextAfter_concat, ih, r.build_snd_of_ne (Entries.update_ne_nil h _),
        List.flatMap_append, List.flatMap_singleton, Entries.update_append]

theorem contextAfter_eq (given : Option Entries) (reports : List Report) :
    contextAfter given reports = given.map fun es => Entries.update es (leaked given reports) := by
  by_cases h : given.getD [] = []
  · rw [contextAfter_of_empty h, leaked, if_pos h]
    exact Option.map_id'.symm
  · cases given with
    | none => exact absurd rfl h
    | some es =>
        rw [leaked, if_neg h]
        exact contextAfter_of_ne h reports

/-- What a caller's context has after several errors. -/
theorem getD_contextAfter (given : Option Entries) (reports : List Report) :
    (contextAfter given reports).getD []
      = Entries.update (given.getD []) (leaked given reports) := by
  rw [contextAfter_eq]
  cases given with
  | none => simp [leaked]
  | some es => rfl

/-- A context that is empty, or that has the details of all errors already, stays what it is. -/
theorem contextAfter_eq_self {given : Option Entries} {reports : List Report}
    (h : given.getD [] = [] ∨ ∀ r ∈ reports, ∀ e ∈ r.entries,
      Entries.get? (given.getD []) e.1 = some e.2) : contextAfter given reports = given := by
  induction reports using List.reverseRecOn with
  | nil => rfl
  | append_singleton reports r ih =>
      have hbefore : contextAfter given reports = given :=
        ih (h.imp_right fun hall r' hr' => hall r' (List.mem_append_left _ hr'))
      rw [contextAfter_concat, hbefore, r.build_snd_eq_iff]
      exact h.imp_right fun hall => hall r (List.mem_append_right _ (List.mem_singleton_self r))

/-- No isolated error finds anything but the context that the caller gave. -/
theorem Isolated.contextAfter_eq {given : Option Entries} {reports before : List Report}
    (h : Isolated given reports) (hbefore : before <+: reports) :
    contextAfter given before = given := by
  rcases List.eq_nil_or_concat before with rfl | ⟨earlier, r, rfl⟩
  · rfl
  · rw [List.concat_eq_append] at hbefore ⊢
    rw [contextAfter_concat]
    exact (h earlier r hbefore).2

/-- Errors that are built one after the other with one context of a caller. The context gets the
    details of all of them unless it was empty, and each error has the items of the caller, what
    the errors before it left there, and its own details over that. So none has anything of
    another, and the context is left as it was, exactly if the context is empty or has all the
    details already. -/
theorem contextAfter_isolated_iff (given : Option Entries) (reports : List Report) :
    contextAfter given reports = given.map (fun es => Entries.update es (leaked given reports)) ∧
      (∀ r : Report, (r.build (contextAfter given reports)).1 =
        ⟨r.kind, r.message, Entries.update (given.getD []) (leaked given reports ++ r.entries),
          r.cause⟩) ∧
      (Isolated given reports ↔ given.getD [] = [] ∨ ∀ r ∈ reports, ∀ e ∈ r.entries,
        Entries.get? (given.getD []) e.1 = some e.2) := by
  refine ⟨contextAfter_eq given reports, fun r => ?_, fun hisolated => ?_, fun hhas => ?_⟩
  · rw [r.build_fst, getD_contextAfter, Entries.update_append]
  · by_cases hempty : given.getD [] = []
    · exact .inl hempty
    refine .inr fun r hr => ?_
    obtain ⟨before, later, rfl⟩ := List.append_of_mem hr
    have hbegins : before ++ [r] <+: before ++ r :: later := ⟨later, by simp⟩
    have hleft := (hisolated before r hbegins).2
    rw [hisolated.contextAfter_eq ⟨r :: later, rfl⟩, r.build_snd_eq_iff] at hleft
    exact hleft.resolve_left hempty
  · -- The condition on all reports is one on those before an error, and on its own.
    intro before r hbegins
    have hbefore : contextAfter given before = given :=
      contextAfter_eq_self (hhas.imp_right fun hall r' hr' =>
        hall r' (hbegins.subset (List.mem_append_left _ hr')))
    have hown := hhas.imp_right fun hall =>
      hall r (hbegins.subset (List.mem_append_right _ (List.mem_singleton_self r)))
    rw [hbefore]
    exact ⟨rfl, (r.build_snd_eq_iff given).mpr hown⟩

/-- The path of a broken installation stays in the context, and the error of a wrong argument that
    is built with it next has it too. -/
example :
    let given : Option Entries := some [(.text "npm", .text "/usr/bin/npm")]
    let broken : Report := ⟨.invalidInstance, "missing", { path := some "/a.js" }, none⟩
    let wrong : Report := ⟨.invalidArgument, "bad", { argument := some "--port" }, none⟩
    contextAfter given [broken]
        = some [(.text "npm", .text "/usr/bin/npm"), (.text "path", .text "/a.js")] ∧
      (wrong.build (contextAfter given [broken])).1.text
        = "bad (npm='/usr/bin/npm', path='/a.js', argument='--port')" := by
  exact ⟨by rfl, by rfl⟩

end LaunchError

end ServerLaunch
