import ServerLaunch.Proofs.Merging

/-!
# Sets in Store

Why the entries of a capability set can be taken for the set.

Elsewhere a set is its entries. But the entries are kept in a dictionary, a dictionary can be
changed, and whoever has the same one sees the change. Here every dictionary has a place. A set
is the place of a dictionary of its own, and callers hold other places: of dictionaries that
they wrote, and of copies of sets that they asked for. Making and merging sets are written out
with all the copies that they take, one change of one dictionary after the other.

The invariant is that the place of a set is none that callers hold. A deed of a caller then
either makes new dictionaries or changes one that belongs to no set, so a set reads the same for
good. `Store.view_perform` says more: the sets are what they were, and behind them come those
that `Capabilities.create` and `Capabilities.merge` give for what the parts read by then.

A dictionary is copied, and what it holds is not. An edit is therefore one of the dictionary
itself; what it does to a collection inside a dictionary is not looked at.

## Main definitions

* `Capabilities.Store`: Dictionaries, and whose they are.
* `Store.construct`, `Store.merge`: Making a set, with every copy.
* `Store.Deed`, `Store.perform`, `Store.run`: What callers do, once and again and again.
* `Store.Does`: What a deed comes to.
* `Store.view`: The sets as they read.
* `Store.Apart`: No set shares its dictionary.

## Theorems

* `Store.construct_eq`, `Store.merge_eq`: What making and merging come to.
* `Store.perform_apart`, `Store.view_perform`: What a deed keeps, and which sets there are after it.
* `Store.run_view_prefix`: A set that was made reads the same for good.
-/

namespace ServerLaunch

namespace Capabilities

/-- The dictionaries that were made, each known by its place, and which of the places are those
    of sets and which callers hold. -/
structure Store where
  dictionaries : List Entries
  sets : List Nat
  held : List Nat
deriving Inhabited, Repr

namespace Store

/-- Nothing was made yet. -/
def start : Store :=
  ⟨[], [], []⟩

/-- The place of the dictionary that is made next. -/
def next (s : Store) : Nat :=
  s.dictionaries.length

/-- What the dictionary at a place holds. -/
def read (s : Store) (place : Nat) : Entries :=
  s.dictionaries.getD place []

/-- What a mapping holds that may be left out. -/
def readGiven (s : Store) : Option Nat → Entries
  | some place => s.read place
  | none => []

/-- A new dictionary. -/
def alloc (s : Store) (es : Entries) : Store :=
  { s with dictionaries := s.dictionaries ++ [es] }

/-- A dictionary is changed. -/
def change (s : Store) (place : Nat) (f : Entries → Entries) : Store :=
  { s with dictionaries := s.dictionaries.modify place f }

/-- A dictionary takes the entries of a mapping, if it has any. -/
def take (s : Store) (place : Nat) (mapping : Option Nat) : Store :=
  if (s.readGiven mapping).isEmpty then s
  else s.change place fun es => Entries.update es (s.readGiven mapping)

/-- A new set. Its dictionary starts empty and takes the entries of a mapping, and then the
    named capabilities. -/
def construct (s : Store) (values : Option Nat) (named : Entries) : Store :=
  let filled := (s.alloc []).take s.next values
  let filled := filled.change s.next fun es => Entries.update es named
  { filled with sets := filled.sets ++ [s.next] }

/-- A new set with a mapping over one that there is. It is made from a copy of the dictionary of
    the set, in which the mapping was put. -/
def merge (s : Store) (set : Nat) (other : Option Nat) : Store :=
  ((s.alloc (s.read set)).take s.next other).construct (some s.next) []

/-- A new dictionary that a caller gets. -/
def hand (s : Store) (es : Entries) : Store :=
  { s.alloc es with held := s.held ++ [s.next] }

/-- A change that a caller makes to a dictionary. -/
inductive Edit where
  | put (key value : Value)
  | remove (key : Value)
  | clear

/-- What a change makes of a dictionary. -/
def Edit.apply : Edit → Entries → Entries
  | .put key value, es => Entries.insert es key value
  | .remove key, es => es.filter fun e => !e.1.same key
  | .clear, _ => []

/-- What callers do. Sets and dictionaries are given by their places. -/
inductive Deed where
  | write (pairs : List (Value × Value))
  | construct (values : Option Nat) (named : Entries)
  | merge (set : Nat) (other : Option Nat)
  | copy (set : Nat)
  | edit (place : Nat) (e : Edit)

/-- A mapping that a caller can give: none at all, a set, or a dictionary that a caller holds. -/
def Known (s : Store) (mapping : Option Nat) : Prop :=
  ∀ place ∈ mapping, place ∈ s.sets ∨ place ∈ s.held

instance (s : Store) (mapping : Option Nat) : Decidable (s.Known mapping) :=
  match mapping with
  | none => .isTrue fun _ h => nomatch h
  | some place => decidable_of_iff (place ∈ s.sets ∨ place ∈ s.held)
      ⟨fun h _ hplace => Option.some.inj hplace ▸ h, fun h => h place rfl⟩

/-- What is there after a deed. A deed for which something is missing does nothing. -/
def perform (s : Store) : Deed → Store
  | .write pairs => s.hand (Entries.ofPairs pairs)
  | .construct values named =>
    if s.Known values ∧ ¬ reservedNames.any fun name => Entries.has named (.text name) then
      s.construct values named
    else s
  | .merge set other => if set ∈ s.sets ∧ s.Known other then s.merge set other else s
  | .copy set => if set ∈ s.sets then s.hand (s.read set) else s
  | .edit place e => if place ∈ s.held then s.change place e.apply else s

/-- What is there after a number of deeds. -/
def run (deeds : List Deed) : Store :=
  deeds.foldl perform start

/-- A mapping as a value. -/
def value (s : Store) : Option Nat → Value
  | none => .null
  | some place => if place ∈ s.sets then .caps (s.read place) else .dict (s.read place)

/-- The sets that there are, in the order in which they were made. -/
def view (s : Store) : List Capabilities :=
  s.sets.map fun place => ⟨s.read place⟩

/-- The sets that a deed makes, if sets are taken for their entries. -/
def made (s : Store) : Deed → List Capabilities
  | .construct values named =>
    if s.Known values then (create (s.value values) named).toOption.toList else []
  | .merge set other =>
    if set ∈ s.sets ∧ s.Known other then
      [Capabilities.merge ⟨s.read set⟩ (s.readGiven other)]
    else []
  | _ => []

/-- No set shares its dictionary with a caller, and no dictionary of a set has a key twice. -/
structure Apart (s : Store) : Prop where
  placed : ∀ place ∈ s.sets, place < s.next
  known : ∀ place ∈ s.held, place < s.next
  apart : ∀ place ∈ s.sets, place ∉ s.held
  distinct : ∀ place ∈ s.sets, Entries.Distinct (s.read place)

variable {s : Store} {es : Entries}

section Dictionaries

/-! ## Single dictionaries -/

theorem read_alloc {place : Nat} (h : place < s.next) : (s.alloc es).read place = s.read place := by
  rw [read, read, List.getD_eq_getElem?_getD, List.getD_eq_getElem?_getD, alloc,
    List.getElem?_append_left h]

theorem read_alloc_next : (s.alloc es).read s.next = es := by
  rw [read, alloc, next, List.getD_eq_getElem?_getD, List.getElem?_concat_length, Option.getD_some]

theorem next_alloc : (s.alloc es).next = s.next + 1 :=
  List.length_append

theorem read_change_ne {place other : Nat} (h : other ≠ place) (f : Entries → Entries) :
    (s.change place f).read other = s.read other := by
  rw [read, read, List.getD_eq_getElem?_getD, List.getD_eq_getElem?_getD, change,
    List.getElem?_modify]
  simp only [if_neg h.symm, id_map']

/-- What was just made is changed in its place. -/
theorem change_alloc_next (f : Entries → Entries) :
    (s.alloc es).change s.next f = s.alloc (f es) := by
  have hlast : (s.dictionaries ++ [es]).modify s.dictionaries.length f
      = s.dictionaries ++ [f es] := by
    rw [List.modify_eq_set_getElem?, List.getElem?_concat_length]
    exact List.set_append_right _ _ (Nat.le_refl _) |>.trans (by rw [Nat.sub_self]; rfl)
  exact congrArg (fun dictionaries => { s with dictionaries }) hlast

theorem readGiven_alloc {mapping : Option Nat} (h : ∀ place ∈ mapping, place < s.next) :
    (s.alloc es).readGiven mapping = s.readGiven mapping := by
  cases mapping with
  | none => rfl
  | some place => exact read_alloc (h place rfl)

/-- What was just made takes a mapping that was there before. -/
theorem take_alloc_next {mapping : Option Nat} (h : ∀ place ∈ mapping, place < s.next) :
    (s.alloc es).take s.next mapping = s.alloc (Entries.update es (s.readGiven mapping)) := by
  unfold take
  rw [readGiven_alloc h]
  split
  · next hempty =>
      -- A mapping without entries is not put in, and would not have changed anything.
      rw [List.isEmpty_iff.mp hempty]
      rfl
  · exact change_alloc_next _

end Dictionaries

section Sets

/-! ## Making sets -/

/-- A new dictionary for a set. -/
def keep (s : Store) (es : Entries) : Store :=
  { s.alloc es with sets := s.sets ++ [s.next] }

/-- A set that is made holds a mapping with the named capabilities over it. -/
theorem construct_eq {values : Option Nat} (h : ∀ place ∈ values, place < s.next)
    (named : Entries) :
    s.construct values named
      = s.keep (Entries.update (Entries.ofPairs (s.readGiven values)) named) := by
  unfold construct
  simp only [take_alloc_next h, change_alloc_next]
  rfl

/-- Merging makes two dictionaries with the same entries, and only one of them is that of the
    new set. -/
theorem merge_eq {set : Nat} {other : Option Nat} (hset : Entries.Distinct (s.read set))
    (hother : ∀ place ∈ other, place < s.next) :
    s.merge set other
      = (s.alloc (Entries.update (s.read set) (s.readGiven other))).keep
          (Entries.update (s.read set) (s.readGiven other)) := by
  unfold merge
  rw [take_alloc_next hother, construct_eq fun place hplace => ?_]
  · -- The set is made from the copy, which has no key twice and so is taken as it is.
    rw [readGiven, read_alloc_next]
    exact congrArg _ (Entries.ofPairs_of_distinct (Entries.distinct_update hset _))
  · rw [← Option.some.inj hplace, next_alloc]
    exact Nat.lt_succ_self _

end Sets

section Deeds

/-! ## What a deed keeps -/

theorem Apart.start : Apart start :=
  ⟨fun _ h => absurd h List.not_mem_nil, fun _ h => absurd h List.not_mem_nil,
    fun _ h => absurd h List.not_mem_nil, fun _ h => absurd h List.not_mem_nil⟩

theorem Apart.lt_of_known {mapping : Option Nat} (h : Apart s) (hknown : s.Known mapping) :
    ∀ place ∈ mapping, place < s.next :=
  fun place hplace => (hknown place hplace).elim (h.placed place) (h.known place)

theorem Apart.alloc (h : Apart s) (es : Entries) : Apart (s.alloc es) := by
  refine ⟨fun place hp => ?_, fun place hp => ?_, h.apart, fun place hp => ?_⟩
  · exact next_alloc ▸ Nat.lt_succ_of_lt (h.placed place hp)
  · exact next_alloc ▸ Nat.lt_succ_of_lt (h.known place hp)
  · rw [read_alloc (h.placed place hp)]
    exact h.distinct place hp

/-- The place of a new set was nobody's. -/
theorem Apart.keep (h : Apart s) (hes : Entries.Distinct es) : Apart (s.keep es) := by
  have halloc := h.alloc es
  refine ⟨fun place hp => ?_, halloc.known, fun place hp => ?_, fun place hp => ?_⟩
  all_goals rcases List.mem_append.mp hp with hp | hp
  · exact halloc.placed place hp
  · rw [List.mem_singleton.mp hp]
    exact next_alloc ▸ Nat.lt_succ_self _
  · exact halloc.apart place hp
  · -- All places that callers hold come before the new one.
    rw [List.mem_singleton.mp hp]
    exact fun hheld => Nat.lt_irrefl _ (h.known _ hheld)
  · exact halloc.distinct place hp
  · rw [List.mem_singleton.mp hp]
    exact read_alloc_next.symm ▸ hes

/-- So was the place of a dictionary that a caller gets. -/
theorem Apart.hand (h : Apart s) (es : Entries) : Apart (s.hand es) := by
  have halloc := h.alloc es
  refine ⟨halloc.placed, fun place hp => ?_, fun place hp hheld => ?_, halloc.distinct⟩
  · rcases List.mem_append.mp hp with hp | hp
    · exact halloc.known place hp
    · rw [List.mem_singleton.mp hp]
      exact next_alloc ▸ Nat.lt_succ_self _
  · rcases List.mem_append.mp hheld with hheld | hheld
    · exact h.apart place hp hheld
    · exact Nat.lt_irrefl _ (List.mem_singleton.mp hheld ▸ h.placed place hp)

/-- Changing what a caller holds does not reach a set. -/
theorem read_change_held (h : Apart s) {place set : Nat} (hheld : place ∈ s.held)
    (hset : set ∈ s.sets) (f : Entries → Entries) : (s.change place f).read set = s.read set :=
  read_change_ne (fun heq : set = place => h.apart set hset (heq ▸ hheld)) f

theorem Apart.change (h : Apart s) {place : Nat} (hheld : place ∈ s.held)
    (f : Entries → Entries) : Apart (s.change place f) := by
  have hnext : (s.change place f).next = s.next := List.length_modify _ _ _
  refine ⟨fun set hp => hnext ▸ h.placed set hp, fun set hp => hnext ▸ h.known set hp, h.apart,
    fun set hp => ?_⟩
  rw [read_change_held h hheld hp]
  exact h.distinct set hp

/-- The sets read alike where each dictionary of one reads alike. -/
theorem view_congr {s' : Store} (hsets : s'.sets = s.sets)
    (hread : ∀ set ∈ s.sets, s'.read set = s.read set) : s'.view = s.view := by
  rw [view, view, hsets]
  exact List.map_congr_left fun set hset => congrArg Capabilities.mk (hread set hset)

theorem view_alloc (h : Apart s) (es : Entries) : (s.alloc es).view = s.view :=
  view_congr rfl fun set hset => read_alloc (h.placed set hset)

theorem view_hand (h : Apart s) (es : Entries) : (s.hand es).view = s.view :=
  view_alloc h es

theorem view_change (h : Apart s) {place : Nat} (hheld : place ∈ s.held)
    (f : Entries → Entries) : (s.change place f).view = s.view :=
  view_congr rfl fun _ hset => read_change_held h hheld hset f

theorem view_keep (h : Apart s) (es : Entries) : (s.keep es).view = s.view ++ [⟨es⟩] := by
  have hlast : (s.keep es).view
      = (s.alloc es).view ++ [⟨(s.alloc es).read s.next⟩] := List.map_append
  rw [hlast, view_alloc h, read_alloc_next]

/-- A mapping gives what it holds, as a set or as a dictionary. -/
theorem toPairs_value (s : Store) (mapping : Option Nat) :
    (s.value mapping).toPairs = .ok (s.readGiven mapping) := by
  cases mapping with
  | none => rfl
  | some place =>
      refine Value.toPairs_of_entries ?_
      rw [value]
      split
      · rfl
      · rfl

end Deeds

section Steps

/-! ## One deed -/

/-- What a deed comes to, with the sets that it makes: nothing, a dictionary for a caller, one
    for a set, perhaps beside another that nobody has, or a change of what a caller holds. -/
inductive Does (s : Store) : Deed → Store → List Capabilities → Prop
  | nothing (d : Deed) : Does s d s []
  | handed (d : Deed) (es : Entries) : Does s d (s.hand es) []
  | kept (d : Deed) {es : Entries} (hes : Entries.Distinct es) : Does s d (s.keep es) [⟨es⟩]
  | keptBeside (d : Deed) (fs : Entries) {es : Entries} (hes : Entries.Distinct es) :
      Does s d ((s.alloc fs).keep es) [⟨es⟩]
  | edited (e : Edit) {place : Nat} (hheld : place ∈ s.held) :
      Does s (.edit place e) (s.change place e.apply) []

theorem perform_does (h : Apart s) (d : Deed) : Does s d (s.perform d) (s.made d) := by
  cases d with
  | write pairs => exact .handed _ _
  | construct values named =>
      rw [perform, made]
      by_cases hknown : s.Known values
      · rw [if_pos hknown, create, toPairs_value]
        -- A name that cannot be that of a named capability is refused on either side.
        by_cases hnames : reservedNames.any fun name => Entries.has named (.text name)
        · rw [if_pos hnames, if_neg fun hdo => hdo.2 hnames]
          exact .nothing _
        · rw [if_neg hnames, if_pos ⟨hknown, hnames⟩, construct_eq (h.lt_of_known hknown)]
          exact .kept _ (Entries.distinct_update (Entries.distinct_ofPairs _) named)
      · rw [if_neg hknown, if_neg fun hdo => hknown hdo.1]
        exact .nothing _
  | merge set other =>
      rw [perform, made]
      by_cases hdo : set ∈ s.sets ∧ s.Known other
      · have hset := h.distinct set hdo.1
        rw [if_pos hdo, if_pos hdo, merge_eq hset (h.lt_of_known hdo.2)]
        exact .keptBeside _ _ (Entries.distinct_update hset _)
      · rw [if_neg hdo, if_neg hdo]
        exact .nothing _
  | copy set =>
      rw [perform]
      split
      · exact .handed _ _
      · exact .nothing _
  | edit place e =>
      rw [perform]
      split
      · next hheld => exact .edited e hheld
      · exact .nothing _

variable {d : Deed} {s' : Store} {cs : List Capabilities}

theorem Does.apart (h : Apart s) (hdoes : Does s d s' cs) : Apart s' := by
  cases hdoes with
  | nothing => exact h
  | handed _ es => exact h.hand es
  | kept _ hes => exact h.keep hes
  | keptBeside _ fs hes => exact (h.alloc fs).keep hes
  | edited e hheld => exact h.change hheld _

/-- After a deed the sets are what they were, with those behind them that it makes. -/
theorem Does.view (h : Apart s) (hdoes : Does s d s' cs) : s'.view = s.view ++ cs := by
  cases hdoes with
  | nothing => exact (List.append_nil _).symm
  | handed _ es => exact (view_hand h es).trans (List.append_nil _).symm
  | kept _ hes => exact view_keep h _
  | keptBeside _ fs hes => rw [view_keep (h.alloc fs), view_alloc h]
  | edited e hheld => exact (view_change h hheld _).trans (List.append_nil _).symm

/-- A dictionary that a caller holds is changed by an edit of it and by nothing else. -/
theorem Does.read_held (h : Apart s) (hdoes : Does s d s' cs) {place : Nat}
    (hheld : place ∈ s.held) (hd : ∀ e, d ≠ .edit place e) : s'.read place = s.read place := by
  have hplace := h.known place hheld
  cases hdoes with
  | nothing => rfl
  | handed _ es => exact read_alloc hplace
  | kept _ hes => exact read_alloc hplace
  | keptBeside _ fs hes =>
      -- Both dictionaries are behind the ones that there were.
      exact (read_alloc (next_alloc ▸ Nat.lt_succ_of_lt hplace)).trans (read_alloc hplace)
  | @edited e other _ =>
      have hne : place ≠ other := fun heq => hd e (by rw [heq])
      exact read_change_ne hne _

theorem perform_apart (h : Apart s) (d : Deed) : Apart (s.perform d) :=
  (perform_does h d).apart h

theorem view_perform (h : Apart s) (d : Deed) : (s.perform d).view = s.view ++ s.made d :=
  (perform_does h d).view h

end Steps

section Runs

/-! ## Any number of deeds -/

theorem foldl_perform_apart (h : Apart s) (deeds : List Deed) :
    Apart (deeds.foldl perform s) := by
  induction deeds generalizing s with
  | nil => exact h
  | cons d deeds ih => exact ih (perform_apart h d)

theorem run_apart (deeds : List Deed) : Apart (run deeds) :=
  foldl_perform_apart .start deeds

theorem run_concat (deeds : List Deed) (d : Deed) : run (deeds ++ [d]) = (run deeds).perform d :=
  List.foldl_concat _ _ _ _

theorem view_prefix_foldl (h : Apart s) (deeds : List Deed) :
    s.view <+: (deeds.foldl perform s).view := by
  induction deeds generalizing s with
  | nil => exact List.prefix_rfl
  | cons d deeds ih =>
      have hstep : s.view <+: (s.perform d).view := view_perform h d ▸ List.prefix_append _ _
      exact hstep.trans (ih (perform_apart h d))

/-- A set that was made reads the same for good, whatever is made, merged, copied and edited
    later on. -/
theorem run_view_prefix (deeds more : List Deed) :
    (run deeds).view <+: (run (deeds ++ more)).view := by
  rw [run, run, List.foldl_append]
  exact view_prefix_foldl (run_apart deeds) more

end Runs

end Store

end Capabilities

end ServerLaunch
