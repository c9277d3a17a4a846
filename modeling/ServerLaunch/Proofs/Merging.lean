import ServerLaunch.Capabilities
import ServerLaunch.Proofs.Entries
import ServerLaunch.Proofs.Tables

/-!
# Merged Mappings

What comes of merging one mapping over another.

Merging puts in the entries of the second mapping one after the other. A name that is there
keeps its place and takes the new value; a name that is new goes to the end. So the names are
those of the first with the new ones of the second behind them, and what is found under a name
is what the second has there, or else what the first has.

These two facts say everything: a mapping with texts as keys, none of them twice, is known by
the order of its names and by what is found under each. That merging is associative is read
off them, for it does not matter in which order one asks three mappings for a value, nor in
which order names are left out that came before.

## Main definitions

* `Entries.Named`: Texts as keys, none of them twice.
* `Capabilities.Merges`: What is in a set that was made from two.

## Theorems

* `Entries.keys_update`, `Entries.getText?_update`: The names, and what is found.
* `Entries.Named.ext`: Names and values make a mapping.
* `Entries.Named.update_assoc`: Merging is associative.
* `Capabilities.merge_merges`: What merging gives.
-/

namespace ServerLaunch

namespace Entries

/-- A mapping with texts as keys, none of them twice. -/
structure Named (es : Entries) : Prop where
  distinct : Distinct es
  texts : ∀ e ∈ es, ∃ name, e.1 = .text name

/-- A list of names without repetition makes the keys of such a mapping. -/
theorem Named.of_keys {es : Entries} {names : List String} (hkeys : keys es = names.map .text)
    (hnames : names.Nodup) : Named es := by
  refine ⟨?_, fun e he => ?_⟩
  · rw [distinct_iff_keys, hkeys, List.pairwise_map]
    exact hnames.imp fun hne => beq_eq_false_iff_ne.mpr hne
  · have hmem : e.1 ∈ names.map Value.text := hkeys ▸ List.mem_map_of_mem he
    rcases List.mem_map.mp hmem with ⟨name, _, hname⟩
    exact ⟨name, hname.symm⟩

theorem Named.tail {e : Value × Value} {es : Entries} (h : Named (e :: es)) : Named es :=
  ⟨(List.pairwise_cons.mp h.distinct).2, fun f hf => h.texts f (List.mem_cons_of_mem _ hf)⟩

/-- What is put in one after the other keeps names distinct, and adds no other keys. -/
theorem Named.update {es others : Entries} (hes : Named es) (hothers : Named others) :
    Named (update es others) := by
  refine ⟨distinct_update hes.distinct others, fun e he => ?_⟩
  have hforall := forall_update (P := fun k => ∃ name, k = .text name) (Q := fun _ => True)
    (fun e he => ⟨hes.texts e he, trivial⟩) (fun e he => ⟨hothers.texts e he, trivial⟩)
  exact (hforall e he).1

theorem Named.key_mem {es : Entries} (h : Named es) {key : Value} (hkey : key ∈ keys es) :
    ∃ name, key = .text name := by
  rcases List.mem_map.mp hkey with ⟨e, he, rfl⟩
  exact h.texts e he

/-- A mapping with names is known by the order of its names and by what is found under each. -/
theorem Named.ext {es fs : Entries} (hes : Named es) (hfs : Named fs) (hkeys : keys es = keys fs)
    (hfound : ∀ name, getText? es name = getText? fs name) : es = fs := by
  induction es generalizing fs with
  | nil => exact (List.map_eq_nil_iff.mp hkeys.symm).symm
  | cons e es ih =>
      cases fs with
      | nil => exact absurd hkeys (List.cons_ne_nil _ _)
      | cons f fs =>
          rcases List.cons.inj hkeys with ⟨hkey, hrest⟩
          rcases hes.texts e List.mem_cons_self with ⟨first, hfirst⟩
          -- The first name is found at once on both sides, so the first entries are one.
          have hvalue := hfound first
          rw [getText?_cons, if_pos hfirst, getText?_cons, if_pos (hkey.symm.trans hfirst)]
            at hvalue
          have hentry : e = f := Prod.ext hkey (Option.some.inj hvalue)
          rw [hentry, ih hes.tail hfs.tail hrest fun name => ?_]
          by_cases hname : e.1 = .text name
          · rw [getText?_eq_none_of_distinct hes.distinct hname,
              getText?_eq_none_of_distinct hfs.distinct (hkey.symm.trans hname)]
          · have hsame := hfound name
            rw [getText?_cons, if_neg hname, getText?_cons, if_neg (hkey ▸ hname)] at hsame
            exact hsame

/-- Whether a key is there can be told from the keys. -/
theorem has_eq_any_keys (es : Entries) (key : Value) :
    has es key = (keys es).any fun k => k.same key := by
  rw [keys, List.any_map]
  rfl

theorem has_text (es : Entries) (name : String) :
    has es (.text name) = (getText? es name).isSome := by
  rw [getText?, get?, Option.isSome_map, has, Bool.eq_iff_iff, List.any_eq_true, List.find?_isSome]

/-- After an insertion another key is there if it was there before. -/
theorem has_insert_of_not_same {key other : Value} (h : key.same other = false) (es : Entries)
    (value : Value) : has (insert es key value) other = has es other := by
  rw [has_eq_any_keys, has_eq_any_keys, keys_insert]
  split
  · rfl
  · rw [List.any_append, List.any_cons, h, List.any_nil, Bool.or_false, Bool.or_false]

/-- The keys are those that were there, with the new ones behind them. -/
theorem keys_update {es others : Entries} (h : Distinct others) :
    keys (update es others) = keys es ++ (keys others).filter fun key => !has es key := by
  induction others generalizing es with
  | nil => exact (List.append_nil _).symm
  | cons e others ih =>
      rcases List.pairwise_cons.mp h with ⟨hfirst, hrest⟩
      have hstep : update es (e :: others) = update (insert es e.1 e.2) others := rfl
      have hcons : keys (e :: others) = e.1 :: keys others := rfl
      -- None of the keys that are left is the one that was just put in.
      have hleft : (keys others).filter (fun key => !has (insert es e.1 e.2) key)
          = (keys others).filter fun key => !has es key := by
        refine List.filter_congr fun key hkey => ?_
        rcases List.mem_map.mp hkey with ⟨f, hf, rfl⟩
        rw [has_insert_of_not_same (hfirst f hf)]
      rw [hstep, ih hrest, hleft, hcons, keys_insert]
      cases hhas : has es e.1 with
      | true => rw [if_pos rfl, List.filter_cons_of_neg (by rw [hhas]; exact Bool.false_ne_true)]
      | false =>
          rw [if_neg Bool.false_ne_true, List.filter_cons_of_pos (by rw [hhas]; rfl),
            List.append_assoc, List.singleton_append]

/-- What is found is what was put in, or else what was there. -/
theorem getText?_update {es others : Entries} (h : Distinct others) (name : String) :
    getText? (update es others) name = (getText? others name).or (getText? es name) := by
  induction others generalizing es with
  | nil => rfl
  | cons e others ih =>
      have hstep : update es (e :: others) = update (insert es e.1 e.2) others := rfl
      rw [hstep, ih (List.pairwise_cons.mp h).2, getText?_insert, getText?_cons]
      by_cases hkey : e.1 = .text name
      · rw [if_pos hkey, if_pos hkey, getText?_eq_none_of_distinct h hkey, Option.none_or,
          Option.some_or]
      · rw [if_neg hkey, if_neg hkey]

theorem has_update_text {es others : Entries} (h : Distinct others) (name : String) :
    has (update es others) (.text name) = (has es (.text name) || has others (.text name)) := by
  rw [has_text, getText?_update h, Option.isSome_or, has_text, has_text, Bool.or_comm]

/-- Merging three mappings comes to the same in whatever order it is done. -/
theorem Named.update_assoc {es fs gs : Entries} (hes : Named es) (hfs : Named fs)
    (hgs : Named gs) :
    Entries.update (Entries.update es fs) gs = Entries.update es (Entries.update fs gs) := by
  have hlast : Distinct (Entries.update fs gs) := distinct_update hfs.distinct gs
  refine ((hes.update hfs).update hgs).ext (hes.update (hfs.update hgs)) ?_ fun name => ?_
  · rw [keys_update hgs.distinct, keys_update hfs.distinct, keys_update hlast,
      keys_update hgs.distinct, List.filter_append, List.filter_filter, List.append_assoc]
    -- A name of the third is left out if it is in the first or the second.
    refine congrArg _ (congrArg _ (List.filter_congr fun key hkey => ?_))
    rcases hgs.key_mem hkey with ⟨name, rfl⟩
    rw [has_update_text hfs.distinct, Bool.not_or]
  · rw [getText?_update hgs.distinct, getText?_update hfs.distinct, getText?_update hlast,
      getText?_update hgs.distinct, Option.or_assoc]

end Entries

namespace Capabilities

/-- What is in a set that was made from two, the second over the first: the names of the first
    in their order and then the new ones of the second in theirs, no name twice, and under each
    name the value of the second if it has the name, and that of the first if it has not. -/
structure Merges (a b c : Capabilities) : Prop where
  names : Entries.keys c.entries
    = Entries.keys a.entries ++ (Entries.keys b.entries).filter fun name => !a.has name
  named : Entries.Named c.entries
  values : ∀ name, c.get? (.text name) = (b.get? (.text name)).or (a.get? (.text name))

variable {a b c : Capabilities}

/-- What merging gives. -/
theorem merge_merges (ha : Entries.Named a.entries) (hb : Entries.Named b.entries) :
    Merges a b (a.merge b.entries) :=
  ⟨Entries.keys_update hb.distinct, ha.update hb, Entries.getText?_update hb.distinct⟩

theorem merge_assoc (ha : Entries.Named a.entries) (hb : Entries.Named b.entries)
    (hc : Entries.Named c.entries) :
    (a.merge b.entries).merge c.entries = a.merge (b.merge c.entries).entries :=
  congrArg mk (ha.update_assoc hb hc)

/-- A set that is merged over none is the whole of what comes of it. -/
theorem empty_merge (h : Entries.Distinct b.entries) : empty.merge b.entries = b :=
  congrArg mk (Entries.ofPairs_of_distinct h)

/-- A set may be given as a value, or a mapping with its entries, and a value that is absent
    stands for no entries. -/
theorem mergeValue_of_entries {v : Value} {es : Entries} (h : v.entries? = some es) :
    a.mergeValue v = .ok (a.merge es) := by
  rw [mergeValue, Value.toPairs_of_entries h]
  rfl

theorem mergeValue_null : a.mergeValue .null = .ok a :=
  rfl

end Capabilities

end ServerLaunch
