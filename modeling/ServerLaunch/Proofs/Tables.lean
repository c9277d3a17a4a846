import Mathlib.Data.List.Induction
import ServerLaunch.Proofs.BuilderRun
import ServerLaunch.Value.Entries

/-!
# Tables Built Up

What is found in a table that was made from pairs in which names repeat.

A table keeps the place at which a name first came in and the value that it was given last.
Both are read off the pairs alone: the names are the names of the pairs without those that
came before, and what is found under a name is the value of the last pair of that name. The
same is true of mappings with texts as keys, among which there may be other keys as well.

## Main definitions

* `Table.lastValue?`: The last value of a name among pairs.

## Theorems

* `Table.names_ofPairs`, `Table.lookup_ofPairs`: The names of a table, and what is found.
* `Entries.getText?_insert`: What is found in a mapping after an insertion.
-/

namespace ServerLaunch

namespace Table

variable {α : Type}

/-- The last value of a name among pairs in which names may repeat. -/
def lastValue? (pairs : List (String × α)) (name : String) : Option α :=
  (pairs.filter fun e => e.1 == name).getLast?.map Prod.snd

theorem lastValue?_concat (pairs : List (String × α)) (e : String × α) (name : String) :
    lastValue? (pairs ++ [e]) name = if e.1 = name then some e.2 else lastValue? pairs name := by
  unfold lastValue?
  rw [List.filter_append]
  by_cases h : e.1 = name
  · have hlast : [e].filter (fun e => e.1 == name) = [e] :=
      List.filter_cons_of_pos (beq_iff_eq.mpr h)
    rw [if_pos h, hlast, List.getLast?_concat]
    rfl
  · have hlast : [e].filter (fun e => e.1 == name) = [] :=
      List.filter_cons_of_neg (mt beq_iff_eq.mp h)
    rw [if_neg h, hlast, List.append_nil]

theorem lookup_put (table : Table α) (name key : String) (a : α) :
    (table.put name a).lookup key = if name = key then some a else table.lookup key := by
  induction table with
  | nil =>
      by_cases h : name = key
      · rw [if_pos h, put, h, List.lookup_cons_self]
      · rw [if_neg h, put, List.lookup_cons, beq_eq_false_iff_ne.mpr (Ne.symm h)]
  | cons e rest ih =>
      rcases e with ⟨key', b⟩
      unfold put
      by_cases hplace : key' = name
      · rw [if_pos hplace, List.lookup_cons, List.lookup_cons, hplace]
        by_cases h : name = key
        · rw [if_pos h, beq_iff_eq.mpr h.symm]
        · rw [if_neg h, beq_eq_false_iff_ne.mpr (Ne.symm h)]
      · rw [if_neg hplace, List.lookup_cons, List.lookup_cons, ih]
        by_cases h : key = key'
        · -- The name stands further down, so it is not the one that is looked up.
          have hname : ¬ name = key := fun hname => hplace (hname.trans h).symm
          rw [if_neg hname, if_neg hname, beq_iff_eq.mpr h]
        · rw [beq_eq_false_iff_ne.mpr h]

theorem ofPairs_concat (pairs : List (String × α)) (e : String × α) :
    ofPairs (pairs ++ [e]) = (ofPairs pairs).put e.1 e.2 :=
  List.foldl_concat _ _ _ _

/-- What is found in a table is the last value of the name. -/
theorem lookup_ofPairs (pairs : List (String × α)) (name : String) :
    (ofPairs pairs).lookup name = lastValue? pairs name := by
  induction pairs using List.reverseRecOn with
  | nil => rfl
  | append_singleton pairs e ih => rw [ofPairs_concat, lookup_put, lastValue?_concat, ih]

/-- A name at the end counts only if it is new. -/
theorem eraseDups_concat (names : List String) (name : String) :
    (names ++ [name]).eraseDups
      = if name ∈ names then names.eraseDups else names.eraseDups ++ [name] := by
  rw [List.eraseDups_append]
  -- Of a single name either nothing is left or the name.
  by_cases h : name ∈ names
  · have hgone : [name].removeAll names = [] := List.filter_cons_of_neg (by simpa using h)
    rw [if_pos h, hgone, List.eraseDups_nil, List.append_nil]
  · have hleft : [name].removeAll names = [name] := List.filter_cons_of_pos (by simpa using h)
    rw [if_neg h, hleft]
    rfl

/-- The names of a table are those of the pairs, each at its first place. -/
theorem names_ofPairs (pairs : List (String × α)) :
    (ofPairs pairs).map Prod.fst = (pairs.map Prod.fst).eraseDups := by
  induction pairs using List.reverseRecOn with
  | nil => rfl
  | append_singleton pairs e ih =>
      rw [ofPairs_concat, names_put, ih, List.map_append, List.map_singleton, eraseDups_concat]
      simp only [List.mem_eraseDups]

theorem nodup_ofPairs (pairs : List (String × α)) :
    ((ofPairs pairs).map Prod.fst).Nodup := by
  induction pairs using List.reverseRecOn with
  | nil => exact List.nodup_nil
  | append_singleton pairs e ih =>
      rw [ofPairs_concat]
      exact nodup_put ih e.1 e.2

end Table

namespace Entries

/-- A key is the same as a text only if it is that text. -/
theorem same_text_iff {key : Value} {name : String} : key.same (.text name) ↔ key = .text name := by
  cases key <;> simp [Value.same, Value.number?, Value.entries?]

theorem text_same_iff {key : Value} {name : String} :
    (Value.text name).same key ↔ key = .text name := by
  cases key with
  | text t =>
      simp only [Value.same, beq_iff_eq, Value.text.injEq]
      exact eq_comm
  | _ => simp only [Value.same, Bool.false_eq_true, reduceCtorEq]

theorem getText?_cons (e : Value × Value) (es : Entries) (name : String) :
    getText? (e :: es) name = if e.1 = .text name then some e.2 else getText? es name := by
  unfold getText? get?
  by_cases h : e.1 = .text name
  · rw [if_pos h, List.find?_cons, same_text_iff.mpr h]
    rfl
  · rw [if_neg h, List.find?_cons, Bool.eq_false_iff.mpr (mt same_text_iff.mp h)]

/-- An insertion changes what is found under its own key and nothing else. -/
theorem getText?_insert (es : Entries) (key v : Value) (name : String) :
    getText? (insert es key v) name = if key = .text name then some v else getText? es name := by
  induction es with
  | nil => exact getText?_cons (key, v) [] name
  | cons e rest ih =>
      rcases e with ⟨k, b⟩
      unfold insert
      split
      · next hsame =>
          -- The two keys are the same, so one is the text exactly if the other is.
          have hiff : k = .text name ↔ key = .text name := by
            constructor
            · rintro rfl
              exact text_same_iff.mp hsame
            · rintro rfl
              exact same_text_iff.mp hsame
          rw [getText?_cons, getText?_cons]
          simp only [hiff]
          split
          · rfl
          · rfl
      · next hother =>
          rw [getText?_cons, getText?_cons, ih]
          by_cases h : k = .text name
          · have hkey : ¬ key = .text name :=
              fun hkey => hother (by rw [h]; exact text_same_iff.mpr hkey)
            rw [if_pos h, if_neg hkey, if_pos h]
          · rw [if_neg h, if_neg h]

/-- Where no key is there twice, the key of the first entry does not come again. -/
theorem getText?_eq_none_of_distinct {e : Value × Value} {es : Entries} {name : String}
    (h : Distinct (e :: es)) (hkey : e.1 = .text name) : getText? es name = none := by
  rw [getText?, get?, Option.map_eq_none_iff, List.find?_eq_none]
  intro f hf hsame
  have hother := (List.pairwise_cons.mp h).1 f hf
  rw [hkey, same_text_iff.mp hsame] at hother
  exact absurd (text_same_iff.mpr rfl) (Bool.eq_false_iff.mp hother)

end Entries

end ServerLaunch
