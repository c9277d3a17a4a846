import ServerLaunch.Value.Entries

/-!
# Mappings Built Up

What a mapping is like that was made by putting in one entry after the other.

Every mapping that the library makes is made so, and has no key twice. Where no key was there
twice to begin with, every entry goes to the end and the mapping is the list that it was made
from. What holds of all keys and all values that were put in holds of those that are there,
although an entry may have the key of one and the value of another.

## Theorems

* `Entries.distinct_insert`, `Entries.distinct_ofPairs`: No key is there twice.
* `Entries.ofPairs_of_distinct`: Distinct entries stay as they are.
* `Entries.forall_insert`, `Entries.forall_ofPairs`: What holds of keys and of values.
-/

namespace ServerLaunch

namespace Entries

/-- A key that is not there is put at the end. -/
theorem insert_of_not_has {es : Entries} {key : Value} (h : has es key = false) (value : Value) :
    insert es key value = es ++ [(key, value)] := by
  induction es with
  | nil => rfl
  | cons e rest ih =>
      rcases e with ⟨k, v⟩
      simp only [has, List.any_cons, Bool.or_eq_false_iff] at h
      rw [insert, h.1, if_neg Bool.false_ne_true, ih h.2, List.cons_append]

/-- The keys of entries say whether they are distinct. -/
theorem distinct_iff_keys {es : Entries} :
    Distinct es ↔ (keys es).Pairwise fun k l => k.same l = false := by
  rw [keys, List.pairwise_map]
  rfl

theorem distinct_insert {es : Entries} (h : Distinct es) (key value : Value) :
    Distinct (insert es key value) := by
  rw [distinct_iff_keys, keys_insert]
  split
  · exact distinct_iff_keys.mp h
  · next hhas =>
      rw [List.pairwise_append]
      refine ⟨distinct_iff_keys.mp h, List.pairwise_singleton _ _, fun k hk l hl => ?_⟩
      rcases List.mem_map.mp hk with ⟨e, he, rfl⟩
      rw [List.mem_singleton.mp hl, ← Bool.not_eq_true]
      exact fun hsame => hhas (List.any_eq_true.mpr ⟨e, he, hsame⟩)

theorem distinct_update {es : Entries} (h : Distinct es) (others : Entries) :
    Distinct (update es others) := by
  induction others generalizing es with
  | nil => exact h
  | cons e others ih => exact ih (distinct_insert h e.1 e.2)

/-- A mapping that is made from pairs has no key twice, whatever the pairs are. -/
theorem distinct_ofPairs (pairs : List (Value × Value)) : Distinct (ofPairs pairs) :=
  distinct_update List.Pairwise.nil pairs

/-- Where no key comes twice, every pair goes to the end. -/
theorem update_of_distinct {es others : Entries} (h : Distinct (es ++ others)) :
    update es others = es ++ others := by
  induction others generalizing es with
  | nil => exact (List.append_nil es).symm
  | cons e others ih =>
      have hnew : has es e.1 = false := by
        rw [has, List.any_eq_false]
        intro f hf
        rw [(List.pairwise_append.mp h).2.2 f hf e List.mem_cons_self]
        exact Bool.false_ne_true
      have hmove : es ++ e :: others = es ++ [e] ++ others := by
        rw [List.append_assoc, List.singleton_append]
      rw [hmove] at h ⊢
      rw [← ih h]
      exact congrArg (update · others) (insert_of_not_has hnew e.2)

/-- Distinct entries make the mapping that they are. -/
theorem ofPairs_of_distinct {es : Entries} (h : Distinct es) : ofPairs es = es :=
  update_of_distinct h

section Forall

variable {P Q : Value → Prop}

theorem forall_insert {es : Entries} {key value : Value} (h : ∀ e ∈ es, P e.1 ∧ Q e.2)
    (hkey : P key) (hvalue : Q value) : ∀ e ∈ insert es key value, P e.1 ∧ Q e.2 := by
  induction es with
  | nil =>
      intro e he
      rw [List.mem_singleton.mp he]
      exact ⟨hkey, hvalue⟩
  | cons entry rest ih =>
      rcases entry with ⟨k, v⟩
      have hrest : ∀ e ∈ rest, P e.1 ∧ Q e.2 := fun e he => h e (List.mem_cons_of_mem _ he)
      intro e he
      unfold insert at he
      split at he
      · rcases List.mem_cons.mp he with rfl | he
        · exact ⟨(h (k, v) List.mem_cons_self).1, hvalue⟩
        · exact hrest e he
      · rcases List.mem_cons.mp he with rfl | he
        · exact h (k, v) List.mem_cons_self
        · exact ih hrest e he

theorem forall_update {es others : Entries} (h : ∀ e ∈ es, P e.1 ∧ Q e.2)
    (hothers : ∀ e ∈ others, P e.1 ∧ Q e.2) : ∀ e ∈ update es others, P e.1 ∧ Q e.2 := by
  induction others generalizing es with
  | nil => exact h
  | cons e others ih =>
      have he := hothers e List.mem_cons_self
      exact ih (forall_insert h he.1 he.2) fun f hf => hothers f (List.mem_cons_of_mem _ hf)

/-- What holds of all keys and of all values of pairs holds of the mapping made from them. -/
theorem forall_ofPairs {pairs : List (Value × Value)} (h : ∀ e ∈ pairs, P e.1 ∧ Q e.2) :
    ∀ e ∈ ofPairs pairs, P e.1 ∧ Q e.2 :=
  forall_update (fun _ he => absurd he List.not_mem_nil) h

end Forall

end Entries

end ServerLaunch
