import ServerLaunch.Value

/-!
# Entries of a Mapping

Looking up and changing an ordered mapping.

A key keeps the place at which it first came in: giving it a new value changes the
value alone, and a key that is new goes to the end. Two keys are one if they are
equal as values, so the numbers one and one point zero and the truth value are a
single key, and the first of them to come in is the one that stays.

## Main definitions

* `Entries.get?`, `Entries.has`: Looking up a key.
* `Entries.insert`: One entry.
* `Entries.update`: The entries of another mapping, one after the other.
* `Entries.ofPairs`: A mapping from a list in which keys may repeat.
* `Entries.Distinct`: No key twice, which every mapping built here satisfies.

## Theorems

* `get?_insert_self`: A value that was put in is found.
* `keys_insert`: Inserting adds its key at the end unless it is there.
-/

namespace ServerLaunch

namespace Entries

/-- The value of a key. -/
def get? (es : Entries) (key : Value) : Option Value :=
  (es.find? fun e => e.1.same key).map Prod.snd

/-- Whether a key is there. -/
def has (es : Entries) (key : Value) : Bool :=
  es.any fun e => e.1.same key

/-- The keys, in order. -/
def keys (es : Entries) : List Value :=
  es.map Prod.fst

/-- Gives a key a value: in its place if it is there, else at the end. -/
def insert : Entries → Value → Value → Entries
  | [], key, value => [(key, value)]
  | (k, v) :: rest, key, value =>
    if k.same key then (k, value) :: rest else (k, v) :: insert rest key value

/-- Puts in the entries of another mapping, one after the other. -/
def update (es : Entries) (others : Entries) : Entries :=
  others.foldl (fun done e => insert done e.1 e.2) es

/-- A mapping from a list of entries in which keys may repeat. -/
def ofPairs (pairs : List (Value × Value)) : Entries :=
  update [] pairs

/-- The value of a text key. -/
def getText? (es : Entries) (name : String) : Option Value :=
  get? es (.text name)

/-- No key is there twice. -/
def Distinct (es : Entries) : Prop :=
  es.Pairwise fun e f => e.1.same f.1 = false

/-- A value that was put in is found, whatever was there. -/
theorem get?_insert_self (es : Entries) (key value : Value) (h : key.same key = true) :
    get? (insert es key value) key = some value := by
  induction es with
  | nil => simp only [insert, get?, List.find?_cons, h, Option.map_some]
  | cons e rest ih =>
    obtain ⟨k, v⟩ := e
    cases hk : k.same key with
    | true => simp only [insert, hk, if_true, get?, List.find?_cons, Option.map_some]
    | false =>
      simp only [insert, hk, Bool.false_eq_true, if_false, get?, List.find?_cons] at ih ⊢
      exact ih

/-- Inserting adds its key at the end unless it is there. -/
theorem keys_insert (es : Entries) (key value : Value) :
    keys (insert es key value) = if has es key then keys es else keys es ++ [key] := by
  induction es with
  | nil => rfl
  | cons e rest ih =>
    obtain ⟨k, v⟩ := e
    cases hk : k.same key with
    | true => simp [insert, keys, has, hk]
    | false =>
      have hkeys :
          keys (insert ((k, v) :: rest) key value) = k :: keys (insert rest key value) := by
        simp [insert, keys, hk]
      have hhas : has ((k, v) :: rest) key = has rest key := by simp [has, hk]
      rw [hkeys, ih, hhas]
      cases has rest key <;> rfl

end Entries

end ServerLaunch
