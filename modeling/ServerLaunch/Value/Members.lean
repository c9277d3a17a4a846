import ServerLaunch.Value.Entries

/-!
# Members and Pairs

What a value gives if it is taken apart.

A collection gives its members, a mapping its keys, a text its characters and octets
their numbers. A mapping can be made from anything with members, as long as each of them
has two members of its own, a key and a value. Anything that counts as absent makes an
empty one.

## Main definitions

* `Value.members?`: The members of a value.
* `EntriesFault`: Why a value makes no mapping.
* `Value.toPairs`: The keys and values that a value gives.

## Theorems

* `toPairs_of_entries`: A mapping gives its own entries.
-/

namespace ServerLaunch

/-- Why a value makes no mapping: it or one of its members has no members, or cannot be a
    key; or a member, found at some place, is no pair. -/
inductive EntriesFault where
  | wrongKind
  | notPair (place length : Nat)
deriving DecidableEq, Repr, Inhabited

/-- The explanation of a fault that has one. -/
def EntriesFault.message? : EntriesFault → Option String
  | .wrongKind => none
  | .notPair place length =>
    some ("dictionary update sequence element #" ++ toString place ++ " has length " ++
      toString length ++ "; 2 is required")

namespace Value

/-- The members of a value, unless it is one that has none. -/
def members? : Value → Option (List Value)
  | .list vs | .tuple vs | .set vs => some vs
  | .dict es | .caps es => some (Entries.keys es)
  | .text s => some (s.toList.map fun c => .text (String.singleton c))
  | .octets bs => some (bs.map fun b => .int b.toNat)
  | _ => none

/-- The key and the value that a member gives. -/
def toPair (place : Nat) (v : Value) : Except EntriesFault (Value × Value) :=
  match v.members? with
  | some [key, value] => if key.isKey then .ok (key, value) else .error .wrongKind
  | some vs => .error (.notPair place vs.length)
  | none => .error .wrongKind

/-- The keys and values that members give, the first of which is at the given place. -/
def pairsFrom (place : Nat) : List Value → Except EntriesFault (List (Value × Value))
  | [] => .ok []
  | v :: vs => do
    let pair ← v.toPair place
    let pairs ← pairsFrom (place + 1) vs
    return pair :: pairs

/-- The keys and values that a value gives. -/
def toPairs (v : Value) : Except EntriesFault (List (Value × Value)) :=
  if !v.isTruthy then .ok []
  else match v.entries? with
  | some es => .ok es
  | none =>
    match v.members? with
    | some vs => pairsFrom 0 vs
    | none => .error .wrongKind

/-- A mapping gives its own entries. -/
theorem toPairs_of_entries {v : Value} {es : Entries} (h : v.entries? = some es) :
    v.toPairs = .ok es := by
  cases v <;> cases h <;> cases es <;> rfl

end Value

end ServerLaunch
