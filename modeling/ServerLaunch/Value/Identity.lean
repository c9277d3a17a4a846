import ServerLaunch.Value

/-!
# Identity of Values

Deciding whether two values are one, spelling and order included.

This is finer than the equality by which keys are compared: a truth value is not the
number it counts as, and two mappings with the same entries in another order differ.
Values contain collections of values, so the decision goes through members and entries
along with the values.

## Main definitions

* `Value.decEq`: The decision, from which the instance is made.
-/

namespace ServerLaunch

namespace Value

mutual

/-- Decides whether two values are one. Values of different kinds are not; the kinds are
    compared first, so that only the pairs of one kind remain. -/
def decEq (v w : Value) : Decidable (v = w) :=
  if h : v.ctorIdx = w.ctorIdx then
    match v, w, h with
    | .null, .null, _ => isTrue rfl
    | .bool a, .bool b, _ => decidable_of_decidable_of_iff (p := a = b) (by simp)
    | .number a, .number b, _ => decidable_of_decidable_of_iff (p := a = b) (by simp)
    | .text a, .text b, _ => decidable_of_decidable_of_iff (p := a = b) (by simp)
    | .path a, .path b, _ => decidable_of_decidable_of_iff (p := a = b) (by simp)
    | .octets a, .octets b, _ => decidable_of_decidable_of_iff (p := a = b) (by simp)
    | .moment a, .moment b, _ => decidable_of_decidable_of_iff (p := a = b) (by simp)
    | .list a, .list b, _ => @decidable_of_decidable_of_iff (a = b) _ (decEqMembers a b) (by simp)
    | .tuple a, .tuple b, _ => @decidable_of_decidable_of_iff (a = b) _ (decEqMembers a b) (by simp)
    | .set a, .set b, _ => @decidable_of_decidable_of_iff (a = b) _ (decEqMembers a b) (by simp)
    | .dict a, .dict b, _ => @decidable_of_decidable_of_iff (a = b) _ (decEqEntries a b) (by simp)
    | .caps a, .caps b, _ => @decidable_of_decidable_of_iff (a = b) _ (decEqEntries a b) (by simp)
  else isFalse fun e => h (congrArg Value.ctorIdx e)
termination_by structural v

/-- Decides whether two lists of values are one. -/
def decEqMembers (vs ws : List Value) : Decidable (vs = ws) :=
  match vs, ws with
  | [], [] => isTrue rfl
  | [], _ :: _ => isFalse (by simp)
  | _ :: _, [] => isFalse (by simp)
  | v :: vs, w :: ws =>
    match decEq v w, decEqMembers vs ws with
    | isTrue h, isTrue h' => isTrue (by rw [h, h'])
    | isFalse h, _ => isFalse fun e => h (List.cons.inj e).1
    | _, isFalse h => isFalse fun e => h (List.cons.inj e).2
termination_by structural vs

/-- Decides whether two lists of entries are one. -/
def decEqEntries (es fs : List (Value × Value)) : Decidable (es = fs) :=
  match es, fs with
  | [], [] => isTrue rfl
  | [], _ :: _ => isFalse (by simp)
  | _ :: _, [] => isFalse (by simp)
  | (k, v) :: es, (l, w) :: fs =>
    match decEq k l, decEq v w, decEqEntries es fs with
    | isTrue h, isTrue h', isTrue h'' => isTrue (by rw [h, h', h''])
    | isFalse h, _, _ => isFalse fun e => h (Prod.mk.inj (List.cons.inj e).1).1
    | _, isFalse h, _ => isFalse fun e => h (Prod.mk.inj (List.cons.inj e).1).2
    | _, _, isFalse h => isFalse fun e => h (List.cons.inj e).2
termination_by structural es

end

instance : DecidableEq Value := decEq

end Value

end ServerLaunch
