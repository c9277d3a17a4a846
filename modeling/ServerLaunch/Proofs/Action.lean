import Mathlib.Order.Defs.Unbundled
import ServerLaunch.Action

/-!
# Running Actions

How an action is run, step by step, and what it leaves as it was.

An action is a function from a state to an outcome and a state, so running one is
computing. The first group of lemmas says what each of the basic actions computes; with
them a definition in `do` notation is run by rewriting, down to the actions that it calls.

Most actions are of interest for what they do not do. `Keeps` states that for a relation
between the state before and the state after, and it holds of a composed action as soon as
it holds of its parts. That takes a relation that is reflexive, for actions that change
nothing, and transitive, for one action after another. A failure is no exception: an action
that fails keeps the relation up to where it fails.

## Main definitions

* `Act.Keeps`: An action leads from every state to a related one.

## Theorems

* `except_bind_eq_ok`, `Act.bind_eq_ok`: Where two parts give a value together.
* `except_bind_eq_error`: Where two parts fail together.
* `Act.Keeps.bind`: One action after another keeps what both keep.
* `Act.Keeps.of_bind`: What comes after an action.
* `Act.Keeps.zoom`: An action on a part of the state.
* `Act.Keeps.mono`: A weaker relation is kept as well.
-/

namespace ServerLaunch

/-- Two computations that both give a value give the value of the second. -/
theorem except_bind_eq_ok {ε α β : Type} {r : Except ε α} {next : α → Except ε β} {y : β} :
    (r >>= next) = .ok y ↔ ∃ x, r = .ok x ∧ next x = .ok y := by
  constructor
  · intro h
    cases r with
    | error e => cases h
    | ok x => exact ⟨x, rfl, h⟩
  · rintro ⟨x, rfl, h⟩
    exact h

/-- Two computations fail if the first does, or the second with the value of the first. -/
theorem except_bind_eq_error {ε α β : Type} {r : Except ε α} {next : α → Except ε β} {e : ε} :
    (r >>= next) = .error e ↔ r = .error e ∨ ∃ x, r = .ok x ∧ next x = .error e := by
  cases r with
  | error e' =>
      refine ⟨fun h => Or.inl (congrArg _ (Except.error.inj h)), ?_⟩
      rintro (h | ⟨x, hx, _⟩)
      · exact congrArg _ (Except.error.inj h)
      · cases hx
  | ok x =>
      refine ⟨fun h => Or.inr ⟨x, rfl, h⟩, ?_⟩
      rintro (h | ⟨y, hy, h⟩)
      · cases h
      · cases hy
        exact h

theorem except_map_eq_ok {ε α β : Type} {f : α → β} {r : Except ε α} {y : β} :
    r.map f = .ok y ↔ ∃ x, r = .ok x ∧ f x = y := by
  cases r with
  | ok x => simp only [Except.map, Except.ok.injEq, exists_eq_left']
  | error e => simp only [Except.map, reduceCtorEq, false_and, exists_false]

theorem except_map_eq_error {ε α β : Type} {f : α → β} {r : Except ε α} {e : ε} :
    r.map f = .error e ↔ r = .error e := by
  cases r with
  | ok x => simp only [Except.map, reduceCtorEq]
  | error e' => simp only [Except.map, Except.error.injEq]

/-- An error under another name leaves a value alone. -/
theorem mapError_eq_ok {ε ε' α : Type} {f : ε → ε'} {r : Except ε α} {x : α} :
    r.mapError f = .ok x ↔ r = .ok x := by
  cases r with
  | ok y =>
      constructor <;> intro h
      · exact congrArg Except.ok (Except.ok.inj h)
      · exact congrArg Except.ok (Except.ok.inj h)
  | error e => constructor <;> intro h <;> cases h

namespace Act

variable {σ τ α β : Type}

@[simp] theorem pure_apply (x : α) (s : σ) : (pure x : Act σ α) s = (.ok x, s) := rfl

@[simp] theorem throw_apply (e : Failure) (s : σ) : (throw e : Act σ α) s = (.error e, s) := rfl

@[simp] theorem get_apply (s : σ) : (get : Act σ σ) s = (.ok s, s) := rfl

@[simp] theorem modifyGet_apply (f : σ → α × σ) (s : σ) :
    (modifyGet f : Act σ α) s = (.ok (f s).1, (f s).2) := rfl

@[simp] theorem ofExcept_apply (r : Except Failure α) (s : σ) :
    (ofExcept r : Act σ α) s = (r, s) := rfl

@[simp] theorem attempt_apply (a : Act σ α) (s : σ) : a.attempt s = (.ok (a s).1, (a s).2) := rfl

@[simp] theorem zoom_apply (view : σ → τ) (put : τ → σ → σ) (a : Act τ α) (s : σ) :
    a.zoom view put s = ((a (view s)).1, put (a (view s)).2 s) := rfl

/-- Two actions that both give a value give the value of the second. -/
theorem bind_eq_ok {a : Act σ α} {next : α → Act σ β} {s u : σ} {y : β} :
    (a >>= next) s = (.ok y, u) ↔ ∃ x t, a s = (.ok x, t) ∧ next x t = (.ok y, u) := by
  constructor
  · intro h
    rcases ha : a s with ⟨outcome, t⟩
    cases outcome with
    | error e => rw [bind_error ha] at h; exact absurd h (by simp only [Prod.mk.injEq, reduceCtorEq,
        false_and, not_false_eq_true])
    | ok x => rw [bind_ok ha] at h; exact ⟨x, t, rfl, h⟩
  · rintro ⟨x, t, ha, h⟩
    rw [bind_ok ha, h]

/-- Three actions in a row are one and two, or two and one. -/
theorem bind_assoc {γ : Type} (a : Act σ α) (next : α → Act σ β) (last : β → Act σ γ) :
    (a >>= next) >>= last = a >>= fun x => next x >>= last := by
  funext s
  rcases ha : a s with ⟨e | x, t⟩
  · rw [bind_error (bind_error ha), bind_error ha]
  · rw [bind_ok ha]
    rcases hnext : next x t with ⟨e | y, u⟩
    · rw [bind_error ((bind_ok ha).trans hnext), bind_error hnext]
    · rw [bind_ok ((bind_ok ha).trans hnext), bind_ok hnext]

/-- Two computations in a row that may fail. -/
theorem ofExcept_bind (r : Except Failure α) (f : α → Except Failure β) :
    (ofExcept r >>= fun x => ofExcept (f x) : Act σ β) = ofExcept (r >>= f) := by
  cases r <;> rfl

/-- Dropping the value of an action does not change what it does. -/
theorem drop_snd (a : Act σ α) (y : β) (s : σ) : ((a >>= fun _ => pure y) s).2 = (a s).2 := by
  rcases ha : a s with ⟨outcome, t⟩
  cases outcome with
  | ok x => rw [bind_ok ha]; rfl
  | error e => rw [bind_error ha]

/-- An action leads from every state to a related one, whether or not it fails. -/
def Keeps (R : σ → σ → Prop) (a : Act σ α) : Prop :=
  ∀ s, R s (a s).2

namespace Keeps

variable {R R' : σ → σ → Prop} {a : Act σ α}

theorem mono (hR : ∀ s t, R s t → R' s t) (ha : Keeps R a) : Keeps R' a :=
  fun s => hR _ _ (ha s)

theorem modify {f : σ → σ} (hf : ∀ s, R s (f s)) : Keeps R (modify f : Act σ PUnit) :=
  hf

theorem modifyGet {f : σ → α × σ} (hf : ∀ s, R s (f s).2) : Keeps R (modifyGet f : Act σ α) :=
  hf

theorem attempt (ha : Keeps R a) : Keeps R a.attempt :=
  ha

section Reflexive

variable [Std.Refl R]

theorem pure (x : α) : Keeps R (Pure.pure x : Act σ α) :=
  fun s => refl s

theorem throw (e : Failure) : Keeps R (throw e : Act σ α) :=
  fun s => refl s

theorem get : Keeps R (get : Act σ σ) :=
  fun s => refl s

theorem ofExcept (r : Except Failure α) : Keeps R (ofExcept r : Act σ α) :=
  fun s => refl s

end Reflexive

/-- One action after another keeps what both keep. -/
theorem bind [IsTrans σ R] {next : α → Act σ β} (ha : Keeps R a) (hnext : ∀ x, Keeps R (next x)) :
    Keeps R (a >>= next) := by
  intro s
  have hs := ha s
  rcases h : a s with ⟨outcome, t⟩
  rw [h] at hs
  cases outcome with
  | ok x => rw [bind_ok h]; exact IsTrans.trans _ _ _ hs (hnext x t)
  | error e => rw [bind_error h]; exact hs

/-- What comes after an action leads on from where that left the state. -/
theorem of_bind [Std.Refl R] {next : α → Act σ β} (hnext : ∀ x, Keeps R (next x)) (s : σ) :
    R (a s).2 ((a >>= next) s).2 := by
  rcases h : a s with ⟨outcome, t⟩
  cases outcome with
  | ok x => rw [bind_ok h]; exact hnext x t
  | error e => rw [bind_error h]; exact refl t

theorem map [Std.Refl R] [IsTrans σ R] {f : α → β} (ha : Keeps R a) : Keeps R (f <$> a) :=
  bind ha fun x => pure (f x)

theorem ite {c : Prop} [Decidable c] {b : Act σ α} (ha : Keeps R a) (hb : Keeps R b) :
    Keeps R (if c then a else b) := by
  split
  · exact ha
  · exact hb

/-- An action on a part of the state keeps what holds of the whole whenever something that
    the action keeps holds of the part. -/
theorem zoom {R : σ → σ → Prop} {R' : τ → τ → Prop} {view : σ → τ} {put : τ → σ → σ}
    (hput : ∀ s t, R' (view s) t → R s (put t s)) {a : Act τ α} (ha : Keeps R' a) :
    Keeps R (a.zoom view put) :=
  fun s => hput s _ (ha (view s))

end Keeps

end Act

end ServerLaunch
