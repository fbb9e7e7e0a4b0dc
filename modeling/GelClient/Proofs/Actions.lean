/-!
# Runs of actions

How the run of an action with a state and failures is put together from the runs of its parts.
-/

namespace GelClient.Actions

variable {ε σ α β : Type} {x : EStateM ε σ α} {f : α → EStateM ε σ β} {s t : σ} {a : α} {b : β} {e : ε}

/-- A sequence goes on where its first action succeeded. -/
theorem bind_of_ok (h : x s = .ok a t) : (x >>= f) s = f a t := by
  simp only [Bind.bind, EStateM.bind, h]

/-- A sequence ends where its first action failed. -/
theorem bind_of_error (h : x s = .error e t) : (x >>= f) s = .error e t := by
  simp only [Bind.bind, EStateM.bind, h]

/-- A sequence succeeds if its first action does and the second one from there. -/
theorem bind_eq_ok : (x >>= f) s = .ok b t ↔ ∃ a u, x s = .ok a u ∧ f a u = .ok b t := by
  constructor
  · intro h
    cases hx : x s with
    | ok a u => exact ⟨a, u, rfl, (bind_of_ok hx).symm.trans h⟩
    | error e u => exact absurd ((bind_of_error hx).symm.trans h) (by simp)
  · rintro ⟨a, u, hx, hf⟩
    rwa [bind_of_ok hx]

/-- A sequence fails if its first action does or the second one from where the first succeeded. -/
theorem bind_eq_error :
    (x >>= f) s = .error e t ↔ x s = .error e t ∨ ∃ a u, x s = .ok a u ∧ f a u = .error e t := by
  constructor
  · intro h
    cases hx : x s with
    | ok a u => exact .inr ⟨a, u, rfl, (bind_of_ok hx).symm.trans h⟩
    | error e u =>
      cases (bind_of_error (f := f) hx).symm.trans h
      exact .inl rfl
  · rintro (hx | ⟨a, u, hx, hf⟩)
    · exact bind_of_error hx
    · rwa [bind_of_ok hx]

/-- A result without an action changes nothing. -/
@[simp]
theorem pure_apply (a : α) (s : σ) : (pure a : EStateM ε σ α) s = .ok a s := rfl

/-- A failure changes nothing. -/
@[simp]
theorem throw_apply (e : ε) (s : σ) : (throw e : EStateM ε σ α) s = .error e s := rfl

/-- What reads the state first gets the state at hand. -/
@[simp]
theorem get_bind_apply (f : σ → EStateM ε σ β) (s : σ) :
    ((get : EStateM ε σ σ) >>= f) s = f s s := rfl

/-- What changes the state first goes on with the changed state. -/
@[simp]
theorem modify_bind_apply (g : σ → σ) (f : PUnit → EStateM ε σ β) (s : σ) :
    ((modify g : EStateM ε σ PUnit) >>= f) s = f ⟨⟩ (g s) := rfl

/-- What replaces the state first goes on with the new state. -/
@[simp]
theorem set_bind_apply (t : σ) (f : PUnit → EStateM ε σ β) (s : σ) :
    ((set t : EStateM ε σ PUnit) >>= f) s = f ⟨⟩ t := rfl

/-- A change of the state succeeds. -/
@[simp]
theorem modify_apply (g : σ → σ) (s : σ) : (modify g : EStateM ε σ PUnit) s = .ok ⟨⟩ (g s) := rfl

/-- The state that a run ends in, whatever it comes to. -/
def final : EStateM.Result ε σ α → σ
  | .ok _ s | .error _ s => s

/-- What a run comes to, if it succeeds. -/
def value? : EStateM.Result ε σ α → Option α
  | .ok a _ => some a
  | .error _ _ => none

/-- Why a run fails, if it does. -/
def failure? : EStateM.Result ε σ α → Option ε
  | .ok _ _ => none
  | .error e _ => some e

/-- A sequence ends where its first action failed or where the second one ends. -/
theorem final_bind {p : σ → Prop} (hx : p (final (x s)))
    (hf : ∀ a t, x s = .ok a t → p (final (f a t))) : p (final ((x >>= f) s)) := by
  cases h : x s with
  | ok a t =>
    rw [bind_of_ok h]
    exact hf a t h
  | error e t =>
    rw [h] at hx
    rwa [bind_of_error h]

/-- Two runs come to the same and end in related states. -/
inductive Similar (r : σ → σ → Prop) : EStateM.Result ε σ α → EStateM.Result ε σ α → Prop where
  | ok {a : α} {s t : σ} : r s t → Similar r (.ok a s) (.ok a t)
  | error {e : ε} {s t : σ} : r s t → Similar r (.error e s) (.error e t)

/-- Sequences are similar if their first actions are, and the second ones from related states. -/
theorem Similar.bind {r : σ → σ → Prop} (hx : Similar r (x s) (x t))
    (hf : ∀ a s t, r s t → Similar r (f a s) (f a t)) : Similar r ((x >>= f) s) ((x >>= f) t) := by
  generalize hs : x s = xs at hx
  generalize ht : x t = xt at hx
  cases hx with
  | ok h =>
    rw [bind_of_ok hs, bind_of_ok ht]
    exact hf _ _ _ h
  | error h =>
    rw [bind_of_error hs, bind_of_error ht]
    exact .error h

end GelClient.Actions
