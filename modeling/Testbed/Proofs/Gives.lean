/-!
# What a reader gives

A condition on whatever a reader gives when it succeeds, put together along the steps of the reader.
-/

namespace Testbed

variable {ε α β : Type} {P P' : α → Prop} {Q : β → Prop}

def Gives (x : Except ε α) (P : α → Prop) : Prop := ∀ a, x = .ok a → P a

theorem gives_pure {a : α} (h : P a) : Gives (pure a : Except ε α) P := by
  intro b hb
  cases hb
  exact h

theorem gives_error (e : ε) : Gives (.error e) P := by
  intro b hb
  cases hb

theorem gives_any (x : Except ε α) : Gives x fun _ => True := fun _ _ => trivial

theorem Gives.mono {x : Except ε α} (h : Gives x P) (hP : ∀ a, P a → P' a) : Gives x P' :=
  fun a ha => hP a (h a ha)

theorem gives_bind {x : Except ε α} {f : α → Except ε β} (hx : Gives x P)
    (hf : ∀ a, P a → Gives (f a) Q) : Gives (x >>= f) Q := by
  intro b hb
  cases h : x with
  | error e =>
    rw [h] at hb
    cases hb
  | ok a =>
    rw [h] at hb
    exact hf a (hx a h) b hb

/-- What comes of a reader does not matter for what comes after it. -/
theorem gives_after {x : Except ε α} {f : α → Except ε β} (hf : ∀ a, Gives (f a) Q) :
    Gives (x >>= f) Q :=
  gives_bind (gives_any x) fun a _ => hf a

/-- Nothing comes after an error. -/
theorem gives_throw (e : ε) (f : α → Except ε β) : Gives (throw e >>= f) Q := gives_error e

theorem gives_ite {c : Prop} [Decidable c] {x y : Except ε α} (hx : Gives x P)
    (hy : Gives y P) : Gives (if c then x else y) P := by
  by_cases hc : c
  · rwa [if_pos hc]
  · rwa [if_neg hc]

theorem gives_of_exists {x : Except ε α} (h : ∃ a, x = .ok a ∧ P a) : Gives x P := by
  obtain ⟨a, rfl, ha⟩ := h
  exact gives_pure ha

theorem exists_error_of_gives {x : Except ε α} (h : Gives x fun _ => False) :
    ∃ e, x = .error e := by
  cases x with
  | error e => exact ⟨e, rfl⟩
  | ok a => exact (h a rfl).elim

theorem exists_of_map_ok {x : Except ε α} {f : α → β} {b : β} (h : x.map f = .ok b) :
    ∃ a, x = .ok a ∧ f a = b := by
  cases x with
  | error => cases h
  | ok a => exact ⟨a, rfl, Except.ok.inj h⟩

theorem exists_of_bind_ok {x : Except ε α} {f : α → Except ε β} {b : β} (h : x >>= f = .ok b) :
    ∃ a, x = .ok a ∧ f a = .ok b := by
  cases x with
  | error => cases h
  | ok a => exact ⟨a, rfl, h⟩

/-- What is computed from a result shows that there is one. -/
theorem exists_ok_of_toOption {x : Except ε α} {f : α → β} {b : β}
    (h : x.toOption.map f = some b) : ∃ a, x = .ok a ∧ f a = b := by
  cases x with
  | error => cases h
  | ok a => exact ⟨a, rfl, Option.some.inj h⟩

end Testbed
