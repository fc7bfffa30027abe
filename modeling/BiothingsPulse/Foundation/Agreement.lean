import BiothingsPulse.Foundation.Loop

/-!
# Computations that two related runs cannot tell apart

A computation with a state respects a relation on states when from related states
it has the same result and ends in related states. The computations that respect a
relation compose, so that a statement about two runs of a program is proved by
looking at the program once, one construct at a time.
-/

namespace Foundation.Agreement

variable {σ α β : Type*}

def Respects (related : σ → σ → Prop) (compute : σ → α × σ) : Prop :=
  ∀ left right, related left right →
    (compute left).1 = (compute right).1 ∧ related (compute left).2 (compute right).2

namespace Respects

variable {related : σ → σ → Prop} {compute : σ → α × σ}

/-- The common result of two runs and the states they end in. -/
theorem runs (respects : Respects related compute) {left right : σ}
    (before : related left right) :
    ∃ result left' right', compute left = (result, left') ∧ compute right = (result, right') ∧
      related left' right' := by
  obtain ⟨same, after⟩ := respects left right before
  refine ⟨(compute left).1, (compute left).2, (compute right).2, rfl, ?_, after⟩
  rw [same]

/-- What changes nothing and returns the same respects every relation. -/
theorem const (result : α) : Respects related fun state => (result, state) :=
  fun _ _ before => ⟨rfl, before⟩

/-- What respects a relation may be followed by what respects it. -/
theorem bind {next : α → σ → β × σ} (respects : Respects related compute)
    (nexts : ∀ result, Respects related (next result)) :
    Respects related fun state => next (compute state).1 (compute state).2 := by
  intro left right before
  obtain ⟨result, left', right', ranLeft, ranRight, after⟩ := respects.runs before
  simp only [ranLeft, ranRight]
  exact nexts result left' right' after

/-- The result may be changed by a function. -/
theorem map (respects : Respects related compute) (change : α → β) :
    Respects related fun state => (change (compute state).1, (compute state).2) :=
  respects.bind fun result => const (change result)

end Respects

end Foundation.Agreement
