import Mathlib.Data.Nat.Notation

/-!
# While loops

A `while` loop over a state, run with a bound on its turns: it ends in a state when some
bound is enough to reach that state.
-/

namespace Foundation.While

variable {σ : Type*} (continues : σ → Bool) (body : σ → σ)

/-- Run the body while the condition holds; `none` if the turns do not last. -/
def run : ℕ → σ → Option σ
  | 0, _ => none
  | turns + 1, state => if continues state then run turns (body state) else some state

/-- The loop ends, in the given state. -/
def Ends (start final : σ) : Prop := ∃ turns, run continues body turns start = some final

variable {continues body} {start final : σ}

/-- A loop that stops at once ends where it starts. -/
theorem ends_iff_of_stops (stops : continues start = false) :
    Ends continues body start final ↔ start = final := by
  constructor
  · rintro ⟨turns, ran⟩
    cases turns with
    | zero => cases ran
    | succ turns =>
        rw [run, stops] at ran
        exact Option.some.inj ran
  · rintro rfl
    exact ⟨1, by rw [run, stops]; rfl⟩

/-- A loop that goes on ends where it does after its body. -/
theorem ends_iff_of_continues (goes : continues start = true) :
    Ends continues body start final ↔ Ends continues body (body start) final := by
  constructor
  · rintro ⟨turns, ran⟩
    cases turns with
    | zero => cases ran
    | succ turns =>
        rw [run, if_pos goes] at ran
        exact ⟨turns, ran⟩
  · rintro ⟨turns, ran⟩
    exact ⟨turns + 1, by rw [run, if_pos goes, ran]⟩

/-- What holds at the start and is kept by each turn holds at the end, where the condition
does not. -/
theorem Ends.invariant {holds : σ → Prop} (ends : Ends continues body start final)
    (initial : holds start)
    (step : ∀ state, continues state = true → holds state → holds (body state)) :
    holds final ∧ continues final = false := by
  obtain ⟨turns, ran⟩ := ends
  induction turns generalizing start with
  | zero => cases ran
  | succ turns ih =>
      cases goes : continues start with
      | true =>
          rw [run, if_pos goes] at ran
          exact ih (step start goes initial) ran
      | false =>
          rw [run, goes] at ran
          obtain rfl := Option.some.inj ran
          exact ⟨initial, goes⟩

/-- A loop that keeps its condition does not end. -/
theorem not_ends (holds : σ → Prop) (initial : holds start)
    (goes : ∀ state, holds state → continues state = true)
    (step : ∀ state, holds state → holds (body state)) : ¬ Ends continues body start final := by
  intro ends
  obtain ⟨held, stops⟩ := ends.invariant initial fun state _ => step state
  rw [goes final held] at stops
  cases stops

end Foundation.While
