import Mathlib.Data.List.Induction

/-!
# Runs of labelled transition systems

A step relation over an arbitrary state type, its finite runs, and the rule by
which a property of states, possibly together with the labels so far, that one
step preserves holds after every run. A guard restricts the relation to the
steps that meet a condition on the state before them, so that a statement about
the runs of a guarded relation is one about the runs all of whose steps meet it.
-/

namespace Foundation.Transition

variable {σ ℓ : Type}

/-- The finite runs from `start`, with their labels in order. -/
inductive Run (step : σ → ℓ → σ → Prop) (start : σ) : List ℓ → σ → Prop where
  | nil : Run step start [] start
  | snoc {labels : List ℓ} {label : ℓ} {before after : σ} :
      Run step start labels before → step before label after →
      Run step start (labels ++ [label]) after

/-- The steps that meet a condition on the state before them. -/
def Guarded (guard : σ → ℓ → Prop) (step : σ → ℓ → σ → Prop) (before : σ) (label : ℓ)
    (after : σ) : Prop :=
  guard before label ∧ step before label after

/-- The relation of a partial step function. -/
def ofFun (next : σ → ℓ → Option σ) (before : σ) (label : ℓ) (after : σ) : Prop :=
  next before label = some after

namespace Run

variable {step : σ → ℓ → σ → Prop} {start : σ}

/-- What one step preserves, together with the labels so far, every run preserves. -/
theorem traceInvariant (holds : List ℓ → σ → Prop) (initial : holds [] start)
    (preserved : ∀ labels label before after, holds labels before → step before label after →
      holds (labels ++ [label]) after)
    {labels : List ℓ} {final : σ} (run : Run step start labels final) : holds labels final := by
  induction run with
  | nil => exact initial
  | snoc _ stepped ih => exact preserved _ _ _ _ ih stepped

/-- What one step preserves holds after every run. -/
theorem invariant (holds : σ → Prop) (initial : holds start)
    (preserved : ∀ before label after, holds before → step before label after → holds after)
    {labels : List ℓ} {final : σ} (run : Run step start labels final) : holds final :=
  run.traceInvariant (fun _ => holds) initial fun _ label before after =>
    preserved before label after

/-- A run goes on with a run from where it ended. -/
theorem append {earlier later : List ℓ} {middle final : σ} (first : Run step start earlier middle)
    (second : Run step middle later final) : Run step start (earlier ++ later) final := by
  induction second with
  | nil => rwa [List.append_nil]
  | snoc _ stepped ih =>
      rw [← List.append_assoc]
      exact .snoc ih stepped

/-- A larger relation has the runs of a smaller one. -/
theorem mono {larger : σ → ℓ → σ → Prop}
    (included : ∀ before label after, step before label after → larger before label after)
    {labels : List ℓ} {final : σ} (run : Run step start labels final) :
    Run larger start labels final := by
  induction run with
  | nil => exact .nil
  | snoc _ stepped ih => exact .snoc ih (included _ _ _ stepped)

/-- Runs of a step function can be computed. -/
theorem of_foldlM {next : σ → ℓ → Option σ} {labels : List ℓ} {final : σ}
    (computed : labels.foldlM next start = some final) :
    Run (ofFun next) start labels final := by
  induction labels using List.reverseRecOn generalizing final with
  | nil =>
      cases computed
      exact .nil
  | append_singleton labels label ih =>
      rw [List.foldlM_append] at computed
      obtain ⟨before, earlier, stepped⟩ := Option.bind_eq_some_iff.mp computed
      refine .snoc (ih earlier) ?_
      simpa [ofFun] using stepped

/-- Runs of a guarded step function can be computed too. -/
theorem of_guarded_foldlM {next : σ → ℓ → Option σ} {guard : σ → ℓ → Prop}
    [∀ state label, Decidable (guard state label)] {labels : List ℓ} {final : σ}
    (computed : labels.foldlM
      (fun state label => if guard state label then next state label else none) start =
        some final) :
    Run (Guarded guard (ofFun next)) start labels final := by
  have split : ∀ before label after,
      ofFun (fun state label => if guard state label then next state label else none)
        before label after → Guarded guard (ofFun next) before label after := by
    intro before label after stepped
    simp only [ofFun] at stepped
    split at stepped
    · exact ⟨‹_›, stepped⟩
    · cases stepped
  exact (of_foldlM computed).mono split

end Run

end Foundation.Transition
