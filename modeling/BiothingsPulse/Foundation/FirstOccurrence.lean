import Mathlib.Data.List.Nodup

/-!
# First occurrences

From a list of elements with keys, those whose key no earlier element has. They are what
a loop collects that notes the keys it has seen and skips what has one of them.
-/

namespace Foundation

variable {α β κ : Type*} [DecidableEq κ]

/-- The elements whose key has been seen neither before nor earlier in the list. -/
def firsts (key : α → κ) : List κ → List α → List α
  | _, [] => []
  | seen, element :: rest =>
      if key element ∈ seen then firsts key seen rest
      else element :: firsts key (key element :: seen) rest

section Firsts

variable {key : α → κ}

/-- An element is a first occurrence when its key is new and the search for it finds it. -/
theorem mem_firsts_iff {seen : List κ} {elements : List α} {element : α} :
    element ∈ firsts key seen elements ↔
      key element ∉ seen ∧ elements.find? (fun other => key other = key element) =
        some element := by
  induction elements generalizing seen with
  | nil => simp [firsts]
  | cons first rest ih =>
      rw [firsts]
      by_cases same : key first = key element
      · simp only [List.find?_cons, same, decide_true, Option.some.injEq]
        by_cases repeated : key element ∈ seen
        · rw [if_pos repeated, ih]
          exact ⟨fun kept => absurd repeated kept.1, fun kept => absurd repeated kept.1⟩
        · rw [if_neg repeated, List.mem_cons, ih]
          constructor
          · rintro (rfl | ⟨fresh, _⟩)
            · exact ⟨repeated, rfl⟩
            · exact absurd List.mem_cons_self fresh
          · rintro ⟨_, rfl⟩
            exact .inl rfl
      · simp only [List.find?_cons, same, decide_false]
        have other : element ≠ first := fun equal => same (equal ▸ rfl)
        by_cases repeated : key first ∈ seen
        · rw [if_pos repeated, ih]
        · rw [if_neg repeated, List.mem_cons, or_iff_right other, ih, List.mem_cons,
            or_iff_right (Ne.symm same)]

/-- The first occurrences have distinct keys. -/
theorem firsts_nodup (seen : List κ) (elements : List α) :
    ((firsts key seen elements).map key).Nodup := by
  induction elements generalizing seen with
  | nil => exact List.nodup_nil
  | cons first rest ih =>
      rw [firsts]
      split
      · exact ih seen
      · rw [List.map_cons, List.nodup_cons]
        refine ⟨?_, ih _⟩
        intro repeated
        obtain ⟨element, member, same⟩ := List.mem_map.mp repeated
        exact (mem_firsts_iff.mp member).1 (same ▸ List.mem_cons_self)

end Firsts

section Loop

variable {σ ε : Type*} {take : σ → α → Except ε σ} {accepts : α → Bool} {key : α → κ}
  {emit : α → β} {seen : σ → List κ} {out : σ → List β} {keeps : σ → Prop}

/-- Each round of a loop emits for an accepted element with a new key and notes the key, and
does nothing for another element. -/
structure Collects (take : σ → α → Except ε σ) (accepts : α → Bool) (key : α → κ) (emit : α → β)
    (seen : σ → List κ) (out : σ → List β) (keeps : σ → Prop) : Prop where
  skips : ∀ state element next, keeps state → take state element = .ok next →
    ¬(accepts element = true ∧ key element ∉ seen state) → next = state
  takes : ∀ state element next, keeps state → take state element = .ok next →
    accepts element = true → key element ∉ seen state →
      keeps next ∧ seen next = key element :: seen state ∧ out next = out state ++ [emit element]

/-- Such a loop emits for the first occurrences of the accepted elements. -/
theorem Collects.foldlM (collects : Collects take accepts key emit seen out keeps)
    {elements : List α} {state final : σ} (kept : keeps state)
    (ran : elements.foldlM take state = .ok final) :
    keeps final ∧
      out final = out state ++
        (firsts key (seen state) (elements.filter accepts)).map emit ∧
      ∀ k, k ∈ seen final ↔
        k ∈ seen state ∨ k ∈ (firsts key (seen state) (elements.filter accepts)).map key := by
  induction elements generalizing state with
  | nil =>
      obtain rfl := Except.ok.inj ran
      exact ⟨kept, (List.append_nil _).symm, fun k => by simp [firsts]⟩
  | cons element rest ih =>
      rw [List.foldlM_cons] at ran
      cases taken : take state element with
      | error failure => rw [taken] at ran; cases ran
      | ok next =>
          rw [taken] at ran
          by_cases accepted : accepts element = true
          · rw [List.filter_cons_of_pos accepted, firsts]
            by_cases repeated : key element ∈ seen state
            · obtain rfl := collects.skips state element next kept taken fun new =>
                new.2 repeated
              rw [if_pos repeated]
              exact ih kept ran
            · obtain ⟨kept, noted, emitted⟩ :=
                collects.takes state element next kept taken accepted repeated
              obtain ⟨holds, outputs, notes⟩ := ih kept ran
              rw [if_neg repeated, ← noted]
              refine ⟨holds, ?_, fun k => ?_⟩
              · rw [outputs, emitted, List.append_assoc]
                rfl
              · rw [notes k, noted, List.mem_cons, List.map_cons, List.mem_cons, or_assoc,
                  or_left_comm]
          · obtain rfl := collects.skips state element next kept taken fun new =>
              accepted new.1
            rw [List.filter_cons_of_neg accepted]
            exact ih kept ran

end Loop

end Foundation
