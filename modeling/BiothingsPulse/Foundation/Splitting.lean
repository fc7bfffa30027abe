import Mathlib.Data.List.Induction
import Mathlib.Tactic.TypeStar

/-!
# Splitting and joining

A list that is split at a separator, and parts that are joined by one: which parts come
back from their joined text.
-/

namespace Foundation.Splitting

variable {α : Type*}

/-- A last part comes after a separator. -/
theorem intercalate_concat {between last : List α} {parts : List (List α)}
    (nonempty : parts ≠ []) :
    between.intercalate (parts ++ [last]) = between.intercalate parts ++ between ++ last := by
  induction parts with
  | nil => exact absurd rfl nonempty
  | cons first rest ih =>
      cases rest with
      | nil => simp
      | cons next rest => simpa using ih (List.cons_ne_nil _ _)

variable [BEq α] [LawfulBEq α] {separator : α}

/-- A part has no separator. -/
theorem not_mem_of_mem_splitOn {part text : List α} (listed : part ∈ text.splitOn separator) :
    separator ∉ part := by
  induction text generalizing part with
  | nil =>
      obtain rfl := List.mem_singleton.mp listed
      exact List.not_mem_nil
  | cons c rest ih =>
      rw [List.splitOn_cons_eq_if_modifyHead] at listed
      split at listed
      · obtain rfl | listed := List.mem_cons.mp listed
        · exact List.not_mem_nil
        · exact ih listed
      · rename_i other
        generalize split : rest.splitOn separator = parts at listed ih
        cases parts with
        | nil => cases listed
        | cons first others =>
            obtain rfl | listed := List.mem_cons.mp listed
            · rw [List.mem_cons, not_or]
              refine ⟨?_, ih List.mem_cons_self⟩
              rintro rfl
              exact other (beq_self_eq_true _)
            · exact ih (List.mem_cons_of_mem _ listed)

/-- What begins a text and is free of the separator begins the first part. -/
theorem prefix_of_splitOn_eq_cons {front text first : List α} {rest : List (List α)}
    (free : separator ∉ front) (begins : front <+: text)
    (split : text.splitOn separator = first :: rest) : front <+: first := by
  induction front generalizing text first rest with
  | nil => exact List.nil_prefix
  | cons c front ih =>
      obtain ⟨after, rfl⟩ := begins
      rw [List.mem_cons, not_or] at free
      have other : (c == separator) = false := beq_eq_false_iff_ne.mpr (Ne.symm free.1)
      rw [List.cons_append, List.splitOn_cons_eq_if_modifyHead, other] at split
      cases later : (front ++ after).splitOn separator with
      | nil => exact absurd later (List.splitOn_ne_nil _ _)
      | cons next parts =>
          rw [later] at split
          obtain ⟨rfl, _⟩ := List.cons_eq_cons.mp split
          exact List.cons_prefix_cons.mpr ⟨rfl, ih free.2 (List.prefix_append _ _) later⟩

/-- Splitting a joined text gives the parts back unless one holds the separator. -/
theorem splitOn_intercalate_iff {parts : List (List α)} (nonempty : parts ≠ []) :
    ([separator].intercalate parts).splitOn separator = parts ↔
      ∀ part ∈ parts, separator ∉ part := by
  constructor
  · intro split part listed
    rw [← split] at listed
    exact not_mem_of_mem_splitOn listed
  · intro free
    exact List.splitOn_intercalate separator free nonempty

end Foundation.Splitting
