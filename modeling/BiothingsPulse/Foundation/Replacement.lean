import Mathlib.Data.List.Infix

/-!
# Replacing parts of a list

The occurrences of a part are replaced from the left on, each after the end of the one before.
A replacement neither makes nor breaks a part that shares nothing with what is replaced and
what replaces it.
-/

namespace Foundation.Replacement

variable {α : Type*}

/-- A part is not found where it shares nothing with the text. -/
theorem infix_append_iff {part text front : List α} (nonempty : part ≠ [])
    (foreign : ∀ c ∈ part, c ∉ front) : part <:+: front ++ text ↔ part <:+: text := by
  induction front with
  | nil => exact Iff.rfl
  | cons c front ih =>
      have later := ih fun d inside among => foreign d inside (List.mem_cons_of_mem _ among)
      rw [List.cons_append, List.infix_cons_iff, later]
      refine or_iff_right ?_
      intro first
      cases part with
      | nil => exact nonempty rfl
      | cons d others =>
          obtain ⟨rfl, _⟩ := List.cons_prefix_cons.mp first
          exact foreign d List.mem_cons_self List.mem_cons_self

variable [DecidableEq α] (old new : List α)

/-- Replace in what follows the rest of an occurrence of the given length. -/
def replaceAfter : ℕ → List α → List α
  | _, [] => []
  | covered + 1, _ :: rest => replaceAfter covered rest
  | 0, c :: rest =>
      if old.isPrefixOf (c :: rest) then new ++ replaceAfter (old.length - 1) rest
      else c :: replaceAfter 0 rest

/-- Replace each occurrence of a part. -/
def replace (text : List α) : List α := replaceAfter old new 0 text

variable {old new} {part text : List α}

private theorem replaceAfter_append (covered rest : List α) :
    replaceAfter old new covered.length (covered ++ rest) = replace old new rest := by
  induction covered with
  | nil => rfl
  | cons c covered ih => exact ih

private theorem replace_append (nonempty : old ≠ []) (rest : List α) :
    replace old new (old ++ rest) = new ++ replace old new rest := by
  cases old with
  | nil => exact absurd rfl nonempty
  | cons c others =>
      have occurs : (c :: others).isPrefixOf (c :: (others ++ rest)) = true :=
        List.isPrefixOf_iff_prefix.mpr (List.prefix_append (c :: others) rest)
      rw [replace, List.cons_append, replaceAfter, if_pos occurs, List.length_cons,
        Nat.add_sub_cancel, replaceAfter_append]

private theorem replace_cons {c : α} {rest : List α} (other : ¬ old <+: c :: rest) :
    replace old new (c :: rest) = c :: replace old new rest := by
  rw [replace, replaceAfter, if_neg (mt List.isPrefixOf_iff_prefix.mp other)]
  rfl

/-- A text is gone through occurrence by occurrence. -/
theorem occurrences {motive : List α → Prop} (nonempty : old ≠ []) (nil : motive [])
    (occurrence : ∀ rest, motive rest → motive (old ++ rest))
    (other : ∀ c rest, ¬ old <+: c :: rest → motive rest → motive (c :: rest)) (text : List α) :
    motive text := by
  induction length : text.length using Nat.strongRecOn generalizing text with
  | ind size ih =>
      cases text with
      | nil => exact nil
      | cons c rest =>
          by_cases occurs : old <+: c :: rest
          · obtain ⟨after, whole⟩ := occurs
            rw [← whole] at length ⊢
            rw [List.length_append] at length
            have shorter := List.length_pos_iff.mpr nonempty
            exact occurrence after (ih after.length (by omega) after rfl)
          · rw [List.length_cons] at length
            exact other c rest occurs (ih rest.length (by omega) rest rfl)

variable (new) in
/-- Either the part does not occur, or its first occurrence is replaced. -/
theorem replace_cases (nonempty : old ≠ []) (text : List α) :
    (¬ old <:+: text ∧ replace old new text = text) ∨
      ∃ before after, text = before ++ (old ++ after) ∧
        replace old new text = before ++ (new ++ replace old new after) := by
  induction text using occurrences nonempty with
  | nil => exact .inl ⟨mt List.infix_nil.mp nonempty, rfl⟩
  | occurrence rest _ => exact .inr ⟨[], rest, rfl, replace_append nonempty rest⟩
  | other c rest other ih =>
      rw [replace_cons other]
      obtain ⟨free, same⟩ | ⟨before, after, whole, replaced⟩ := ih
      · refine .inl ⟨?_, congrArg _ same⟩
        rw [List.infix_cons_iff, not_or]
        exact ⟨other, free⟩
      · exact .inr ⟨c :: before, after, congrArg _ whole, congrArg _ replaced⟩

private theorem replace_eq_nil (nonempty : old ≠ []) (some_new : new ≠ [])
    (empty : replace old new text = []) : text = [] := by
  obtain ⟨_, same⟩ | ⟨before, after, _, replaced⟩ := replace_cases new nonempty text
  · rw [← same, empty]
  · rw [replaced, List.append_eq_nil_iff, List.append_eq_nil_iff] at empty
    exact absurd empty.2.1 some_new

/-- A text becomes one without the replacement only if it is that text. -/
theorem replace_eq_iff_of_free (nonempty : old ≠ []) {result : List α} (free : ¬ new <:+: result)
    (whole : ¬ old <:+: result) : replace old new text = result ↔ text = result := by
  constructor
  · rintro rfl
    obtain ⟨_, same⟩ | ⟨before, after, _, replaced⟩ := replace_cases new nonempty text
    · exact same.symm
    · rw [replaced] at free
      exact absurd ⟨before, replace old new after, List.append_assoc _ _ _⟩ free
  · rintro rfl
    obtain ⟨_, same⟩ | ⟨before, after, split, _⟩ := replace_cases new nonempty text
    · exact same
    · exact absurd ⟨before, after, by rw [split, List.append_assoc]⟩ whole

/-- A text becomes the replacement only if it is that or the part. -/
theorem replace_eq_new_iff (nonempty : old ≠ []) (some_new : new ≠ []) (whole : ¬ old <:+: new) :
    replace old new text = new ↔ text = old ∨ text = new := by
  constructor
  · intro became
    obtain ⟨_, same⟩ | ⟨before, after, split, replaced⟩ := replace_cases new nonempty text
    · exact .inr (same.symm.trans became)
    · left
      rw [replaced] at became
      have length := congrArg List.length became
      simp only [List.length_append] at length
      obtain rfl := List.eq_nil_of_length_eq_zero (show before.length = 0 by omega)
      have ended : replace old new after = [] :=
        List.eq_nil_of_length_eq_zero (by omega)
      rw [split, replace_eq_nil nonempty some_new ended, List.append_nil, List.nil_append]
  · rintro (rfl | rfl)
    · have replaced : replace text new (text ++ []) = new ++ [] := replace_append nonempty []
      rwa [List.append_nil, List.append_nil] at replaced
    · obtain ⟨_, same⟩ | ⟨before, after, split, _⟩ := replace_cases text nonempty text
      · exact same
      · exact absurd ⟨before, after, by rw [split, List.append_assoc]⟩ whole

section Foreign

/-- What begins the text begins the text after a replacement. -/
theorem prefix_replace_iff (foreign : ∀ c ∈ part, c ∉ old ∧ c ∉ new) (some_old : old ≠ [])
    (some_new : new ≠ []) : part <+: replace old new text ↔ part <+: text := by
  induction part generalizing text with
  | nil => exact iff_of_true List.nil_prefix List.nil_prefix
  | cons d part ih =>
      have apart {front rest : List α} (some_front : front ≠ []) (other : d ∉ front) :
          ¬ d :: part <+: front ++ rest := by
        intro first
        cases front with
        | nil => exact some_front rfl
        | cons c front =>
            obtain ⟨rfl, _⟩ := List.cons_prefix_cons.mp first
            exact other List.mem_cons_self
      obtain ⟨freeOld, freeNew⟩ := foreign d List.mem_cons_self
      cases text with
      | nil => exact Iff.rfl
      | cons c rest =>
          by_cases occurs : old <+: c :: rest
          · obtain ⟨after, whole⟩ := occurs
            rw [← whole, replace_append some_old]
            exact iff_of_false (apart some_new freeNew) (apart some_old freeOld)
          · rw [replace_cons occurs, List.cons_prefix_cons, List.cons_prefix_cons,
              ih fun e inside => foreign e (List.mem_cons_of_mem _ inside)]

/-- A replacement neither makes nor breaks a part that it has nothing to do with. -/
theorem infix_replace_iff (foreign : ∀ c ∈ part, c ∉ old ∧ c ∉ new) (some_old : old ≠ [])
    (some_new : new ≠ []) (nonempty : part ≠ []) :
    part <:+: replace old new text ↔ part <:+: text := by
  induction text using occurrences some_old with
  | nil => exact Iff.rfl
  | occurrence rest ih =>
      rw [replace_append some_old, infix_append_iff nonempty fun c inside => (foreign c inside).2,
        infix_append_iff nonempty fun c inside => (foreign c inside).1, ih]
  | other c rest other ih =>
      have first : part <+: replace old new (c :: rest) ↔ part <+: c :: rest :=
        prefix_replace_iff foreign some_old some_new
      rw [replace_cons other] at first ⊢
      rw [List.infix_cons_iff, List.infix_cons_iff, first, ih]

end Foreign

end Foundation.Replacement
