import Mathlib.Data.List.Basic

/-!
# Method resolution orders

A class hierarchy with the order in which the attributes of a class are looked up. The order
of a class merges those of its bases and keeps each of them, so a class that another one
derives from has a shorter order.
-/

namespace Foundation

variable {α : Type*} [DecidableEq α]

section Merge

/-- The first head that stands in no tail. -/
def nextHead (lists : List (List α)) : Option α :=
  (lists.filterMap List.head?).find? fun item => lists.all fun list => item ∉ list.tail

/-- Take an item off a list that it heads. -/
def dropHead (item : α) (list : List α) : List α :=
  if list.head? = some item then list.tail else list

/-- A merge of lists, in which they agree on the order of what they share. -/
inductive Merge : List (List α) → List α → Prop where
  | done {lists : List (List α)} (used : ∀ list ∈ lists, list = []) : Merge lists []
  | next {lists : List (List α)} {item : α} {merged : List α}
      (head : nextHead lists = some item)
      (rest : Merge (lists.map (dropHead item)) merged) : Merge lists (item :: merged)

namespace Merge

variable {lists : List (List α)} {merged : List α}

/-- A merge keeps each of the lists. -/
theorem sublist (merge : Merge lists merged) {list : List α} (member : list ∈ lists) :
    list.Sublist merged := by
  induction merge generalizing list with
  | done used => rw [used list member]
  | @next lists item merged head rest ih =>
      have kept := ih (List.mem_map_of_mem member)
      rw [dropHead] at kept
      split at kept
      · next heads =>
          obtain ⟨tail, rfl⟩ := List.head?_eq_some_iff.mp heads
          exact kept.cons_cons item
      · exact kept.cons item

private theorem exists_mem (merge : Merge lists merged) {item : α} (member : item ∈ merged) :
    ∃ list ∈ lists, item ∈ list := by
  induction merge with
  | done used => cases member
  | @next lists first merged head rest ih =>
      rcases List.mem_cons.mp member with same | later
      · obtain ⟨list, listed, heads⟩ := List.mem_filterMap.mp (List.mem_of_find?_eq_some head)
        exact ⟨list, listed, same ▸ List.mem_of_head? heads⟩
      · obtain ⟨shortened, listed, inside⟩ := ih later
        obtain ⟨list, original, rfl⟩ := List.mem_map.mp listed
        refine ⟨list, original, ?_⟩
        unfold dropHead at inside
        split at inside
        · exact List.mem_of_mem_tail inside
        · exact inside

end Merge

end Merge

/-- Classes with their bases, which are there before them, and their method resolution orders. -/
structure Hierarchy (α : Type*) [DecidableEq α] where
  bases : α → List α
  founded : WellFounded fun base klass => base ∈ bases klass
  mro : α → List α
  linear : ∀ klass, ∃ rest, mro klass = klass :: rest ∧
    Merge ((bases klass).map mro ++ [bases klass]) rest

namespace Hierarchy

variable (hierarchy : Hierarchy α)

/-- A class is a proper subclass of another. -/
def Derives (klass other : α) : Prop := other ∈ hierarchy.mro klass ∧ other ≠ klass

instance (klass other : α) : Decidable (hierarchy.Derives klass other) :=
  inferInstanceAs (Decidable (_ ∧ _))

variable {hierarchy} {klass other : α}

private theorem head_mro (klass : α) : (hierarchy.mro klass).head? = some klass := by
  obtain ⟨rest, order, -⟩ := hierarchy.linear klass
  rw [order]
  rfl

/-- The order of a class keeps those of all classes in it. -/
theorem mro_sublist (member : other ∈ hierarchy.mro klass) :
    (hierarchy.mro other).Sublist (hierarchy.mro klass) := by
  induction klass using hierarchy.founded.induction with
  | _ klass ih =>
      obtain ⟨rest, order, merge⟩ := hierarchy.linear klass
      rw [order] at member ⊢
      have above {base : α} (listed : base ∈ hierarchy.bases klass)
          (inside : other ∈ hierarchy.mro base) :
          (hierarchy.mro other).Sublist (klass :: rest) := by
        have kept : (hierarchy.mro base).Sublist rest :=
          merge.sublist (List.mem_append_left _ (List.mem_map_of_mem listed))
        exact ((ih base listed inside).trans kept).cons klass
      rcases List.mem_cons.mp member with rfl | later
      · rw [order]
      · obtain ⟨list, listed, inside⟩ := merge.exists_mem later
        rcases List.mem_append.mp listed with inherited | own
        · obtain ⟨base, isBase, rfl⟩ := List.mem_map.mp inherited
          exact above isBase inside
        · rw [List.mem_singleton.mp own] at inside
          exact above inside (List.mem_of_head? (head_mro other))

/-- A proper subclass has the longer method resolution order. -/
theorem Derives.length_lt (derives : hierarchy.Derives klass other) :
    (hierarchy.mro other).length < (hierarchy.mro klass).length := by
  obtain ⟨member, differs⟩ := derives
  have kept := mro_sublist member
  apply Nat.lt_of_le_of_ne kept.length_le
  intro same
  have heads : (hierarchy.mro other).head? = some other := head_mro other
  rw [kept.eq_of_length same, head_mro] at heads
  exact differs (Option.some.inj heads).symm

end Hierarchy

end Foundation
