import BiothingsPulse.Config
import Mathlib.Data.List.Nodup
import Mathlib.Data.String.Basic

/-!
# The plugin catalog

A dict from catalog key to discovered plugin, in insertion order. It lists in the
order of its keys.
-/

namespace BiothingsPulse

/-- The discovered plugins, one for each key. -/
structure Catalog where
  refs : List PluginRef
  nodup : (refs.map PluginRef.key).Nodup

namespace Catalog

def empty : Catalog := ⟨[], List.nodup_nil⟩

variable (catalog : Catalog)

/-- `catalog[ref.key] = ref`: a key keeps the place it was first inserted at. -/
def insert (ref : PluginRef) : Catalog where
  refs :=
    if ref.key ∈ catalog.refs.map PluginRef.key then
      catalog.refs.map fun other => if other.key = ref.key then ref else other
    else catalog.refs ++ [ref]
  nodup := by
    split
    · have keys : PluginRef.key ∘ (fun other => if other.key = ref.key then ref else other) =
          PluginRef.key := by
        funext other
        change (if other.key = ref.key then ref else other).key = other.key
        split
        · exact Eq.symm ‹_›
        · rfl
      rw [List.map_map, keys]
      exact catalog.nodup
    · rename_i fresh
      rw [List.map_append, List.nodup_append]
      refine ⟨catalog.nodup, List.nodup_singleton _, ?_⟩
      intro key member other single equal
      rw [List.map_singleton, List.mem_singleton] at single
      exact fresh (single ▸ equal ▸ member)

/-- `self._catalog.get(key)`. -/
def get? (key : String) : Option PluginRef :=
  catalog.refs.find? fun ref => ref.key = key

/-- A lookup finds the entry that has the key. -/
theorem get?_eq_some_iff {catalog : Catalog} {key : String} {entry : PluginRef} :
    catalog.get? key = some entry ↔ entry ∈ catalog.refs ∧ entry.key = key := by
  constructor
  · intro found
    have keyed := List.find?_some found
    exact ⟨List.mem_of_find?_eq_some found, of_decide_eq_true keyed⟩
  · rintro ⟨listed, rfl⟩
    cases found : catalog.get? entry.key with
    | none =>
        have absent := List.find?_eq_none.mp found entry listed
        exact absurd (decide_eq_true rfl) absent
    | some other =>
        have keyed := List.find?_some found
        exact congrArg some (List.inj_on_of_nodup_map catalog.nodup
          (List.mem_of_find?_eq_some found) listed (of_decide_eq_true keyed))

/-- The plugins sorted by key. -/
def list : List PluginRef :=
  catalog.refs.mergeSort fun first second => first.key ≤ second.key

/-- A catalog lists its sources, in another order. -/
theorem list_perm : catalog.list.Perm catalog.refs := List.mergeSort_perm _ _

/-- Distinct entries of the listing have distinct keys. -/
theorem list_nodup : (catalog.list.map PluginRef.key).Nodup :=
  (catalog.list_perm.map _).nodup_iff.mpr catalog.nodup

end Catalog

/-- Plugins with distinct catalog keys have distinct state records. -/
theorem PluginRef.eq_of_source_eq {refs : List PluginRef} (nodup : (refs.map key).Nodup)
    {first second : PluginRef} (left : first ∈ refs) (right : second ∈ refs)
    (same : first.source = second.source) : first = second := by
  have keys : first.key = second.key := by
    obtain ⟨repo, name⟩ := SourceKey.mk.inj same
    rw [key, key, repo, name]
  exact List.inj_on_of_nodup_map nodup left right keys

end BiothingsPulse
