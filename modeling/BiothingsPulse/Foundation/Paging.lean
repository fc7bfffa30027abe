import Mathlib.Data.List.Basic

/-!
# Listings in pages

A listing that is answered page by page: each page but the last comes with a cursor
from which the next request resumes. The loop that follows the cursors collects the
items of all pages, each page once and in order, however the items are split.
-/

namespace Foundation.Paging

variable {κ α β : Type*}

/-- The answer to one request, with the cursor to resume from unless it is the last. -/
structure Page (κ α : Type*) where
  items : List α
  last : Option κ

/-- The pages that are answered from a cursor on. -/
inductive Scans (scan : Option κ → Page κ α) : Option κ → List (List α) → Prop where
  | last {start : Option κ} {items : List α} (answered : scan start = ⟨items, none⟩) :
      Scans scan start [items]
  | more {start : Option κ} {next : κ} {items : List α} {pages : List (List α)}
      (answered : scan start = ⟨items, some next⟩) (rest : Scans scan (some next) pages) :
      Scans scan start (items :: pages)

/-- Request page after page, keeping of each item what is wanted; `none` if the fuel does
not last. -/
def gather (scan : Option κ → Page κ α) (keep : α → Option β) :
    ℕ → Option κ → List β → Option (List β)
  | 0, _, _ => none
  | fuel + 1, start, kept =>
      let page := scan start
      let kept := kept ++ page.items.filterMap keep
      match page.last with
      | none => some kept
      | some next => gather scan keep fuel (some next) kept

/-- With as much fuel as there are pages, the loop keeps what is wanted of all items. -/
theorem gather_of_scans {scan : Option κ → Page κ α} {start : Option κ} {pages : List (List α)}
    (scans : Scans scan start pages) (keep : α → Option β) {fuel : ℕ}
    (enough : pages.length ≤ fuel) (kept : List β) :
    gather scan keep fuel start kept = some (kept ++ pages.flatten.filterMap keep) := by
  induction scans generalizing fuel kept with
  | last answered =>
      obtain ⟨fuel, rfl⟩ := Nat.exists_eq_add_of_le' enough
      simp [gather, answered]
  | more answered _ ih =>
      cases fuel with
      | zero => cases enough
      | succ fuel =>
          simp only [gather, answered]
          rw [ih (Nat.le_of_succ_le_succ enough), List.flatten_cons, List.filterMap_append,
            List.append_assoc]

end Foundation.Paging
