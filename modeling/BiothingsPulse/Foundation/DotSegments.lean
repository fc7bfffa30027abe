import Mathlib.Data.List.Induction

/-!
# Dot segments

A path is read segment by segment: a single dot stands for where the path is, and a double
dot takes back the segment before it. What counts as a dot is left to a reading of the
segments, so that paths of different texts can be compared.
-/

namespace Foundation.DotSegments

variable {α β : Type}

/-- How a segment of an address is read. -/
inductive SegmentKind where
  | ordinary
  | singleDot
  | doubleDot
  deriving DecidableEq

/-- The path after one more segment. -/
def descend (kind : α → SegmentKind) (path : List α) (segment : α) : List α :=
  match kind segment with
  | .ordinary => path ++ [segment]
  | .singleDot => path
  | .doubleDot => path.dropLast

/-- The path without dot segments; one at the end leaves the empty segment. -/
def resolve (kind : α → SegmentKind) (empty : α) (segments : List α) : List α :=
  let path := segments.foldl (descend kind) []
  match segments.getLast?.map kind with
  | some .singleDot | some .doubleDot => path ++ [empty]
  | _ => path

/-- Segments that are read alike are resolved alike. -/
theorem resolve_map {kind : α → SegmentKind} {other : β → SegmentKind} (f : β → α)
    (same : ∀ segment, kind (f segment) = other segment) {empty : β} (segments : List β) :
    resolve kind (f empty) (segments.map f) = (resolve other empty segments).map f := by
  have path : ∀ path : List β, (segments.map f).foldl (descend kind) (path.map f) =
      (segments.foldl (descend other) path).map f := by
    induction segments with
    | nil => exact fun _ => rfl
    | cons segment segments ih =>
        intro path
        have step : descend kind (path.map f) (f segment) = (descend other path segment).map f := by
          unfold descend
          rw [same]
          cases other segment <;> simp
        rw [List.map_cons, List.foldl_cons, List.foldl_cons, step, ih]
  have first := path []
  rw [List.map_nil] at first
  unfold resolve
  rw [first, List.getLast?_map, Option.map_map]
  have kinds : kind ∘ f = other := funext same
  rw [kinds]
  cases segments.getLast?.map other with
  | none => rfl
  | some last => cases last <;> simp

/-- Without dot segments a path stays as it is. -/
theorem resolve_ordinary {kind : α → SegmentKind} {empty : α} {segments : List α}
    (ordinary : ∀ segment ∈ segments, kind segment = .ordinary) :
    resolve kind empty segments = segments := by
  have path : ∀ path : List α, segments.foldl (descend kind) path = path ++ segments := by
    induction segments with
    | nil => simp
    | cons segment segments ih =>
        intro path
        have step : descend kind path segment = path ++ [segment] := by
          rw [descend, ordinary segment List.mem_cons_self]
        have rest := ih fun other later => ordinary other (List.mem_cons_of_mem _ later)
        rw [List.foldl_cons, step, rest]
        simp
  unfold resolve
  rw [path]
  cases last : segments.getLast? with
  | none => simp
  | some segment =>
      rw [Option.map_some, ordinary segment (List.mem_of_getLast? last)]
      simp

private theorem mem_descend {kind : α → SegmentKind} {path : List α} {segment next : α}
    (member : segment ∈ descend kind path next) :
    segment ∈ path ∨ segment = next ∧ kind segment = .ordinary := by
  unfold descend at member
  cases read : kind next with
  | ordinary =>
      rw [read] at member
      obtain earlier | last := List.mem_append.mp member
      · exact .inl earlier
      · obtain rfl := List.mem_singleton.mp last
        exact .inr ⟨rfl, read⟩
  | singleDot =>
      rw [read] at member
      exact .inl member
  | doubleDot =>
      rw [read] at member
      exact .inl (List.dropLast_subset _ member)

private theorem mem_foldl_descend {kind : α → SegmentKind} {segment : α} {segments path : List α}
    (member : segment ∈ segments.foldl (descend kind) path) :
    segment ∈ path ∨ segment ∈ segments ∧ kind segment = .ordinary := by
  induction segments generalizing path with
  | nil => exact .inl member
  | cons head segments ih =>
      obtain earlier | ⟨later, ordinary⟩ := ih member
      · refine (mem_descend earlier).imp id fun ⟨same, ordinary⟩ => ?_
        exact ⟨same ▸ List.mem_cons_self, ordinary⟩
      · exact .inr ⟨List.mem_cons_of_mem _ later, ordinary⟩

/-- A resolved path has ordinary segments of the address, and maybe the empty one. -/
theorem mem_resolve {kind : α → SegmentKind} {empty segment : α} {segments : List α}
    (member : segment ∈ resolve kind empty segments) :
    segment = empty ∨ segment ∈ segments ∧ kind segment = .ordinary := by
  have kept : segment ∈ segments.foldl (descend kind) [] →
      segment ∈ segments ∧ kind segment = .ordinary := fun inside =>
    (mem_foldl_descend inside).resolve_left List.not_mem_nil
  unfold resolve at member
  split at member
  · obtain inside | last := List.mem_append.mp member
    · exact .inr (kept inside)
    · exact .inl (List.mem_singleton.mp last)
  · obtain inside | last := List.mem_append.mp member
    · exact .inr (kept inside)
    · exact .inl (List.mem_singleton.mp last)
  · exact .inr (kept member)

end Foundation.DotSegments
