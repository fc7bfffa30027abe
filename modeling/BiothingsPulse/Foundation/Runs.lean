import Mathlib.Data.List.SplitBy

/-!
# Maximal runs of equal keys

A finite sequence splits into maximal runs of consecutive elements whose keys
agree. The opening element of the last run and that of the run before it are the
two facts a recorder of changes keeps; they are characterised here by how they
move when one element is appended, so that a fold over a history can be compared
with the runs of the whole history.
-/

namespace Foundation.Runs

variable {α κ : Type} [DecidableEq κ] (key : α → κ)

/-- The maximal runs of consecutive elements with the same key, in order. -/
def runs (history : List α) : List (List α) :=
  history.splitBy fun left right => key left == key right

/-- The first element of the last run. -/
def opening (history : List α) : Option α :=
  (runs key history).getLast?.bind List.head?

/-- The first element of the run just before the last one. -/
def openingBefore (history : List α) : Option α :=
  (runs key history).dropLast.getLast?.bind List.head?

/-- The opening of a history is in it. -/
theorem mem_of_opening {history : List α} {first : α} (opens : opening key history = some first) :
    first ∈ history := by
  obtain ⟨run, last, head⟩ := Option.bind_eq_some_iff.mp opens
  rw [← List.flatten_splitBy (fun left right => key left == key right) history]
  exact List.mem_flatten.mpr ⟨run, List.mem_of_getLast? last, List.mem_of_head? head⟩

/-- All elements of one run have the key of its first element. -/
theorem key_of_mem_run {history run : List α} (member : run ∈ runs key history)
    {first other : α} (head : run.head? = some first) (inside : other ∈ run) :
    key other = key first := by
  have chained := List.isChain_of_mem_splitBy member
  obtain ⟨rest, rfl⟩ : ∃ rest, run = first :: rest := by
    cases run with
    | nil => cases head
    | cons start rest => exact ⟨rest, by rw [Option.some.inj head]⟩
  have pairwise : (first :: rest).Pairwise fun left right => key left = key right := by
    apply List.isChain_iff_pairwise.mp
    exact chained.imp fun left right same => by simpa using same
  rcases List.mem_cons.mp inside with rfl | later
  · rfl
  · exact ((List.pairwise_cons.mp pairwise).1 other later).symm

/-- An element whose key differs from the last one opens a run of its own. -/
theorem runs_append_of_ne {history : List α} {next : α}
    (fresh : ∀ previous ∈ history.getLast?, key previous ≠ key next) :
    runs key (history ++ [next]) = runs key history ++ [[next]] := by
  unfold runs
  rw [List.splitBy_append_cons]
  · rfl
  · intro previous last
    simpa using fresh previous last

/-- An element with the key of the last one extends the last run. -/
theorem runs_append_of_eq {history : List α} {previous next : α}
    (last : history.getLast? = some previous) (same : key previous = key next) :
    ∃ before run, runs key history = before ++ [run] ∧ run ≠ [] ∧
      runs key (history ++ [next]) = before ++ [run ++ [next]] := by
  have nonempty : history ≠ [] := by
    rintro rfl
    cases last
  have runsNonempty : runs key history ≠ [] := List.splitBy_ne_nil.mpr nonempty
  obtain ⟨before, run, split⟩ := (List.eq_nil_or_concat' (runs key history)).resolve_left
    runsNonempty
  have member : run ∈ runs key history := by rw [split]; simp
  have runNonempty : run ≠ [] := List.ne_nil_of_mem_splitBy member
  have lastOfRun : run.getLast? = some previous := by
    have joined := List.flatten_splitBy (fun left right => key left == key right) history
    change (runs key history).flatten = history at joined
    rw [split, List.flatten_append] at joined
    rw [← joined] at last
    simpa [List.getLast?_append, runNonempty] using last
  refine ⟨before, run, split, runNonempty, ?_⟩
  obtain ⟨joined, noNil, chains, seams⟩ := List.splitBy_eq_iff.mp split
  refine List.splitBy_eq_iff.mpr ⟨?_, ?_, ?_, ?_⟩
  · rw [joined]
    simp
  · intro empty
    rcases List.mem_append.mp empty with old | new
    · exact noNil (List.mem_append_left _ old)
    · simp at new
  · intro piece inside
    rcases List.mem_append.mp inside with old | new
    · exact chains piece (List.mem_append_left _ old)
    · rw [List.mem_singleton] at new
      subst new
      refine List.isChain_append.mpr ⟨chains run (by simp), List.isChain_singleton _, ?_⟩
      intro x atEnd y atStart
      rw [lastOfRun, Option.mem_some_iff] at atEnd
      simp only [List.head?_cons, Option.mem_some_iff] at atStart
      subst atEnd atStart
      simpa using same
  · rw [List.isChain_append] at seams ⊢
    refine ⟨seams.1, List.isChain_singleton _, ?_⟩
    intro x atEnd y atStart
    simp only [List.head?_cons, Option.mem_some_iff] at atStart
    subst atStart
    obtain ⟨xNonempty, _, differ⟩ := seams.2.2 x atEnd run (by simp)
    exact ⟨xNonempty, by simp, by rwa [List.head_append_of_ne_nil runNonempty]⟩

/-- The last run's opening element carries the key of the last element. -/
theorem opening_key (history : List α) :
    (opening key history).map key = history.getLast?.map key := by
  rcases List.eq_nil_or_concat' history with rfl | ⟨earlier, last, rfl⟩
  · rfl
  · have nonempty : runs key (earlier ++ [last]) ≠ [] :=
      List.splitBy_ne_nil.mpr (by simp)
    obtain ⟨before, run, split⟩ :=
      (List.eq_nil_or_concat' (runs key (earlier ++ [last]))).resolve_left nonempty
    have member : run ∈ runs key (earlier ++ [last]) := by rw [split]; simp
    have runNonempty : run ≠ [] := List.ne_nil_of_mem_splitBy member
    obtain ⟨first, rest, rfl⟩ := List.exists_cons_of_ne_nil runNonempty
    have inside : last ∈ first :: rest := by
      have joined := List.flatten_splitBy (fun left right => key left == key right)
        (earlier ++ [last])
      change (runs key (earlier ++ [last])).flatten = earlier ++ [last] at joined
      rw [split, List.flatten_append] at joined
      have lasts := congrArg List.getLast? joined
      simp only [List.flatten_cons, List.flatten_nil, List.append_nil,
        List.getLast?_append, List.getLast?_singleton, Option.some_or] at lasts
      rw [List.getLast?_eq_some_getLast runNonempty, Option.some_or, Option.some.injEq] at lasts
      rw [← lasts]
      exact List.getLast_mem runNonempty
    have same := key_of_mem_run key member rfl inside
    simp [opening, split, same]

/-- An element with a new key becomes the opening of the last run, and the old
opening moves to the run before it. -/
theorem opening_append_of_ne {history : List α} {next : α}
    (fresh : (opening key history).map key ≠ some (key next)) :
    opening key (history ++ [next]) = some next ∧
      openingBefore key (history ++ [next]) = opening key history := by
  have differs : ∀ previous ∈ history.getLast?, key previous ≠ key next := by
    intro previous last same
    apply fresh
    rw [opening_key, Option.mem_def.mp last, Option.map_some, same]
  simp [opening, openingBefore, runs_append_of_ne key differs]

/-- An element with the key of the last run changes neither opening. -/
theorem opening_append_of_eq {history : List α} {next : α}
    (same : (opening key history).map key = some (key next)) :
    opening key (history ++ [next]) = opening key history ∧
      openingBefore key (history ++ [next]) = openingBefore key history := by
  rw [opening_key] at same
  obtain ⟨previous, last, keys⟩ := Option.map_eq_some_iff.mp same
  obtain ⟨before, run, split, nonempty, appended⟩ := runs_append_of_eq key last keys
  constructor
  · simp [opening, split, appended, List.head?_append, List.head?_eq_some_head nonempty]
  · simp [openingBefore, split, appended]

/-- Two adjacent runs have different keys. -/
theorem opening_ne_openingBefore {history : List α} {current previous : α}
    (last : opening key history = some current)
    (before : openingBefore key history = some previous) : key previous ≠ key current := by
  induction history using List.reverseRecOn with
  | nil => cases last
  | append_singleton earlier next ih =>
      by_cases same : (opening key earlier).map key = some (key next)
      · obtain ⟨keepsLast, keepsBefore⟩ := opening_append_of_eq key same
        exact ih (keepsLast ▸ last) (keepsBefore ▸ before)
      · obtain ⟨opens, moves⟩ := opening_append_of_ne key same
        rw [opens, Option.some.injEq] at last
        rw [moves] at before
        subst last
        intro keys
        exact same (by rw [before, Option.map_some, keys])

end Foundation.Runs
