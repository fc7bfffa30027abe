import BiothingsPulse.Foundation.ReadModifyWrite
import BiothingsPulse.Store.Base
import Mathlib.Data.List.Permutation

/-!
# Recordings from several threads

The scheduler's sweep, the startup sweep and the admin requests all record from
their own threads. Each `record_check` is one atomic `get` and, later, one
unconditional atomic `put`: the store's lock covers either operation but not the
pair. Recordings serialize as long as every `put` still finds the record its
call had read, and one overlap on a source is enough to lose a version.
-/

namespace BiothingsPulse

open Foundation.Transition Foundation.ReadModifyWrite

variable {Sched Url : Type}

/-- One call of `record_check`. -/
structure RecordRequest (Sched Url : Type) where
  source : SourceKey
  report : CheckReport Sched Url
  deriving DecidableEq, Repr

/-- The calls of `record_check` issued by the threads, as store operations. -/
def recordCalls [ToString Url] {Call : Type} (requests : Call → RecordRequest Sched Url) :
    Calls Call SourceKey (SourceState Sched) where
  key call := (requests call).source
  update call stored :=
    SourceState.recordCheck stored (requests call).source.repo (requests call).source.plugin
      (requests call).report

/-- The steps the threads can take: any interleaving of the calls' operations. -/
abbrev recordStep [ToString Url] {Call : Type} [DecidableEq Call]
    (requests : Call → RecordRequest Sched Url) :=
  ofFun (step (recordCalls requests))

/-- **Recordings serialize when no put is stale.** In every run of the threads
in which each put finds the record its call had read, once exactly the issued
calls have finished, the stored records are those of running the issued calls
one after the other in some order. -/
theorem record_serializable [ToString Url] {Call : Type} [DecidableEq Call]
    (requests : Call → RecordRequest Sched Url) (issued : List Call) (distinct : issued.Nodup)
    (start : SourceKey → Option (SourceState Sched)) (ops : List (Op Call))
    (final : State Call SourceKey (SourceState Sched))
    (run : Run (Guarded (Fresh (recordCalls requests)) (recordStep requests))
      (.initial start) ops final)
    (finished : ∀ call, (final.phase call).isDone = true ↔ call ∈ issued) :
    Serializable (recordCalls requests) issued start final.store :=
  serializable_of_fresh (recordCalls requests) distinct run finished

/-- Two successful checks of one source that detected different versions. -/
def racingRequests : Bool → RecordRequest String String
  | false => ⟨⟨"r", "s"⟩, { now := 1, pluginType := .manifest, detectedVersion := some "1" }⟩
  | true => ⟨⟨"r", "s"⟩, { now := 2, pluginType := .manifest, detectedVersion := some "2" }⟩

/-- The store operations of the two checks, one check at a time. -/
def alternatingOps : List (Op Bool) := [.get false, .put false, .get true, .put true]

/-- The state after the two checks, one at a time. -/
def alternatingFinal : State Bool SourceKey (SourceState String) :=
  (alternatingOps.foldlM (step (recordCalls racingRequests)) (.initial fun _ => none)).getD
    (.initial fun _ => none)

/-- Two checks that do not overlap are serializable. -/
theorem record_serializable_alternating :
    Serializable (recordCalls racingRequests) [false, true] (fun _ => none)
      alternatingFinal.store := by
  refine record_serializable racingRequests [false, true] (by decide) (fun _ => none)
    alternatingOps alternatingFinal (Run.of_guarded_foldlM rfl) ?_
  intro call
  cases call <;> exact ⟨fun _ => by decide, fun _ => rfl⟩

/-- The second call reads before the first one writes. -/
def racingOps : List (Op Bool) := [.get false, .get true, .put false, .put true]

/-- The state after the race. -/
def racingFinal : State Bool SourceKey (SourceState String) :=
  (racingOps.foldlM (step (recordCalls racingRequests)) (.initial fun _ => none)).getD
    (.initial fun _ => none)

/-- **A stale put loses a version.** The race finishes both calls, and what it
leaves is not what either order of the two calls leaves: the first call's
version is neither the current nor the last one. -/
theorem record_race_not_serializable :
    Run (recordStep racingRequests) (.initial fun _ => none) racingOps racingFinal ∧
      (∀ call, (racingFinal.phase call).isDone = true ↔ call ∈ [false, true]) ∧
      (racingFinal.store ⟨"r", "s"⟩).map (fun state => (state.currentVersion, state.lastVersion)) =
        some (some "2", none) ∧
      ¬ Serializable (recordCalls racingRequests) [false, true] (fun _ => none)
        racingFinal.store := by
  have computed : racingOps.foldlM (step (recordCalls racingRequests)) (.initial fun _ => none) =
      some racingFinal := rfl
  refine ⟨Run.of_foldlM computed, ?_, rfl, ?_⟩
  · intro call
    cases call <;> exact ⟨fun _ => by decide, fun _ => rfl⟩
  · rintro ⟨order, permuted, same⟩
    have lasts := congrArg (Option.map SourceState.lastVersion) (congrFun same ⟨"r", "s"⟩)
    have orders : order ∈ [false, true].permutations := List.mem_permutations.mpr permuted
    have cases : order = [false, true] ∨ order = [true, false] := by
      simpa [List.permutations] using orders
    rcases cases with rfl | rfl
    · exact absurd lasts (by decide)
    · exact absurd lasts (by decide)

end BiothingsPulse
