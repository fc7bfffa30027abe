import BiothingsPulse.Service.Operations
import Mathlib.Data.List.Infix
import Mathlib.Data.List.Perm.Subperm

/-!
# What a sweep owes to each selected source

A sweep submits the checks of the selected sources and then collects them one by
one. The collecting loop handles the timeout and nothing else, so it leaves at the
first future that raises another exception, and at the first record that cannot be
persisted. Everything a source is owed (`RecordedOnce`) therefore depends on the
sources before it.
-/

namespace BiothingsPulse

open Foundation

namespace CheckOutcome

/-- The results with which an outcome may be recorded: its own, or an error. -/
def Admits : CheckOutcome → CheckResult → Prop
  | .returned own, result => result = own
  | .timedOut, result => result.status = .error
  | .raised _, result => result.status = .error

/-- Whether waiting for the future raises something that the collector does not
handle. -/
def escapes : CheckOutcome → Bool
  | .raised exc => exc.kind ≠ .timeout
  | _ => false

/-- Whether the outcome has a trusted schedule that JSON cannot represent. -/
def unwritable : CheckOutcome → Bool
  | .returned result =>
      (result.status = .ok ∨ result.status = .unsupported) &&
        !PyValue.representable result.schedule
  | _ => false

/-- The outcome of a check that finishes in time. -/
def ofCheck : Except PyExc CheckResult → CheckOutcome
  | .ok result => .returned result
  | .error exc => .raised exc

private theorem collect_isOk (message : String) (outcome : CheckOutcome) :
    (outcome.collect message).isOk = !outcome.escapes := by
  unfold collect escapes
  cases outcome with
  | returned result => rfl
  | timedOut => rfl
  | raised exc =>
      by_cases timeout : exc.kind = .timeout <;> simp [timeout, Except.isOk, Except.toBool]

/-- A collected result is the check's own, or stands for a timeout. -/
theorem collect_cases {message : String} {outcome : CheckOutcome} {result : CheckResult}
    (collected : outcome.collect message = .ok result) :
    outcome = .returned result ∨
      (outcome = .timedOut ∨ ∃ exc, outcome = .raised exc) ∧ result = timeoutResult message := by
  cases outcome with
  | returned own => exact .inl (congrArg returned (Except.ok.inj collected))
  | timedOut => exact .inr ⟨.inl rfl, (Except.ok.inj collected).symm⟩
  | raised exc =>
      simp only [collect] at collected
      split at collected
      · exact .inr ⟨.inr ⟨exc, rfl⟩, (Except.ok.inj collected).symm⟩
      · cases collected

/-- What is collected of a check is a result that its outcome admits. -/
theorem collect_admits {message : String} {outcome : CheckOutcome} {result : CheckResult}
    (collected : outcome.collect message = .ok result) : outcome.Admits result := by
  obtain rfl | ⟨rfl | ⟨exc, rfl⟩, rfl⟩ := collect_cases collected
  · exact rfl
  · exact rfl
  · exact rfl

/-- The report of a collected result trusts an unrepresentable schedule exactly when
the outcome is unwritable. -/
theorem collect_unwritable {message : String} {outcome : CheckOutcome} {result : CheckResult}
    (collected : outcome.collect message = .ok result) (ref : PluginRef) (now : Time) :
    ((result.report ref now).loaded && !PyValue.representable (result.report ref now).schedule) =
      outcome.unwritable := by
  obtain rfl | ⟨rfl | ⟨exc, rfl⟩, rfl⟩ := collect_cases collected
  · rfl
  · rfl
  · rfl

end CheckOutcome

/-- Whether persisting a source's outcome raises. -/
def World.recordFails (world : World) (ref : PluginRef) : Bool :=
  (world.storeFault ref.source).isSome || (world.check ref).unwritable

/-- Whether the collecting loop leaves at a source. -/
def World.stops (world : World) (ref : PluginRef) : Bool :=
  (world.check ref).escapes || world.recordFails ref

/-- The results recorded for a source, in order. -/
def recordingsOf (ref : PluginRef) (log : List Activity) : List CheckResult :=
  log.filterMap fun activity =>
    match activity with
    | .record other result => if other = ref then some result else none
    | _ => none

@[simp] private theorem recordingsOf_append (ref : PluginRef) (first second : List Activity) :
    recordingsOf ref (first ++ second) = recordingsOf ref first ++ recordingsOf ref second :=
  List.filterMap_append

@[simp] private theorem recordingsOf_checks (ref : PluginRef) (refs : List PluginRef) :
    recordingsOf ref (refs.map .check) = [] := by
  simp [recordingsOf]

namespace PulseService

variable {codec : StateCodec}

/-- **What a sweep owes a selected source.** `record_check` is applied to it exactly
once, with the source's own outcome, and its record is the one this recording makes
of the record it had before the sweep. -/
def RecordedOnce (world : World) (before after : PulseService codec) (ref : PluginRef) : Prop :=
  ∃ result, (world.check ref).Admits result ∧
    recordingsOf ref (after.log.drop before.log.length) = [result] ∧
    after.store.rows ref.source = (before.record world ref result).2.store.rows ref.source

section Record

variable (world : World) (ref : PluginRef) (result : CheckResult) (service : PulseService codec)

private theorem record_of_fault {exc : PyExc} (fault : world.storeFault ref.source = some exc) :
    service.record world ref result = (.error exc, service.note [.record ref result]) := by
  simp only [record, fault]

/-- A report that cannot be stored is noted, and raises. -/
theorem record_of_error {exc : PyExc} (sound : world.storeFault ref.source = none)
    (raised : service.store.record ref result (world.recordClock ref) = .error exc) :
    service.record world ref result = (.error exc, service.note [.record ref result]) := by
  simp only [record, sound, note_store, raised]

/-- A report that can be stored is noted and stored. -/
theorem record_of_ok {state : SourceState PyValue} {store : DocStore codec}
    (sound : world.storeFault ref.source = none)
    (recorded : service.store.record ref result (world.recordClock ref) = .ok (state, store)) :
    service.record world ref result =
      (.ok state, { service.note [.record ref result] with store := store }) := by
  simp only [record, sound, note_store, recorded]

/-- The cases of persisting an outcome: the database raises, the serialiser raises,
or the record is written. -/
theorem record_cases {motive : Except PyExc (SourceState PyValue) × PulseService codec → Prop}
    (fault : ∀ exc, world.storeFault ref.source = some exc →
      motive (.error exc, service.note [.record ref result]))
    (error : ∀ exc, world.storeFault ref.source = none →
      service.store.record ref result (world.recordClock ref) = .error exc →
      motive (.error exc, service.note [.record ref result]))
    (ok : ∀ state store, world.storeFault ref.source = none →
      service.store.record ref result (world.recordClock ref) = .ok (state, store) →
      motive (.ok state, { service.note [.record ref result] with store := store })) :
    motive (service.record world ref result) := by
  cases sound : world.storeFault ref.source with
  | some exc =>
      rw [record_of_fault world ref result service sound]
      exact fault exc sound
  | none =>
      cases recorded : service.store.record ref result (world.recordClock ref) with
      | error exc =>
          rw [record_of_error world ref result service sound recorded]
          exact error exc sound recorded
      | ok written =>
          rw [record_of_ok world ref result service sound recorded]
          exact ok _ _ sound recorded

private theorem record_log :
    (service.record world ref result).2.log = service.log ++ [.record ref result] :=
  record_cases world ref result service (motive := fun recorded =>
      recorded.2.log = service.log ++ [.record ref result])
    (fun _ _ => rfl) (fun _ _ _ => rfl) (fun _ _ _ _ => rfl)

/-- A report is recorded unless the database fails or the schedule cannot be written. -/
theorem record_isOk :
    (service.record world ref result).1.isOk =
      ((world.storeFault ref.source).isNone &&
        !((result.report ref (world.recordClock ref)).loaded &&
          !PyValue.representable (result.report ref (world.recordClock ref)).schedule)) := by
  rw [← DocStore.recordCheck_isOk service.store ref.source]
  refine record_cases world ref result service (motive := fun recorded =>
    recorded.1.isOk = ((world.storeFault ref.source).isNone && (service.store.recordCheck
      ref.source (result.report ref (world.recordClock ref))).isOk)) ?_ ?_ ?_
  · intro exc fault
    rw [fault]
    rfl
  · intro exc sound raised
    rw [sound, show service.store.recordCheck _ _ = _ from raised]
    rfl
  · intro state store sound recorded
    rw [sound, show service.store.recordCheck _ _ = _ from recorded]
    rfl

/-- Recording a source leaves the rows of the others alone. -/
theorem record_frame {other : SourceKey} (different : other ≠ ref.source) :
    (service.record world ref result).2.store.rows other = service.store.rows other :=
  record_cases world ref result service (motive := fun recorded =>
      recorded.2.store.rows other = service.store.rows other)
    (fun _ _ => rfl) (fun _ _ _ => rfl)
    (fun _ _ _ recorded => DocStore.recordCheck_frame recorded different)

/-- The row that a recording leaves under its source. -/
theorem record_row :
    (service.record world ref result).2.store.rows ref.source =
      if (world.storeFault ref.source).isSome then service.store.rows ref.source
      else match codec.modelDumpJson
          (service.store.stateAfter ref.source (result.report ref (world.recordClock ref))) with
        | .ok doc => some doc
        | .error _ => service.store.rows ref.source := by
  have row := DocStore.recordCheck_row service.store ref.source
    (result.report ref (world.recordClock ref))
  refine record_cases world ref result service (motive := fun recorded =>
    recorded.2.store.rows ref.source = _) ?_ ?_ ?_
  · intro exc fault
    rw [fault]
    rfl
  · intro exc sound raised
    rw [show service.store.recordCheck _ _ = _ from raised] at row
    rw [sound]
    cases dumped : codec.modelDumpJson (service.store.stateAfter ref.source
        (result.report ref (world.recordClock ref))) with
    | error exc => rfl
    | ok doc => rw [dumped] at row; cases row
  · intro state store sound recorded
    rw [show service.store.recordCheck _ _ = _ from recorded] at row
    rw [sound]
    cases dumped : codec.modelDumpJson (service.store.stateAfter ref.source
        (result.report ref (world.recordClock ref))) with
    | error exc => rw [dumped] at row; cases row
    | ok doc =>
        rw [dumped] at row
        exact Except.ok.inj row

/-- The row that a recording leaves depends on the row it found. -/
theorem record_row_congr {service other : PulseService codec}
    (same : service.store.rows ref.source = other.store.rows ref.source) :
    (service.record world ref result).2.store.rows ref.source =
      (other.record world ref result).2.store.rows ref.source := by
  rw [record_row, record_row, DocStore.stateAfter, DocStore.stateAfter, DocStore.get, DocStore.get,
    same]

end Record

section Collecting

variable (world : World) {refs : List PluginRef} {ref : PluginRef}

/-- The future found under a source's key is its own check's. -/
theorem future_eq (distinct : (refs.map PluginRef.key).Nodup) (member : ref ∈ refs) :
    future world refs ref.key = some (world.check ref) := by
  have only : ∀ other ∈ refs.filter (fun other => other.key = ref.key), other = ref := by
    intro other passes
    obtain ⟨listed, same⟩ := List.mem_filter.mp passes
    exact List.inj_on_of_nodup_map distinct listed member (of_decide_eq_true same)
  have nonempty : refs.filter (fun other => other.key = ref.key) ≠ [] :=
    List.ne_nil_of_mem (List.mem_filter.mpr ⟨member, decide_eq_true rfl⟩)
  rw [future, List.getLast?_eq_some_getLast nonempty, only _ (List.getLast_mem nonempty)]
  rfl

/-- What collecting a source appends to the log. -/
def collectedLog (ref : PluginRef) : List Activity :=
  match (world.check ref).collect "check timed out" with
  | .ok result => [.record ref result]
  | .error _ => []

section Own

variable (distinct : (refs.map PluginRef.key).Nodup) (member : ref ∈ refs)
  (service : PulseService codec)

include distinct member

/-- A check whose exception is not caught ends the sweep. -/
theorem collectOne_of_error {exc : PyExc}
    (raised : (world.check ref).collect "check timed out" = .error exc) :
    collectOne world refs ref service = (.error exc, service) := by
  simp only [collectOne, future_eq world distinct member, raised]

/-- What is collected of a check is recorded. -/
theorem collectOne_of_ok {result : CheckResult}
    (collected : (world.check ref).collect "check timed out" = .ok result) :
    collectOne world refs ref service =
      ((service.record world ref result).1.map fun _ => (),
        (service.record world ref result).2) := by
  simp only [collectOne, future_eq world distinct member, collected]
  rcases service.record world ref result with ⟨_ | _, _⟩ <;> rfl

private theorem collectOne_log :
    (collectOne world refs ref service).2.log = service.log ++ collectedLog world ref := by
  cases collected : (world.check ref).collect "check timed out" with
  | error exc =>
      rw [collectOne_of_error world distinct member service collected, collectedLog, collected]
      exact (List.append_nil _).symm
  | ok result =>
      rw [collectOne_of_ok world distinct member service collected, collectedLog, collected]
      exact record_log world ref result service

/-- Collecting a check succeeds unless the check stops the sweep. -/
theorem collectOne_isOk :
    (collectOne world refs ref service).1.isOk = !world.stops ref := by
  have handled := CheckOutcome.collect_isOk "check timed out" (world.check ref)
  rw [World.stops, Bool.not_or, ← handled]
  cases collected : (world.check ref).collect "check timed out" with
  | error exc =>
      rw [collectOne_of_error world distinct member service collected]
      rfl
  | ok result =>
      have persisted := record_isOk world ref result service
      rw [CheckOutcome.collect_unwritable collected] at persisted
      rw [collectOne_of_ok world distinct member service collected, World.recordFails,
        Bool.not_or, Option.not_isSome, ← persisted]
      cases (service.record world ref result).1 <;> rfl

private theorem collectOne_frame {other : SourceKey} (different : other ≠ ref.source) :
    (collectOne world refs ref service).2.store.rows other = service.store.rows other := by
  cases collected : (world.check ref).collect "check timed out" with
  | error exc => rw [collectOne_of_error world distinct member service collected]
  | ok result =>
      rw [collectOne_of_ok world distinct member service collected]
      exact record_frame world ref result service different

end Own

/-- A sweep leaves the service that its collecting loop leaves. -/
theorem checkRefs_snd (service : PulseService codec) :
    (service.checkRefs world refs).2 =
      (Loop.forEach (collectOne world refs) refs (service.note (refs.map .check))).2 := by
  unfold checkRefs
  rcases Loop.forEach (collectOne world refs) refs (service.note (refs.map .check)) with
    ⟨_ | _, _⟩ <;> rfl

/-- The sources at which the loop over distinct keys arrives appear in the log. -/
theorem checkRefs_log (distinct : (refs.map PluginRef.key).Nodup)
    (service : PulseService codec) :
    (service.checkRefs world refs).2.log = service.log ++ refs.map .check ++
      (Loop.reached world.stops refs).flatMap (collectedLog world) := by
  rw [checkRefs_snd, ← note_log service (refs.map .check)]
  exact Loop.forEach_log PulseService.log (collectedLog world)
    (fun ref member => collectOne_isOk world distinct member)
    (fun ref member => collectOne_log world distinct member) (service.note (refs.map .check))

private theorem recordingsOf_collectedLog_of_ne {other : PluginRef} (different : other ≠ ref) :
    recordingsOf ref (collectedLog world other) = [] := by
  unfold collectedLog
  cases (world.check other).collect "check timed out" with
  | error exc => rfl
  | ok result => simp [recordingsOf, different]

/-- Among distinct sources, a source's recordings come from its own turn. -/
theorem recordingsOf_collected {visited : List PluginRef} (distinct : visited.Nodup) :
    recordingsOf ref (visited.flatMap (collectedLog world)) =
      if ref ∈ visited then recordingsOf ref (collectedLog world ref) else [] := by
  induction visited with
  | nil => rfl
  | cons first rest ih =>
      obtain ⟨fresh, others⟩ := List.nodup_cons.mp distinct
      rw [List.flatMap_cons, recordingsOf_append, ih others]
      by_cases same : first = ref
      · subst same
        rw [if_neg fresh, if_pos List.mem_cons_self, List.append_nil]
      · rw [recordingsOf_collectedLog_of_ne world same, List.nil_append]
        have elsewhere : ref ∈ first :: rest ↔ ref ∈ rest := by
          rw [List.mem_cons, or_iff_right (Ne.symm same)]
        simp only [elsewhere]

private theorem recordingsOf_own (ref : PluginRef) :
    recordingsOf ref (collectedLog world ref) =
      ((world.check ref).collect "check timed out").toOption.toList := by
  unfold collectedLog
  cases (world.check ref).collect "check timed out" with
  | error exc => rfl
  | ok result => simp [recordingsOf, Except.toOption]

/-- The new part of the log after a sweep, as far as it records a given source. -/
theorem recordingsOf_checkRefs (distinct : (refs.map PluginRef.key).Nodup)
    (service : PulseService codec) :
    recordingsOf ref ((service.checkRefs world refs).2.log.drop service.log.length) =
      if ref ∈ Loop.reached world.stops refs then
        ((world.check ref).collect "check timed out").toOption.toList
      else [] := by
  have visited : (Loop.reached world.stops refs).Nodup :=
    (Loop.reached_prefix refs).sublist.nodup (List.Nodup.of_map _ distinct)
  rw [checkRefs_log world distinct, List.append_assoc, List.drop_left, recordingsOf_append,
    recordingsOf_checks, List.nil_append, recordingsOf_collected world visited, recordingsOf_own]

/-- A source that the loop reaches gets the row its own recording makes of the row it
had: the rounds before and after its own leave that row alone. -/
theorem checkRefs_row (distinct : (refs.map PluginRef.key).Nodup) (member : ref ∈ refs)
    (goes : ∀ other ∈ refs.dropLast, world.stops other = false) {result : CheckResult}
    (collected : (world.check ref).collect "check timed out" = .ok result)
    (service : PulseService codec) :
    (service.checkRefs world refs).2.store.rows ref.source =
      (service.record world ref result).2.store.rows ref.source := by
  obtain ⟨before, after, rfl⟩ := List.append_of_mem member
  have isolated : ∀ other ∈ before ++ after, ref.source ≠ other.source := by
    intro other listed same
    have equal := PluginRef.eq_of_source_eq distinct member
      (List.perm_middle.mem_iff.mpr (List.mem_cons_of_mem ref listed)) same
    exact (List.nodup_middle.mp (List.Nodup.of_map _ distinct)).notMem (equal ▸ listed)
  have framed : ∀ part : List PluginRef, part ⊆ before ++ after →
      ∀ service : PulseService codec,
        (Loop.forEach (collectOne world (before ++ ref :: after)) part service).2.store.rows
          ref.source = service.store.rows ref.source := by
    intro part listed service
    refine Loop.forEach_frame (fun service => service.store.rows ref.source) part ?_ service
    intro other inside state
    exact collectOne_frame world distinct
      (List.perm_middle.mem_iff.mpr (List.mem_cons_of_mem ref (listed inside))) state
      (isolated other (listed inside))
  rw [checkRefs_snd, Loop.forEach_append]
  · -- The own round sees the row as it was; what follows it keeps the row it leaves.
    have own := collectOne_of_ok world distinct member
      (Loop.forEach (collectOne world (before ++ ref :: after)) before
        (service.note ((before ++ ref :: after).map .check))).2 collected
    have kept : _ = service.store.rows ref.source := framed before
      (List.subset_append_left _ _) (service.note ((before ++ ref :: after).map .check))
    refine Eq.trans ?_ (record_row_congr world ref result kept)
    rcases ran : collectOne world (before ++ ref :: after) ref
      (Loop.forEach (collectOne world (before ++ ref :: after)) before
        (service.note ((before ++ ref :: after).map .check))).2 with ⟨_ | _, next⟩
    · rw [Loop.forEach_cons_of_error ran]
      rw [own] at ran
      rw [(Prod.mk.inj ran).2]
    · rw [Loop.forEach_cons_of_ok ran, framed after (List.subset_append_right _ _)]
      rw [own] at ran
      rw [(Prod.mk.inj ran).2]
  · intro other inside state
    rw [collectOne_isOk world distinct (List.mem_append_left _ inside), goes other]
    · rfl
    · rw [List.dropLast_append_of_ne_nil (List.cons_ne_nil _ _)]
      exact List.mem_append_left _ inside

/-- A sweep gives every selected source what it owes exactly when no check raises
anything but a timeout and no recording raises except that of the last source. -/
theorem checkRefs_recordedOnce_iff (distinct : (refs.map PluginRef.key).Nodup)
    (service : PulseService codec) :
    (∀ ref ∈ refs, RecordedOnce world service (service.checkRefs world refs).2 ref) ↔
      (∀ ref ∈ refs, (world.check ref).escapes = false) ∧
        ∀ ref ∈ refs.dropLast, world.recordFails ref = false := by
  constructor
  · intro owed
    have visited : ∀ ref ∈ refs, ref ∈ Loop.reached world.stops refs ∧
        (world.check ref).escapes = false := by
      intro ref member
      obtain ⟨result, _, once, _⟩ := owed ref member
      rw [recordingsOf_checkRefs world distinct] at once
      have handled := CheckOutcome.collect_isOk "check timed out" (world.check ref)
      split at once
      · refine ⟨‹_›, ?_⟩
        cases collected : (world.check ref).collect "check timed out" with
        | error exc => rw [collected] at once; cases once
        | ok result =>
            rw [collected] at handled
            simpa [Except.isOk, Except.toBool] using handled
      · cases once
    have all : Loop.reached world.stops refs = refs := by
      have listed : Loop.reached world.stops refs <+: refs := Loop.reached_prefix refs
      apply listed.eq_of_length_le
      exact (List.subperm_of_subset (List.Nodup.of_map _ distinct)
        fun ref member => (visited ref member).1).length_le
    refine ⟨fun ref member => (visited ref member).2, ?_⟩
    intro ref member
    have goes := Loop.reached_eq_self_iff.mp all ref member
    exact (Bool.or_eq_false_iff.mp goes).2
  · rintro ⟨handled, persisted⟩ ref member
    have goes : ∀ other ∈ refs.dropLast, world.stops other = false := fun other early =>
      Bool.or_eq_false_iff.mpr
        ⟨handled other (List.mem_of_mem_dropLast early), persisted other early⟩
    have own := CheckOutcome.collect_isOk "check timed out" (world.check ref)
    rw [handled ref member] at own
    cases collected : (world.check ref).collect "check timed out" with
    | error exc => rw [collected] at own; cases own
    | ok result =>
        refine ⟨result, CheckOutcome.collect_admits collected, ?_, ?_⟩
        · rw [recordingsOf_checkRefs world distinct, Loop.reached_eq_self_iff.mpr goes,
            if_pos member, collected]
          rfl
        · exact checkRefs_row world distinct member goes collected service

end Collecting

end PulseService

/-- The operations that check a selection of the catalog. -/
inductive Sweep where
  | refreshAll
  | runDueChecks
  deriving DecidableEq, Repr

namespace Sweep

variable {codec : StateCodec} (croniter : Croniter) (world : World) (service : PulseService codec)

/-- The sources a sweep selects. -/
def selected : Sweep → Except PyExc (List PluginRef)
  | .refreshAll => .ok service.listCatalog
  | .runDueChecks => service.dueRefs croniter world

/-- One sweep. -/
def run : Sweep → Except PyExc Nat × PulseService codec
  | .refreshAll => service.refreshAll world
  | .runDueChecks => service.runDueChecks croniter world

variable {croniter world service}

/-- A sweep selects sources of the catalog, in its order. -/
theorem selected_sublist {sweep : Sweep} {refs : List PluginRef}
    (chosen : sweep.selected croniter world service = .ok refs) :
    refs.Sublist service.listCatalog := by
  cases sweep with
  | refreshAll =>
      obtain rfl := Except.ok.inj chosen
      exact List.Sublist.refl _
  | runDueChecks => exact Loop.select_sublist chosen

/-- A sweep checks what it selects. -/
theorem run_eq {sweep : Sweep} {refs : List PluginRef}
    (chosen : sweep.selected croniter world service = .ok refs) :
    (sweep.run croniter world service).2 = (service.checkRefs world refs).2 := by
  cases sweep with
  | refreshAll =>
      obtain rfl := Except.ok.inj chosen
      rfl
  | runDueChecks =>
      have due : service.dueRefs croniter world = .ok refs := chosen
      rw [run, PulseService.runDueChecks, due]
      cases refs with
      | nil =>
          change service = service.note []
          rw [PulseService.note, List.append_nil]
      | cons ref rest =>
          dsimp only
          rcases service.checkRefs world (ref :: rest) with ⟨_ | _, _⟩ <;> rfl

end Sweep

/-- **A sweep isolates failures exactly when only the last recording can fail.** Every
selected source is recorded once with its own outcome if and only if none of the
checks raises anything but the timeout and no recording raises, except possibly that
of the source that comes last. -/
theorem sweep_recordedOnce_iff {codec : StateCodec} (croniter : Croniter) (world : World)
    (service : PulseService codec) (sweep : Sweep) (refs : List PluginRef)
    (chosen : sweep.selected croniter world service = .ok refs) :
    (∀ ref ∈ refs,
        PulseService.RecordedOnce world service (sweep.run croniter world service).2 ref) ↔
      (∀ ref ∈ refs, (world.check ref).escapes = false) ∧
        ∀ ref ∈ refs.dropLast, world.recordFails ref = false := by
  rw [Sweep.run_eq chosen]
  have distinct : (refs.map PluginRef.key).Nodup :=
    ((Sweep.selected_sublist chosen).map _).nodup service.catalog.list_nodup
  exact PulseService.checkRefs_recordedOnce_iff world distinct service

section TwoSources

private def firstRef : PluginRef :=
  { repo := "hub", name := "clinvar", pluginType := .manifest, path := ["hub", "clinvar"] }

private def secondRef : PluginRef :=
  { repo := "hub", name := "dbsnp", pluginType := .manifest, path := ["hub", "dbsnp"] }

private def twoSources : Catalog := ⟨[firstRef, secondRef], by decide⟩

private theorem twoSources_list : twoSources.list = [firstRef, secondRef] :=
  List.mergeSort_of_pairwise (List.pairwise_pair.mpr (by decide))

private def fresh : PulseService plainCodec := { settings := {}, catalog := twoSources }

/-- A cron parser that accepts nothing. -/
private def noCron : Croniter where
  isValid _ := false
  getNext _ base := .ok (base + 3600)
  later := by
    rintro _ base _ ⟨⟩
    exact Int.lt_add_of_pos_right base (by decide)

/-- Both plugins report a release; the first one's scratch directory may fail. -/
private def twoChecks (scratch : Except PyExc Unit) : World :=
  { World.quiet with
    check := fun ref => .ofCheck (checkPlugin (σ := Unit) {
      scratch := if ref = firstRef then scratch else .ok ()
      load := .error ⟨.loaderError, "LoaderError", "no dumper class found"⟩
      cleanup := .ok () }) }

/-- A refresh of two sources records each of them once. -/
theorem sweep_recordedOnce_twoSources :
    Sweep.refreshAll.selected noCron (twoChecks (.ok ())) fresh = .ok [firstRef, secondRef] ∧
    ∀ ref ∈ [firstRef, secondRef], PulseService.RecordedOnce (twoChecks (.ok ())) fresh
      (Sweep.refreshAll.run noCron (twoChecks (.ok ())) fresh).2 ref := by
  have chosen : Sweep.refreshAll.selected noCron (twoChecks (.ok ())) fresh =
      .ok [firstRef, secondRef] := congrArg Except.ok twoSources_list
  exact ⟨chosen, (sweep_recordedOnce_iff noCron (twoChecks (.ok ())) fresh .refreshAll
    [firstRef, secondRef] chosen).mpr (by decide)⟩

/-- **A full disk hides the sources that come later.** Creating the first source's
scratch directory raises, the sweep leaves its collecting loop there, and the second
source, checked without incident, is not recorded. -/
theorem sweep_scratchFailure_aborts :
    ∃ world : World, ∃ refs : List PluginRef,
      Sweep.refreshAll.selected noCron world fresh = .ok refs ∧ secondRef ∈ refs ∧
      recordingsOf secondRef ((Sweep.refreshAll.run noCron world fresh).2.log) = [] ∧
      ¬ ∀ ref ∈ refs, PulseService.RecordedOnce world fresh
        (Sweep.refreshAll.run noCron world fresh).2 ref := by
  let world := twoChecks (.error ⟨.ordinary, "OSError", "[Errno 28] No space left on device"⟩)
  have chosen : Sweep.refreshAll.selected noCron world fresh = .ok [firstRef, secondRef] :=
    congrArg Except.ok twoSources_list
  have unrecorded :
      recordingsOf secondRef (Sweep.refreshAll.run noCron world fresh).2.log = [] := by
    have distinct : ([firstRef, secondRef].map PluginRef.key).Nodup := by decide
    have logged : recordingsOf secondRef _ = _ :=
      PulseService.recordingsOf_checkRefs world distinct fresh
    rw [Sweep.run_eq chosen]
    exact logged
  refine ⟨world, _, chosen, by decide, unrecorded, ?_⟩
  intro owed
  obtain ⟨result, _, once, _⟩ := owed secondRef (by decide)
  rw [show fresh.log.length = 0 from rfl, List.drop_zero, unrecorded] at once
  cases once

end TwoSources

end BiothingsPulse
