import BiothingsPulse.Service.Sweep

/-!
# What an operation records

The log of an operation names the sources whose outcomes it recorded. A recording that
the database accepts stamps its source with the clock it read, and a source that is not
recorded keeps the record it had: after an operation, the records are those of the
sources in its log and nothing else has changed.
-/

namespace BiothingsPulse

open Foundation

/-- The calls of `record_check` in a log, in order. -/
def callsOf (log : List Activity) : List PluginRef :=
  log.filterMap fun activity =>
    match activity with
    | .record ref _ => some ref
    | _ => none

@[simp] private theorem callsOf_append (first second : List Activity) :
    callsOf (first ++ second) = callsOf first ++ callsOf second :=
  List.filterMap_append

@[simp] private theorem callsOf_checks (refs : List PluginRef) :
    callsOf (refs.map .check) = [] := by
  simp [callsOf]

/-- The calls in a log that the database accepts. -/
def World.recorded (world : World) (log : List Activity) : List PluginRef :=
  (callsOf log).filter fun ref => (world.storeFault ref.source).isNone

private theorem World.recorded_checks (world : World) (refs : List PluginRef) :
    world.recorded (refs.map .check) = [] := by
  rw [recorded, callsOf_checks, List.filter_nil]

/-- The schedules that checks report are strings or `None`. -/
def World.WellTyped (world : World) : Prop :=
  ∀ ref result, world.check ref = .returned result → PyValue.optionalStr result.schedule = true

/-- A collected result has a string as its schedule, or none. -/
theorem World.WellTyped.collected {world : World} (wellTyped : world.WellTyped)
    {ref : PluginRef} {message : String} {result : CheckResult}
    (collected : (world.check ref).collect message = .ok result) :
    PyValue.optionalStr result.schedule = true := by
  obtain returned | ⟨_, rfl⟩ := CheckOutcome.collect_cases collected
  · exact wellTyped ref result returned
  · rfl

/-- A recorded, well-typed result is read back with the time of its recording. -/
theorem DocStore.checkedAt_record {codec : StateCodec} {store written : DocStore codec}
    {ref : PluginRef} {result : CheckResult} {now : Time} {state : SourceState PyValue}
    (wellTyped : PyValue.optionalStr result.schedule = true)
    (recorded : store.record ref result now = .ok (state, written)) :
    ∃ stored, written.get ref.source = some stored ∧ stored.checkedAt = some now := by
  have readable : DocStore.unreadable (result.report ref now) = false := by
    rw [DocStore.unreadable, show PyValue.optionalStr (result.report ref now).schedule = true
      from wellTyped, Bool.not_true, Bool.and_false, Bool.false_and]
  have reads := (store.recordCheck_readBack_iff ref.source _).mpr readable state written recorded
  obtain ⟨stored, present, rfl⟩ := Option.map_eq_some_iff.mp reads
  obtain ⟨own, _⟩ := DocStore.recordCheck_eq_ok.mp recorded
  have attempt := SourceState.recordCheck_attempt
    ((store.get ref.source).map SourceState.untyped) ref.source.repo ref.source.plugin
    (result.report ref now)
  rw [← DocStore.stateAfter, own] at attempt
  exact ⟨stored, present, attempt.2.2⟩

namespace PulseService

variable {codec : StateCodec}

/-- The service after an operation that recorded the sources in the given part of its log:
each of them has the clock of its recording, and the others are as before. -/
structure Stamped (world : World) (before after : PulseService codec)
    (activities : List Activity) : Prop where
  logged : after.log = before.log ++ activities
  settings : after.settings = before.settings
  catalog : after.catalog = before.catalog
  stamped : ∀ ref ∈ world.recorded activities, ∃ state,
    after.store.get ref.source = some state ∧ state.checkedAt = some (world.recordClock ref)
  kept : ∀ source, (∀ ref ∈ world.recorded activities, ref.source ≠ source) →
    after.store.rows source = before.store.rows source

namespace Stamped

variable {world : World} {before middle after : PulseService codec}
  {activities earlier later : List Activity}

/-- Checks are started without recording anything. -/
theorem ofChecks (world : World) (before : PulseService codec) (refs : List PluginRef) :
    Stamped world before (before.note (refs.map .check)) (refs.map .check) where
  logged := rfl
  settings := rfl
  catalog := rfl
  stamped := by
    rw [World.recorded_checks]
    exact fun _ member => absurd member List.not_mem_nil
  kept := fun _ _ => rfl

/-- Nothing is checked where nothing happens. -/
theorem refl (world : World) (before : PulseService codec) : Stamped world before before [] :=
  { logged := (List.append_nil _).symm
    settings := rfl
    catalog := rfl
    stamped := by simp [World.recorded, callsOf]
    kept := fun _ _ => rfl }

/-- One operation after another, when the second does not record a source of the first. -/
theorem trans (first : Stamped world before middle earlier)
    (second : Stamped world middle after later)
    (disjoint : ∀ ref ∈ world.recorded earlier, ∀ other ∈ world.recorded later,
      other.source ≠ ref.source) :
    Stamped world before after (earlier ++ later) where
  logged := by rw [second.logged, first.logged, List.append_assoc]
  settings := second.settings.trans first.settings
  catalog := second.catalog.trans first.catalog
  stamped := by
    intro ref member
    rw [World.recorded, callsOf_append, List.filter_append, List.mem_append] at member
    obtain early | late := member
    · obtain ⟨state, stored, stamp⟩ := first.stamped ref early
      refine ⟨state, ?_, stamp⟩
      rw [DocStore.get, second.kept ref.source fun other inside => disjoint ref early other inside]
      exact stored
    · exact second.stamped ref late
  kept := by
    intro source absent
    rw [World.recorded, callsOf_append, List.filter_append] at absent
    rw [second.kept source fun ref inside => absent ref (List.mem_append_right _ inside),
      first.kept source fun ref inside => absent ref (List.mem_append_left _ inside)]

end Stamped

section Record

variable (world : World) (ref : PluginRef) (result : CheckResult) (service : PulseService codec)

/-- Recording a well-typed result stamps its source, if the database accepts it. -/
theorem record_stamped (wellTyped : PyValue.optionalStr result.schedule = true) :
    Stamped world service (service.record world ref result).2 [.record ref result] := by
  have writable : ((result.report ref (world.recordClock ref)).loaded &&
      !PyValue.representable (result.report ref (world.recordClock ref)).schedule) = false := by
    rw [show PyValue.representable (result.report ref (world.recordClock ref)).schedule = true
      from PyValue.representable_of_optionalStr wellTyped, Bool.not_true, Bool.and_false]
  have accepted := record_isOk world ref result service
  rw [writable, Bool.not_false, Bool.and_true] at accepted
  have calls : callsOf [.record ref result] = [ref] := rfl
  refine record_cases world ref result service (motive := fun recorded =>
    recorded = service.record world ref result →
      Stamped world service recorded.2 [.record ref result]) ?_ ?_ ?_ rfl
  · intro exc fault _
    exact {
      logged := rfl
      settings := rfl
      catalog := rfl
      stamped := by simp [World.recorded, calls, fault]
      kept := fun _ _ => rfl }
  · intro exc sound raised own
    rw [← own, sound] at accepted
    cases accepted
  · intro state store sound recorded own
    have recordedOnly : world.recorded [.record ref result] = [ref] := by
      simp [World.recorded, calls, sound]
    exact {
      logged := rfl
      settings := rfl
      catalog := rfl
      stamped := by
        intro other member
        rw [recordedOnly, List.mem_singleton] at member
        subst member
        exact DocStore.checkedAt_record wellTyped recorded
      kept := by
        intro source absent
        rw [recordedOnly] at absent
        exact DocStore.recordCheck_frame recorded (absent ref (List.mem_singleton.mpr rfl)).symm }

end Record

section Collecting

variable {world : World} (wellTyped : world.WellTyped)

include wellTyped

/-- One round of the collecting loop records its source or nothing. -/
theorem collectOne_stamped {refs : List PluginRef} {ref : PluginRef}
    (distinct : (refs.map PluginRef.key).Nodup) (member : ref ∈ refs)
    (service : PulseService codec) :
    Stamped world service (collectOne world refs ref service).2 (collectedLog world ref) := by
  unfold collectedLog
  cases collected : (world.check ref).collect "check timed out" with
  | error exc =>
      rw [collectOne_of_error world distinct member service collected]
      exact Stamped.refl world service
  | ok result =>
      rw [collectOne_of_ok world distinct member service collected]
      exact record_stamped world ref result service (wellTyped.collected collected)

omit wellTyped in
private theorem callsOf_collectedLog {ref other : PluginRef}
    (member : other ∈ callsOf (collectedLog world ref)) : other = ref := by
  unfold collectedLog at member
  cases collected : (world.check ref).collect "check timed out" with
  | error exc => rw [collected] at member; cases member
  | ok result =>
      rw [collected] at member
      exact List.mem_singleton.mp member

/-- The collecting loop records some of the sources it runs over. -/
theorem forEach_stamped {refs : List PluginRef} (distinct : (refs.map PluginRef.key).Nodup)
    {part : List PluginRef} (listed : part.Sublist refs) (service : PulseService codec) :
    ∃ activities, Stamped world service
        (Loop.forEach (collectOne world refs) part service).2 activities ∧
      ∀ ref ∈ callsOf activities, ref ∈ part := by
  induction part generalizing service with
  | nil => exact ⟨[], Stamped.refl world service, fun _ member => by cases member⟩
  | cons ref rest ih =>
      have member : ref ∈ refs := listed.subset List.mem_cons_self
      have own := collectOne_stamped wellTyped distinct member service
      rcases ran : collectOne world refs ref service with ⟨exc | _, next⟩
      · rw [Loop.forEach_cons_of_error ran]
        rw [ran] at own
        refine ⟨_, own, fun other recorded => ?_⟩
        rw [callsOf_collectedLog recorded]
        exact List.mem_cons_self
      · rw [Loop.forEach_cons_of_ok ran]
        rw [ran] at own
        obtain ⟨activities, later, inside⟩ :=
          ih ((List.sublist_cons_self ref rest).trans listed) next
        refine ⟨_, own.trans later ?_, ?_⟩
        · intro first early second late same
          obtain ⟨early, _⟩ := List.mem_filter.mp early
          obtain ⟨late, _⟩ := List.mem_filter.mp late
          rw [callsOf_collectedLog early] at same
          have position := inside second late
          have equal := PluginRef.eq_of_source_eq distinct
            (listed.subset (List.mem_cons_of_mem ref position)) member same
          have fresh : ref ∉ rest :=
            (List.nodup_cons.mp (listed.nodup (List.Nodup.of_map _ distinct))).1
          exact fresh (equal ▸ position)
        · intro other recorded
          rw [callsOf_append, List.mem_append] at recorded
          obtain early | late := recorded
          · rw [callsOf_collectedLog early]
            exact List.mem_cons_self
          · exact List.mem_cons_of_mem ref (inside other late)

/-- Checking distinct sources records some of them. -/
theorem checkRefs_stamped {refs : List PluginRef} (distinct : (refs.map PluginRef.key).Nodup)
    (service : PulseService codec) :
    ∃ activities, Stamped world service (service.checkRefs world refs).2 activities ∧
      ∀ ref ∈ callsOf activities, ref ∈ refs := by
  obtain ⟨activities, collected, inside⟩ := forEach_stamped wellTyped distinct
    (List.Sublist.refl refs) (service.note (refs.map .check))
  rw [checkRefs_snd]
  refine ⟨_, (Stamped.ofChecks world service refs).trans collected ?_, ?_⟩
  · rw [World.recorded_checks]
    exact fun _ early => absurd early List.not_mem_nil
  · intro ref recorded
    rw [callsOf_append, callsOf_checks, List.nil_append] at recorded
    exact inside ref recorded

/-- A forced check records the source it finds, if anything. -/
theorem checkSource_stamped (repo plugin : String) (service : PulseService codec) :
    ∃ activities, Stamped world service (service.checkSource world repo plugin).2 activities ∧
      ∀ ref ∈ callsOf activities, service.getRef repo plugin = some ref := by
  unfold checkSource
  cases found : service.getRef repo plugin with
  | none => exact ⟨[], Stamped.refl world service, fun _ member => by cases member⟩
  | some ref =>
      have started := Stamped.ofChecks world service [ref]
      dsimp only
      rw [note_settings]
      cases collected : (world.check ref).collect
          ("check timed out after " ++ service.settings.checkTimeout.text ++ "s") with
      | error exc => exact ⟨_, started, fun _ member => by cases member⟩
      | ok result =>
          have recorded := record_stamped world ref result (service.note [.check ref])
            (wellTyped.collected collected)
          dsimp only
          rcases recording : (service.note [.check ref]).record world ref result with ⟨_ | _, after⟩
          all_goals
            rw [recording] at recorded
            refine ⟨_, started.trans recorded ?_, ?_⟩
            · rw [World.recorded_checks]
              exact fun _ early => absurd early List.not_mem_nil
            · intro other member
              exact congrArg some (List.mem_singleton.mp member).symm

end Collecting

end PulseService

end BiothingsPulse
