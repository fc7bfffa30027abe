import BiothingsPulse.Api.Due
import BiothingsPulse.Foundation.Transition
import BiothingsPulse.Service.Recordings
import BiothingsPulse.Service.Schedules

/-!
# When sources are checked

The service checks its sources in jobs that do not overlap: sweeps over the sources that
are due, refreshes of all of them, and forced checks of one. What each source's last
recording was is followed here from the log, next to the run. A sweep goes by the records
alone, and yet selects a source exactly when the time that its last recording set has come.
-/

namespace BiothingsPulse

open Foundation Foundation.Transition

/-- A job of the service. -/
inductive Job where
  | runDueChecks
  | refreshAll
  | checkSource (repo plugin : String)
  deriving DecidableEq, Repr

/-- The last recording of a source: its time, and the schedule stored then. -/
structure Recording where
  time : Time
  schedule : Option String
  deriving DecidableEq, Repr

/-- The time that a recording sets for the next check: the first firing of its cron
schedule after it, or the default interval after it when it has no valid one. -/
def Croniter.Falls (croniter : Croniter) (interval : Int) (recording : Recording)
    (time : Time) : Prop :=
  if croniter.isValidCron recording.schedule then
    ∃ text, recording.schedule = some text ∧ croniter.getNext text recording.time = .ok time
  else time = recording.time + interval

namespace PulseService

variable {codec : StateCodec}

/-- The part of the log that an operation appended. -/
def newLog (before after : PulseService codec) : List Activity :=
  after.log.drop before.log.length

/-- Do a job. -/
def perform (croniter : Croniter) (world : World) (job : Job) (service : PulseService codec) :
    PulseService codec :=
  match job with
  | .runDueChecks => (service.runDueChecks croniter world).2
  | .refreshAll => (service.refreshAll world).2
  | .checkSource repo plugin => (service.checkSource world repo plugin).2

/-- The sources that a sweep in the given world checks. -/
def swept (croniter : Croniter) (world : World) (service : PulseService codec) :
    List PluginRef :=
  checksOf (service.newLog (service.perform croniter world .runDueChecks))

private theorem newLog_of_stamped {world : World} {before after : PulseService codec}
    {activities : List Activity} (stamped : Stamped world before after activities) :
    before.newLog after = activities := by
  rw [newLog, stamped.logged, List.drop_left]

/-- A job records some of the catalogued sources. -/
theorem perform_stamped (croniter : Croniter) {world : World} (wellTyped : world.WellTyped)
    (job : Job) (service : PulseService codec) :
    Stamped world service (service.perform croniter world job)
        (service.newLog (service.perform croniter world job)) ∧
      ∀ ref ∈ callsOf (service.newLog (service.perform croniter world job)),
        ref ∈ service.catalog.refs := by
  suffices covered : ∃ activities,
      Stamped world service (service.perform croniter world job) activities ∧
        ∀ ref ∈ callsOf activities, ref ∈ service.catalog.refs by
    obtain ⟨activities, stamped, inside⟩ := covered
    rw [newLog_of_stamped stamped]
    exact ⟨stamped, inside⟩
  have swept (sweep : Sweep) (refs : List PluginRef)
      (chosen : sweep.selected croniter world service = .ok refs) :
      ∃ activities, Stamped world service (sweep.run croniter world service).2 activities ∧
        ∀ ref ∈ callsOf activities, ref ∈ service.catalog.refs := by
    have listed := Sweep.selected_sublist chosen
    have distinct := (listed.map PluginRef.key).nodup service.catalog.list_nodup
    obtain ⟨activities, stamped, inside⟩ := checkRefs_stamped wellTyped distinct service
    rw [Sweep.run_eq chosen]
    refine ⟨activities, stamped, fun ref member => ?_⟩
    exact service.catalog.list_perm.mem_iff.mp (listed.subset (inside ref member))
  cases job with
  | runDueChecks =>
      cases due : service.dueRefs croniter world with
      | error exc =>
          have unchanged : service.perform croniter world .runDueChecks = service := by
            rw [perform, runDueChecks, due]
          rw [unchanged]
          exact ⟨[], Stamped.refl world service, fun _ member => absurd member List.not_mem_nil⟩
      | ok refs => exact swept .runDueChecks refs due
  | refreshAll => exact swept .refreshAll service.listCatalog rfl
  | checkSource repo plugin =>
      obtain ⟨activities, stamped, inside⟩ := checkSource_stamped wellTyped repo plugin service
      refine ⟨activities, stamped, fun ref member => ?_⟩
      exact List.mem_of_find?_eq_some (inside ref member)

end PulseService

/-- A job with the world in which it is done and the time at which it ends. -/
structure Turn where
  job : Job
  world : World
  ends : Time

/-- The clock as a turn reads it, in order: for each source whose due time is evaluated,
and for each one recorded. -/
def Turn.readings {codec : StateCodec} (turn : Turn) (before after : PulseService codec) :
    List Time :=
  (match turn.job with
    | .runDueChecks => before.listCatalog.map turn.world.dueClock
    | _ => []) ++
    (callsOf (before.newLog after)).map turn.world.recordClock

/-- The service in the course of its jobs, with the time and the last recording of each
source. -/
structure Timetable (codec : StateCodec) where
  service : PulseService codec
  clock : Time
  last : SourceKey → Option Recording

namespace Timetable

variable {codec : StateCodec} (croniter : Croniter)

/-- The recording that the record of a source tells of. -/
def told (store : DocStore codec) (source : SourceKey) : Option Recording :=
  (store.get source).bind fun state => state.checkedAt.map fun time => ⟨time, state.schedule⟩

private theorem told_of_get {store : DocStore codec} {source : SourceKey}
    {state : SourceState String} {time : Time} (stored : store.get source = some state)
    (checked : state.checkedAt = some time) :
    told store source = some ⟨time, store.scheduleOf source⟩ := by
  rw [told, DocStore.scheduleOf, stored, Option.bind_some, checked]
  rfl

private theorem told_congr {store other : DocStore codec} {source : SourceKey}
    (same : store.rows source = other.rows source) : told store source = told other source := by
  rw [told, told, DocStore.get, DocStore.get, same]

/-- The timetable of a service before its first job. -/
def start (service : PulseService codec) (clock : Time) : Timetable codec :=
  { service := service, clock := clock, last := told service.store }

/-- The last recordings after a job: those in its log, and otherwise those before it. -/
def noted (world : World) (before after : PulseService codec)
    (last : SourceKey → Option Recording) (source : SourceKey) : Option Recording :=
  match (world.recorded (before.newLog after)).find? fun ref => ref.source = source with
  | some ref => some ⟨world.recordClock ref, after.store.scheduleOf source⟩
  | none => last source

/-- Take a turn. -/
def next (before : Timetable codec) (turn : Turn) : Timetable codec :=
  let after := before.service.perform croniter turn.world turn.job
  { service := after
    clock := turn.ends
    last := noted turn.world before.service after before.last }

/-- The clock does not go back during the turn, and checks report schedules that are
strings or `None`. -/
structure Admits (before : Timetable codec) (turn : Turn) : Prop where
  clocks : (before.clock :: turn.readings before.service (before.next croniter turn).service ++
    [turn.ends]).Pairwise (· ≤ ·)
  wellTyped : turn.world.WellTyped

/-- In an admissible sweep, a due time is evaluated before a recording is made. -/
theorem Admits.evaluated_before {croniter : Croniter} {before : Timetable codec} {turn : Turn}
    (admitted : before.Admits croniter turn) (sweeps : turn.job = .runDueChecks)
    {evaluated recorded : PluginRef} (listed : evaluated ∈ before.service.listCatalog)
    (called : recorded ∈ callsOf
      (before.service.newLog (before.next croniter turn).service)) :
    turn.world.dueClock evaluated ≤ turn.world.recordClock recorded := by
  have clocks := admitted.clocks
  rw [List.cons_append, Turn.readings, sweeps, List.append_assoc] at clocks
  obtain ⟨_, _, ordered⟩ := List.pairwise_append.mp (List.pairwise_cons.mp clocks).2
  exact ordered _ (List.mem_map_of_mem listed) _
    (List.mem_append_left _ (List.mem_map_of_mem called))

/-- The states that a timetable comes to by admissible turns. -/
def Reaches (first : Timetable codec) (turns : List Turn) (last : Timetable codec) : Prop :=
  Run (Guarded (Admits croniter) fun before turn after => after = before.next croniter turn)
    first turns last

/-- **Neither over-polled nor forgotten.** A sweep checks a source exactly when the time set
by its last recording has come, or there is none, and records it no earlier than that; and
the next check time that is shown is the time so set. -/
structure Timely (timetable : Timetable codec) : Prop where
  notSooner : ∀ world, ∀ ref ∈ timetable.service.swept croniter world, ∀ recording time,
    timetable.last ref.source = some recording →
    croniter.Falls timetable.service.settings.schedulerInterval recording time →
    time ≤ world.dueClock ref
  spaced : ∀ turn, turn.job = .runDueChecks → timetable.Admits croniter turn →
    ∀ ref ∈ turn.world.recorded
        (timetable.service.newLog (timetable.next croniter turn).service),
    ∀ recording time, timetable.last ref.source = some recording →
    croniter.Falls timetable.service.settings.schedulerInterval recording time →
    time ≤ turn.world.recordClock ref
  notForgotten : ∀ world, ∀ ref ∈ timetable.service.listCatalog,
    (timetable.last ref.source = none ∨ ∃ recording time,
      timetable.last ref.source = some recording ∧
      croniter.Falls timetable.service.settings.schedulerInterval recording time ∧
      time ≤ world.dueClock ref) →
    ref ∈ timetable.service.swept croniter world
  quiet : ∀ world, (∀ ref ∈ timetable.service.listCatalog, ∃ recording time,
      timetable.last ref.source = some recording ∧
      croniter.Falls timetable.service.settings.schedulerInterval recording time ∧
      world.dueClock ref < time) →
    timetable.service.swept croniter world = []
  shown : ∀ ref ∈ timetable.service.listCatalog, ∀ recording,
    timetable.last ref.source = some recording → ∃ time,
      croniter.Falls timetable.service.settings.schedulerInterval recording time ∧
      (∀ now, ∃ status, timetable.service.status croniter now
          (timetable.service.cached now ref).untyped = .ok status ∧
        status.nextCheckAt = some time) ∧
      ∀ world, ref ∈ timetable.service.swept croniter world ↔ time ≤ world.dueClock ref

/-- The invariant of a run: the records tell of the last recordings. -/
def Faithful (timetable : Timetable codec) : Prop :=
  ∀ source, told timetable.service.store source = timetable.last source

variable {croniter}

/-- A turn keeps the records faithful. -/
theorem faithful_next {before : Timetable codec} {turn : Turn} (faithful : before.Faithful)
    (wellTyped : turn.world.WellTyped) : (before.next croniter turn).Faithful := by
  intro source
  obtain ⟨stamped, _⟩ :=
    PulseService.perform_stamped croniter wellTyped turn.job before.service
  change told _ source = noted turn.world before.service _ before.last source
  unfold noted
  cases found : (turn.world.recorded (before.service.newLog
      (before.service.perform croniter turn.world turn.job))).find?
      fun ref => decide (ref.source = source) with
  | some ref =>
      have same := List.find?_some found
      obtain rfl : ref.source = source := of_decide_eq_true same
      obtain ⟨state, stored, stamp⟩ := stamped.stamped ref (List.mem_of_find?_eq_some found)
      exact told_of_get stored stamp
  | none =>
      have absent := List.find?_eq_none.mp found
      have kept := stamped.kept source fun ref recorded same =>
        absent ref recorded (decide_eq_true same)
      exact (told_congr kept).trans (faithful source)

/-- The records are faithful after every run. -/
theorem faithful_of_reaches {service : PulseService codec} {clock : Time} {turns : List Turn}
    {last : Timetable codec} (reached : Reaches croniter (start service clock) turns last) :
    last.Faithful := by
  refine Run.invariant Faithful (fun _ => rfl) ?_ reached
  rintro before turn _ faithful ⟨admitted, rfl⟩
  exact faithful_next faithful admitted.wellTyped

section Due

variable {service : PulseService codec} {ref : PluginRef} {recording : Recording} {time : Time}

/-- `next_check_at` of a recorded check is the time that the recording sets. -/
theorem nextCheckAt_eq_ok_iff {interval : Int} {now : Time} :
    croniter.nextCheckAt recording.schedule (some recording.time) interval now = .ok time ↔
      croniter.Falls interval recording time := by
  unfold Croniter.nextCheckAt Croniter.Falls
  cases scheduled : recording.schedule with
  | none =>
      have absent : croniter.isValidCron none = false := rfl
      simp only [absent, Bool.false_eq_true, ↓reduceIte]
      exact ⟨fun set => (Except.ok.inj set).symm, fun set => congrArg Except.ok set.symm⟩
  | some text =>
      by_cases valid : croniter.isValidCron (some text) = true
      · simp [valid]
      · simp only [valid, Bool.false_eq_true, ↓reduceIte]
        exact ⟨fun set => (Except.ok.inj set).symm, fun set => congrArg Except.ok set.symm⟩

/-- A source without a recording is due. -/
theorem ownDue_of_untold (untold : told service.store ref.source = none) (now : Time) :
    service.ownDue croniter now ref = true := by
  unfold told at untold
  unfold PulseService.ownDue
  cases stored : service.store.get ref.source with
  | none => rfl
  | some state =>
      rw [stored, Option.bind_some, Option.map_eq_none_iff] at untold
      rw [Option.bind_some, untold]

/-- What is told of a source is what its record has. -/
theorem told_eq_some_iff :
    told service.store ref.source = some recording ↔
      (service.store.get ref.source).bind SourceState.checkedAt = some recording.time ∧
        (service.store.get ref.source).bind SourceState.schedule = recording.schedule := by
  unfold told
  obtain ⟨time, schedule⟩ := recording
  cases stored : service.store.get ref.source with
  | none => simp
  | some state => cases checked : state.checkedAt <;> simp [checked]

/-- A recorded source is due from the time that its recording sets. -/
theorem ownDue_of_told (recorded : told service.store ref.source = some recording)
    (falls : croniter.Falls service.settings.schedulerInterval recording time) (now : Time) :
    service.ownDue croniter now ref = decide (time ≤ now) := by
  obtain ⟨checked, scheduled⟩ := told_eq_some_iff.mp recorded
  unfold PulseService.ownDue
  simp only [checked, scheduled, nextCheckAt_eq_ok_iff.mpr falls]

variable (total : ∀ text base, croniter.isValid text = true →
  ∃ next, croniter.getNext text base = .ok next)

include total

/-- A recording sets a time. -/
theorem exists_falls (interval : Int) (recording : Recording) :
    ∃ time, croniter.Falls interval recording time := by
  unfold Croniter.Falls
  cases scheduled : recording.schedule with
  | none => exact ⟨recording.time + interval, by simp [Croniter.isValidCron]⟩
  | some text =>
      by_cases valid : croniter.isValidCron (some text) = true
      · have accepted : croniter.isValid text = true :=
          (Bool.and_eq_true _ _ |>.mp valid).2
        obtain ⟨next, found⟩ := total text recording.time accepted
        exact ⟨next, by simp [valid, found]⟩
      · exact ⟨recording.time + interval, by simp [valid]⟩

/-- No source is dateless. -/
theorem dateless_eq_false (ref : PluginRef) : service.dateless croniter ref = false := by
  unfold PulseService.dateless
  cases checked : (service.store.get ref.source).bind SourceState.checkedAt with
  | none => rfl
  | some last =>
      dsimp only
      obtain ⟨time, falls⟩ := exists_falls total service.settings.schedulerInterval
        ⟨last, (service.store.get ref.source).bind SourceState.schedule⟩
      have defined := croniter.nextCheckAt_isOk
        ((service.store.get ref.source).bind SourceState.schedule) last
        service.settings.schedulerInterval last
      rw [show croniter.nextCheckAt _ _ _ _ = _ from nextCheckAt_eq_ok_iff.mpr falls] at defined
      exact (Bool.not_eq_true _).mp fun dateless => by rw [dateless] at defined; cases defined

/-- A sweep checks the catalogued sources that are due by their own records, which are
distinct. -/
theorem perform_runDueChecks (service : PulseService codec) (world : World) :
    ∃ due, due = service.listCatalog.filter (fun ref =>
        service.ownDue croniter (world.dueClock ref) ref) ∧
      service.perform croniter world .runDueChecks = (service.checkRefs world due).2 ∧
      (due.map PluginRef.key).Nodup := by
  have selects : service.dueRefs croniter world = .ok (service.listCatalog.filter fun ref =>
      service.ownDue croniter (world.dueClock ref) ref) :=
    Loop.select_eq_filter fun ref _ => PulseService.isDue_eq (dateless_eq_false total ref)
  have chosen : Sweep.runDueChecks.selected croniter world service = _ := selects
  exact ⟨_, rfl, Sweep.run_eq chosen, ((Sweep.selected_sublist chosen).map PluginRef.key).nodup
    service.catalog.list_nodup⟩

private theorem swept_eq (world : World) : service.swept croniter world =
    service.listCatalog.filter fun ref => service.ownDue croniter (world.dueClock ref) ref := by
  obtain ⟨due, rfl, ran, distinct⟩ := perform_runDueChecks total service world
  rw [PulseService.swept, ran]
  exact PulseService.checksOf_checkRefs world distinct service

/-- A sweep records only what it checks. -/
theorem mem_swept_of_recorded {world : World} (wellTyped : world.WellTyped)
    (recorded : ref ∈ callsOf
      (service.newLog (service.perform croniter world .runDueChecks))) :
    ref ∈ service.swept croniter world := by
  rw [swept_eq total world]
  obtain ⟨due, rfl, ran, distinct⟩ := perform_runDueChecks total service world
  obtain ⟨activities, stamped, inside⟩ :=
    PulseService.checkRefs_stamped wellTyped distinct service
  rw [ran, PulseService.newLog_of_stamped stamped] at recorded
  exact inside ref recorded

end Due

/-- A sweep selects a recorded source exactly when the time that its recording sets has
come. -/
theorem mem_swept_iff
    (total : ∀ text base, croniter.isValid text = true →
      ∃ next, croniter.getNext text base = .ok next)
    {timetable : Timetable codec} (faithful : timetable.Faithful) {ref : PluginRef}
    {recording : Recording} {time : Time}
    (recorded : timetable.last ref.source = some recording)
    (falls : croniter.Falls timetable.service.settings.schedulerInterval recording time)
    (world : World) :
    ref ∈ timetable.service.swept croniter world ↔
      ref ∈ timetable.service.listCatalog ∧ time ≤ world.dueClock ref := by
  have stored := (faithful ref.source).trans recorded
  rw [swept_eq total world, List.mem_filter, ownDue_of_told stored falls, decide_eq_true_eq]

/-- The status of a recorded source shows the time that its recording sets. -/
theorem status_nextCheckAt {service : PulseService codec} {ref : PluginRef}
    {recording : Recording} {time : Time}
    (recorded : told service.store ref.source = some recording)
    (falls : croniter.Falls service.settings.schedulerInterval recording time) (now : Time) :
    ∃ status, service.status croniter now (service.cached now ref).untyped = .ok status ∧
      status.nextCheckAt = some time := by
  obtain ⟨checked, scheduled⟩ := told_eq_some_iff.mp recorded
  unfold PulseService.status PulseService.cached
  rw [SourceState.typed?_untyped]
  cases stored : service.store.get ref.source with
  | none => rw [stored] at checked; cases checked
  | some state =>
      rw [stored, Option.bind_some] at checked scheduled
      simp only [Option.getD_some, checked, scheduled, nextCheckAt_eq_ok_iff.mpr falls]
      exact ⟨_, rfl, rfl⟩

/-- Faithful records make a service timely. -/
theorem Faithful.timely
    (total : ∀ text base, croniter.isValid text = true →
      ∃ next, croniter.getNext text base = .ok next)
    {timetable : Timetable codec} (faithful : timetable.Faithful) :
    timetable.Timely croniter where
  notSooner := by
    intro world ref checked recording time recorded falls
    exact ((mem_swept_iff total faithful recorded falls world).mp checked).2
  spaced := by
    intro turn sweeps admitted ref kept recording time recorded falls
    have called := (List.mem_filter.mp kept).1
    have own : ref ∈ callsOf (timetable.service.newLog
        (timetable.service.perform croniter turn.world .runDueChecks)) := by
      rw [← sweeps]
      exact called
    have checked := mem_swept_of_recorded total admitted.wellTyped own
    obtain ⟨listed, come⟩ := (mem_swept_iff total faithful recorded falls turn.world).mp checked
    exact come.trans (admitted.evaluated_before sweeps listed called)
  notForgotten := by
    intro world ref listed reason
    obtain unrecorded | ⟨recording, time, recorded, falls, come⟩ := reason
    · rw [swept_eq total world]
      have untold := (faithful ref.source).trans unrecorded
      exact List.mem_filter.mpr ⟨listed, ownDue_of_untold untold _⟩
    · exact (mem_swept_iff total faithful recorded falls world).mpr ⟨listed, come⟩
  quiet := by
    intro world early
    rw [List.eq_nil_iff_forall_not_mem]
    intro ref checked
    have listed : ref ∈ timetable.service.listCatalog := by
      rw [swept_eq total world] at checked
      exact (List.mem_filter.mp checked).1
    obtain ⟨recording, time, recorded, falls, ahead⟩ := early ref listed
    have come := ((mem_swept_iff total faithful recorded falls world).mp checked).2
    exact absurd ahead (not_lt_of_ge come)
  shown := by
    intro ref listed recording recorded
    obtain ⟨time, falls⟩ := exists_falls total
      timetable.service.settings.schedulerInterval recording
    refine ⟨time, falls, status_nextCheckAt ((faithful ref.source).trans recorded) falls, ?_⟩
    intro world
    rw [mem_swept_iff total faithful recorded falls world, and_iff_right listed]

end Timetable

section Hourly

/-- A parser that knows one expression, which fires every hour. -/
private def hourly : Croniter where
  isValid schedule := schedule = "@hourly"
  getNext _ base := .ok (base + 3600000000)
  later := by
    rintro _ base _ ⟨⟩
    exact Int.lt_add_of_pos_right base (by decide)

private def hourlyRef : PluginRef :=
  { repo := "hub", name := "clinvar", pluginType := .manifest, path := ["hub", "clinvar"] }

private def hourlyService : PulseService plainCodec :=
  { settings := {}, catalog := ⟨[hourlyRef], by decide⟩ }

private def hourlyWorld (now : Time) : World :=
  { World.quiet with
    check := fun _ => .returned { status := .ok, schedule := some (.str "@hourly") }
    dueClock := fun _ => now
    recordClock := fun _ => now + 10 }

private theorem hourlyWorld_wellTyped (now : Time) : (hourlyWorld now).WellTyped := by
  rintro ref result ⟨⟩
  rfl

/-- A forced check, a tick within the hour and one after it. -/
private def forced : Turn := ⟨.checkSource "hub" "clinvar", hourlyWorld 10, 30⟩

private def early : Turn := ⟨.runDueChecks, hourlyWorld 1800000000, 1800000020⟩

private def late : Turn := ⟨.runDueChecks, hourlyWorld 3600000020, 3600000040⟩

end Hourly

end BiothingsPulse
