import BiothingsPulse.Api.Due
import BiothingsPulse.Service.Recordings
import Mathlib.Data.List.Forall2

/-!
# The application's background jobs

At startup the application syncs, discovers and checks what is due, and the scheduler
then checks what is due at every tick. Neither lets an `Exception` out of its thread.
A deployment without records is filled by the startup job: every discovered source is
never-checked, hence due, and gets the record of its own check.
-/

namespace BiothingsPulse

open Foundation

/-- `except Exception: logger.exception(…)`. -/
def swallowed {α : Type} : Except PyExc α → Except PyExc Unit
  | .ok _ => .ok ()
  | .error exc => if exc.isException then .ok () else .error exc

namespace PulseService

variable {codec : StateCodec} (croniter : Croniter) (world : World) (service : PulseService codec)

/-- `_initial_sync`: the job of the startup thread. -/
def initialSync : Except PyExc Unit × PulseService codec :=
  match service.syncAndDiscover world with
  | (.error exc, service) => (swallowed (α := Nat) (.error exc), service)
  | (.ok _, service) =>
      let (checked, service) := service.runDueChecks croniter world
      (swallowed checked, service)

/-- `RefreshScheduler._run`: the job of a tick. -/
def scheduledRun : Except PyExc Unit × PulseService codec :=
  let (checked, service) := service.runDueChecks croniter world
  (swallowed checked, service)

variable {croniter world service}

/-- Sources without a record are due. -/
theorem dueRefs_of_unknown
    (unknown : ∀ ref ∈ service.catalog.refs, service.store.get ref.source = none) :
    service.dueRefs croniter world = .ok service.listCatalog := by
  have due : ∀ ref ∈ service.listCatalog, service.isDue croniter world ref = .ok true := by
    intro ref member
    rw [isDue, unknown ref (service.catalog.list_perm.mem_iff.mp member)]
    rfl
  have all := Loop.select_eq_filter due
  rw [dueRefs, all, List.filter_true]

/-- **What the startup job leaves of a discovered source**: one recording, with an
outcome of the source's own check, on top of no earlier record. -/
def Filled (world : World) (before after : PulseService codec) (ref : PluginRef) : Prop :=
  ∃ result, (world.check ref).Admits result ∧
    recordingsOf ref (after.log.drop before.log.length) = [result] ∧
    (after.store.get ref.source).map SourceState.untyped =
      some (SourceState.recordCheck none ref.repo ref.name
        (result.report ref (world.recordClock ref)))

/-- What an outcome admits leaves a well-typed record of a source that had none. -/
theorem recordCheck_optionalStr_of_admits (wellTyped : world.WellTyped) {ref : PluginRef}
    {result : CheckResult} (admitted : (world.check ref).Admits result) (now : Time) :
    PyValue.optionalStr (SourceState.recordCheck none ref.repo ref.name
      (result.report ref now)).schedule = true := by
  rw [SourceState.recordCheck_schedule]
  by_cases loaded : (result.report ref now).loaded = true
  · rw [if_pos loaded]
    cases outcome : world.check ref with
    | returned own =>
        rw [outcome] at admitted
        exact admitted ▸ wellTyped ref own outcome
    | timedOut =>
        rw [outcome] at admitted
        simp [CheckReport.loaded, CheckResult.report, show result.status = .error from admitted]
          at loaded
    | raised exc =>
        rw [outcome] at admitted
        simp [CheckReport.loaded, CheckResult.report, show result.status = .error from admitted]
          at loaded
  · rw [if_neg loaded]
    rfl

/-- A recording of a source without a record, which the database accepts, is read back. -/
theorem get_record_of_unknown (wellTyped : world.WellTyped) {ref : PluginRef}
    {result : CheckResult} (admitted : (world.check ref).Admits result)
    (sound : world.storeFault ref.source = none)
    (unknown : service.store.get ref.source = none) :
    ((service.record world ref result).2.store.get ref.source).map SourceState.untyped =
      some (SourceState.recordCheck none ref.repo ref.name
        (result.report ref (world.recordClock ref))) := by
  have started : service.store.stateAfter ref.source
      (result.report ref (world.recordClock ref)) =
        SourceState.recordCheck none ref.repo ref.name
          (result.report ref (world.recordClock ref)) := by
    rw [DocStore.stateAfter, unknown]
    rfl
  have typed := recordCheck_optionalStr_of_admits wellTyped admitted (world.recordClock ref)
  refine record_cases world ref result service (motive := fun recorded =>
    (recorded.2.store.get ref.source).map SourceState.untyped = _) ?_ ?_ ?_
  · intro exc fault
    rw [sound] at fault
    cases fault
  · intro exc _ raised
    have writable := DocStore.put_isOk service.store (service.store.stateAfter ref.source
      (result.report ref (world.recordClock ref)))
    rw [started, PyValue.representable_of_optionalStr typed] at writable
    unfold DocStore.record DocStore.recordCheck at raised
    rw [started] at raised
    cases put : service.store.put _ with
    | error exc => rw [put] at writable; cases writable
    | ok written => rw [put] at raised; cases raised
  · intro state store _ recorded
    obtain ⟨own, put⟩ := DocStore.recordCheck_eq_ok.mp recorded
    have reads := DocStore.get_put put
    rw [← own, DocStore.stateAfter_source, started, if_pos typed] at reads
    exact reads

/-- A due-check over sources that none of them stops at ends well. -/
theorem runDueChecks_of_due {refs : List PluginRef}
    (due : service.dueRefs croniter world = .ok refs)
    (distinct : (refs.map PluginRef.key).Nodup)
    (goes : ∀ ref ∈ refs, world.stops ref = false) :
    service.runDueChecks croniter world = (.ok refs.length, (service.checkRefs world refs).2) := by
  have after : (service.runDueChecks croniter world).2 = (service.checkRefs world refs).2 :=
    @Sweep.run_eq _ croniter world service .runDueChecks refs due
  have each : ∀ ref ∈ refs, ∀ state : PulseService codec,
      (collectOne world refs ref state).1.isOk = true := by
    intro ref member state
    rw [collectOne_isOk world distinct member, goes ref member]
    rfl
  obtain ⟨next, collected⟩ := Loop.forEach_eq_ok each (service.note (refs.map .check))
  refine Prod.ext ?_ after
  unfold runDueChecks
  rw [due]
  cases refs with
  | nil => rfl
  | cons ref rest =>
      dsimp only
      rw [checkRefs, collected]

/-- An answer shows the fields of its record. -/
theorem status_eq_ok {now : Time} {state : SourceState String} {status : SourceStatus}
    (answered : service.status croniter now state.untyped = .ok status) :
    status = { SourceStatus.fromState state with
      nextCheckAt := status.nextCheckAt
      sourceUrl := (service.getRef state.repo state.plugin).bind PluginRef.sourceUrl } := by
  unfold PulseService.status at answered
  rw [SourceState.typed?_untyped] at answered
  dsimp only at answered
  cases checked : state.checkedAt with
  | none =>
      rw [checked] at answered
      obtain rfl := Except.ok.inj answered
      rfl
  | some last =>
      rw [checked] at answered
      obtain ⟨next, _, rfl⟩ := Loop.map_eq_ok.mp answered
      rfl

end PulseService

/-- **A fresh deployment fills in.** When the startup job's discovery comes to a catalog
of sources without records, and neither a check nor a recording of them raises anything
that ends the sweep, the job publishes the catalog, records every source once with an
outcome of its own check and leaves all other records alone; and a listing afterwards
shows each source with the status and the time of that check. -/
theorem initialSync_fills {codec : StateCodec} (croniter : Croniter) (world : World)
    (service : PulseService codec) (catalog : Catalog)
    (rebuilt : PulseService.rebuild world = .ok catalog)
    (unknown : ∀ ref ∈ catalog.refs, service.store.get ref.source = none)
    (goes : ∀ ref ∈ catalog.refs, world.stops ref = false) (wellTyped : world.WellTyped) :
    ∃ after, service.initialSync croniter world = (.ok (), after) ∧ after.catalog = catalog ∧
      (∀ ref ∈ catalog.refs, PulseService.Filled world service after ref) ∧
      (∀ source, (∀ ref ∈ catalog.refs, ref.source ≠ source) →
        after.store.rows source = service.store.rows source) ∧
      ∀ now statuses, after.listSources croniter now = .ok statuses →
        List.Forall₂ (fun ref status => (status.repo, status.plugin) = (ref.repo, ref.name) ∧
            status.checkedAt = some (world.recordClock ref) ∧
            ∃ result, (world.check ref).Admits result ∧ status.status = result.status)
          catalog.list statuses := by
  obtain ⟨repos, published⟩ := service.syncAndDiscover_of_rebuild world rebuilt
  let opened : PulseService codec := { service.note [.sync repos] with catalog := catalog }
  have due : opened.dueRefs croniter world = .ok opened.listCatalog :=
    PulseService.dueRefs_of_unknown unknown
  have distinct : (opened.listCatalog.map PluginRef.key).Nodup := catalog.list_nodup
  have listed : ∀ {ref}, ref ∈ opened.listCatalog ↔ ref ∈ catalog.refs :=
    catalog.list_perm.mem_iff
  have continues : ∀ ref ∈ opened.listCatalog, world.stops ref = false :=
    fun ref member => goes ref (listed.mp member)
  have swept := PulseService.runDueChecks_of_due due distinct continues
  have owed := (PulseService.checkRefs_recordedOnce_iff world distinct opened).mpr
    ⟨fun ref member => (Bool.or_eq_false_iff.mp (continues ref member)).1,
      fun ref member => (Bool.or_eq_false_iff.mp
        (continues ref (List.mem_of_mem_dropLast member))).2⟩
  have logged := PulseService.checkRefs_log world distinct opened
  obtain ⟨activities, stamped, inside⟩ := PulseService.checkRefs_stamped wellTyped distinct opened
  generalize final : (opened.checkRefs world opened.listCatalog).2 = after at *
  have filled : ∀ ref ∈ catalog.refs, PulseService.Filled world service after ref := by
    intro ref member
    obtain ⟨result, admitted, once, row⟩ := owed ref (listed.mpr member)
    have newLog : after.log.drop service.log.length =
        .sync repos :: after.log.drop opened.log.length := by
      have syncs : opened.log = service.log ++ [.sync repos] := rfl
      rw [logged, List.append_assoc, List.drop_left, syncs, List.append_assoc, List.drop_left]
      rfl
    have sound : world.storeFault ref.source = none := by
      have accepted := (Bool.or_eq_false_iff.mp (goes ref member)).2
      simpa using (Bool.or_eq_false_iff.mp accepted).1
    refine ⟨result, admitted, ?_, ?_⟩
    · rw [newLog]
      exact once
    · rw [DocStore.get, row]
      exact PulseService.get_record_of_unknown wellTyped admitted sound (unknown ref member)
  refine ⟨after, ?_, stamped.catalog, filled, ?_, ?_⟩
  · rw [PulseService.initialSync, published]
    dsimp only
    rw [show opened.runDueChecks croniter world = _ from swept]
    rfl
  · intro source absent
    apply stamped.kept
    intro ref recorded
    exact absent ref (listed.mp (inside ref (List.mem_filter.mp recorded).1))
  · intro now statuses answered
    have each := Loop.collect_forall₂ answered
    rw [PulseService.listCatalog, show after.catalog = catalog from stamped.catalog] at each
    refine ((List.forall₂_and_left _ _).mpr ⟨fun ref member =>
      filled ref (catalog.list_perm.mem_iff.mp member), each⟩).imp ?_
    rintro ref status ⟨⟨result, admitted, _, stored⟩, shown⟩
    obtain ⟨state, present, own⟩ := Option.map_eq_some_iff.mp stored
    have cached : after.cached now ref = state := by
      rw [PulseService.cached, present, Option.getD_some]
    have attempt := SourceState.recordCheck_attempt none ref.repo ref.name
      (result.report ref (world.recordClock ref))
    rw [← own] at attempt
    have shows := PulseService.status_eq_ok shown
    refine ⟨PulseService.status_cached_source shown, ?_, result, admitted, ?_⟩
    · rw [shows, cached]
      exact attempt.2.2
    · rw [shows, cached]
      exact attempt.1

section FirstStart

def newSource : PluginRef :=
  { repo := "hub", name := "clinvar", pluginType := .manifest, path := ["hub", "clinvar"] }

def firstStart : World :=
  { World.quiet with
    check := fun _ => .returned { status := .ok, latestVersion := some "2024-10" }
    dueClock := fun _ => 7
    recordClock := fun _ => 7
    registry := .ok { repos := [{ name := "hub", gitUrl := "" }] }
    syncRepo := fun _ => .ok ["hub"]
    discoverPlugins := fun _ _ _ => .ok [newSource] }

private theorem nextTick_later (_ : String) (base next : Time)
    (found : (.ok (base + 1) : Except PyExc Time) = .ok next) : base < next :=
  Except.ok.inj found ▸ Int.lt_succ base

def neverCron : Croniter where
  isValid _ := false
  getNext _ base := .ok (base + 1)
  later := nextTick_later

/-- A source that is found on the first start is checked then. -/
theorem initialSync_fills_newSource :
    ∃ after, ({ settings := {} } : PulseService plainCodec).initialSync neverCron firstStart =
        (.ok (), after) ∧
      PulseService.Filled firstStart ({ settings := {} } : PulseService plainCodec) after
        newSource := by
  obtain ⟨after, ran, _, filled, _⟩ := initialSync_fills neverCron firstStart
    ({ settings := {} } : PulseService plainCodec) (Catalog.empty.insert newSource) rfl
    (fun _ _ => rfl) (fun _ _ => rfl)
    (fun ref result returned => by
      obtain rfl := CheckOutcome.returned.inj returned
      rfl)
  exact ⟨after, ran, filled newSource (List.mem_singleton.mpr rfl)⟩

end FirstStart

end BiothingsPulse
