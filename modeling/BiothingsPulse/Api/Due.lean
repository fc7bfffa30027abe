import BiothingsPulse.Api.Routes
import BiothingsPulse.Service.Sweep

/-!
# One source's schedule and the rest of the catalog

The due selection and the listing of the sources both compute a next check time for
each catalogued source, in one pass and with no handler around it. A cron
expression that passes the validity test and has no date is the one stored schedule
for which that computation raises, and then the whole pass does.
-/

namespace BiothingsPulse

open Foundation

/-- The sources whose checks a log starts, in order. -/
def checksOf (log : List Activity) : List PluginRef :=
  log.filterMap fun activity =>
    match activity with
    | .check ref => some ref
    | _ => none

namespace PulseService

variable {codec : StateCodec} (croniter : Croniter) (service : PulseService codec)

/-- Whether a source is due by its own record: never checked, or past its own next
check time. -/
def ownDue (now : Time) (ref : PluginRef) : Bool :=
  match (service.store.get ref.source).bind SourceState.checkedAt with
  | none => true
  | some last =>
      match croniter.nextCheckAt ((service.store.get ref.source).bind SourceState.schedule)
          (some last) service.settings.schedulerInterval now with
      | .ok next => next ≤ now
      | .error _ => false

/-- **One source's schedule never affects the others.** The sources selected and
checked are those that are due by their own records, and the listing has one entry
for each catalogued source. -/
structure SchedulesIndependent (world : World) (now : Time) : Prop where
  selects : service.dueRefs croniter world =
    .ok (service.listCatalog.filter fun ref => service.ownDue croniter (world.dueClock ref) ref)
  checks : checksOf ((service.runDueChecks croniter world).2.log.drop service.log.length) =
    service.listCatalog.filter fun ref => service.ownDue croniter (world.dueClock ref) ref
  lists : ∃ sources, service.listSources croniter now = .ok sources ∧
    sources.map (fun status => (status.repo, status.plugin)) =
      service.listCatalog.map fun ref => (ref.repo, ref.name)

/-- Whether a source has a recorded check and a stored schedule that passes the
validity test and has no date after that check. -/
def dateless (ref : PluginRef) : Bool :=
  match (service.store.get ref.source).bind SourceState.checkedAt with
  | none => false
  | some last => croniter.dateless ((service.store.get ref.source).bind SourceState.schedule) last

variable {croniter service}

/-- Whether a source is due is decided by its own record and the clock. -/
theorem isDue_eq {world : World} {ref : PluginRef} (dated : service.dateless croniter ref = false) :
    service.isDue croniter world ref =
      .ok (service.ownDue croniter (world.dueClock ref) ref) := by
  unfold isDue ownDue Croniter.isDue
  unfold dateless at dated
  cases checked : (service.store.get ref.source).bind SourceState.checkedAt with
  | none => simp only [checked]
  | some last =>
      rw [checked] at dated
      have defined := croniter.nextCheckAt_isOk
        ((service.store.get ref.source).bind SourceState.schedule) last
        service.settings.schedulerInterval (world.dueClock ref)
      rw [show croniter.dateless _ last = false from dated] at defined
      cases next : croniter.nextCheckAt ((service.store.get ref.source).bind SourceState.schedule)
          (some last) service.settings.schedulerInterval (world.dueClock ref) with
      | error exc => rw [next] at defined; cases defined
      | ok time => simp only [checked, next, Except.map]

/-- Answering for a source's last-known record fails exactly on a dateless schedule. -/
theorem status_cached_isOk (now : Time) (ref : PluginRef) :
    (service.status croniter now (service.cached now ref).untyped).isOk =
      !service.dateless croniter ref := by
  unfold status dateless cached
  rw [SourceState.typed?_untyped]
  cases stored : service.store.get ref.source with
  | none => rfl
  | some state =>
      simp only [Option.getD_some, Option.bind_some]
      cases checked : state.checkedAt with
      | none => rfl
      | some last =>
          dsimp only
          rw [← croniter.nextCheckAt_isOk state.schedule last service.settings.schedulerInterval
            now]
          cases croniter.nextCheckAt state.schedule (some last)
            service.settings.schedulerInterval now <;> rfl

/-- The answer for a source names that source. -/
theorem status_cached_source {now : Time} {ref : PluginRef} {status : SourceStatus}
    (answered : service.status croniter now (service.cached now ref).untyped = .ok status) :
    (status.repo, status.plugin) = (ref.repo, ref.name) := by
  have named : ((service.cached now ref).repo, (service.cached now ref).plugin) =
      (ref.repo, ref.name) := by
    unfold cached
    cases stored : service.store.get ref.source with
    | none => rfl
    | some state =>
        obtain ⟨repo, plugin⟩ := SourceKey.mk.inj (DocStore.get_key stored)
        exact Prod.ext repo plugin
  rw [← named]
  unfold PulseService.status at answered
  rw [SourceState.typed?_untyped] at answered
  dsimp only at answered
  cases checked : (service.cached now ref).checkedAt with
  | none =>
      rw [checked] at answered
      obtain rfl := Except.ok.inj answered
      rfl
  | some last =>
      rw [checked] at answered
      dsimp only at answered
      cases next : croniter.nextCheckAt (service.cached now ref).schedule (some last)
          service.settings.schedulerInterval now with
      | error exc => rw [next] at answered; cases answered
      | ok time =>
          rw [next] at answered
          obtain rfl := Except.ok.inj answered
          rfl

/-- A sweep checks the selected sources, each once and in order. -/
theorem checksOf_checkRefs (world : World) {refs : List PluginRef}
    (distinct : (refs.map PluginRef.key).Nodup) (service : PulseService codec) :
    checksOf ((service.checkRefs world refs).2.log.drop service.log.length) = refs := by
  have recorded : checksOf
      ((Loop.reached world.stops refs).flatMap (collectedLog world)) = [] := by
    apply List.filterMap_eq_nil_iff.mpr
    intro activity logged
    obtain ⟨ref, _, own⟩ := List.mem_flatMap.mp logged
    unfold collectedLog at own
    cases collected : (world.check ref).collect "check timed out" with
    | error exc => rw [collected] at own; cases own
    | ok result =>
        rw [collected] at own
        obtain rfl := List.mem_singleton.mp own
        rfl
  rw [checkRefs_log world distinct, List.append_assoc, List.drop_left, checksOf,
    List.filterMap_append, ← checksOf, ← checksOf, recorded, List.append_nil, checksOf,
    List.filterMap_map]
  exact List.filterMap_some

end PulseService

section FebruaryThirtieth

private def cronRef : PluginRef :=
  { repo := "hub", name := "clinvar", pluginType := .manifest, path := ["hub", "clinvar"] }

private def newRef : PluginRef :=
  { repo := "hub", name := "dbsnp", pluginType := .manifest, path := ["hub", "dbsnp"] }

/-- The record of an earlier check that trusted the schedule `0 0 30 2 *`. -/
private def cronState : SourceState PyValue :=
  { repo := "hub", plugin := "clinvar", pluginType := .manifest, status := .ok,
    schedule := some (.str "0 0 30 2 *"), checkedAt := some 0, updatedAt := 0 }

private def cronStore : DocStore plainCodec where
  rows := Function.update (fun _ => none) ⟨"hub", "clinvar"⟩ (some cronState)
  keyed := by
    intro source doc state present readable
    by_cases same : source = ⟨"hub", "clinvar"⟩
    · subst same
      rw [Function.update_self] at present
      cases present
      cases readable
      rfl
    · rw [Function.update_of_ne same] at present
      cases present

private def cronService : PulseService plainCodec :=
  { settings := {}, store := cronStore, catalog := ⟨[cronRef, newRef], by decide⟩ }

/-- A parser that knows the expression above: well formed, and without a date. -/
private def februaryCron : Croniter where
  isValid schedule := schedule = "0 0 30 2 *"
  getNext _ _ := .error ⟨.ordinary, "CroniterBadDateError", "failed to find next date"⟩
  later _ _ _ found := by cases found

private def idleWorld : World :=
  { World.quiet with dueClock := fun _ => 1, recordClock := fun _ => 1 }

end FebruaryThirtieth

end BiothingsPulse
