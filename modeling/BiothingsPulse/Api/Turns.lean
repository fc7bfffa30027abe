import BiothingsPulse.Api.Noninterference
import BiothingsPulse.Service.Recordings

/-!
# Jobs and requests that take turns

When no job or request begins before the one before it has ended, what the store holds
of a source is the fold of `record_check` over the reports of that source, whatever
else was synced, checked and read meanwhile. So a forced check is read back by every
later request until the source is recorded again, and the times of a record are in
order.
-/

namespace BiothingsPulse

open Foundation Foundation.Threads

variable {codec : StateCodec}

namespace Threaded

open Program (Preserves)

/-- A property of the service that the writing steps of a thread keep. -/
structure Kept (holds : Site codec → Prop) (world : World) : Prop where
  note : ∀ site activities, holds site → holds (site.note activities)
  publish : ∀ site catalog, holds site → holds (site.publish catalog)
  record : ∀ ref result other message, (world.check other).collect message = .ok result →
    Preserves holds (record world ref result)

section Preserves

variable {holds : Site codec → Prop} {world : World} (kept : Kept holds world)

include kept

private theorem note_preserves (activities : List Activity) : Preserves holds (note activities) :=
  fun site held => kept.note site activities held

/-- A rebuild preserves what its steps preserve. -/
theorem syncAndDiscover_preserves : Preserves holds (syncAndDiscover world) := by
  unfold syncAndDiscover
  cases world.registry with
  | error exc => exact .done _
  | ok registry =>
      refine (note_preserves kept _).bind fun _ => ?_
      cases PulseService.syncRegistry world registry.resolvedRepos with
      | error exc => exact .done _
      | ok localPaths =>
          dsimp only
          cases PulseService.discover world localPaths registry.resolvedRepos .empty with
          | error exc => exact .done _
          | ok catalog => exact fun site held => kept.publish site catalog held

private theorem checkRefs_preserves (refs : List PluginRef) : Preserves holds
    (checkRefs world refs) := by
  have each (ref : PluginRef) : Preserves holds (collectOne world refs ref) := by
    unfold collectOne PulseService.future
    cases (refs.filter fun other => other.key = ref.key).getLast? with
    | none => exact .done _
    | some other =>
        dsimp only [Option.map]
        cases collected : (world.check other).collect "check timed out" with
        | error exc => exact .done _
        | ok result => exact (kept.record ref result other _ collected).andThen fun _ => .done _
  refine (note_preserves kept _).bind fun _ => ?_
  exact (Preserves.forEach refs each).andThen fun _ => .done _

/-- A forced check preserves what its steps preserve. -/
theorem checkSource_preserves (repo plugin : String) :
    Preserves holds (checkSource world repo plugin) := by
  refine (Preserves.read _).bind ?_
  rintro (_ | ref)
  · exact .done _
  · refine (note_preserves kept _).bind fun _ => (Preserves.read _).bind fun settings => ?_
    cases collected : (world.check ref).collect
        ("check timed out after " ++ settings.checkTimeout.text ++ "s") with
    | error exc => exact .done _
    | ok result => exact (kept.record ref result ref _ collected).andThen fun _ => .done _

private theorem runDueChecks_preserves (croniter : Croniter) :
    Preserves holds (runDueChecks world croniter) := by
  refine (Preserves.read _).bind fun refs => ?_
  refine (Preserves.select refs fun ref => ?_).andThen ?_
  · exact (Preserves.read _).bind fun _ => .read _
  · rintro (_ | ⟨ref, rest⟩)
    · exact .done _
    · exact (checkRefs_preserves kept _).andThen fun _ => .done _

private theorem forcedSource_preserves (croniter : Croniter) (repo plugin : String) :
    Preserves holds (forcedSource croniter world repo plugin) := by
  refine (checkSource_preserves kept repo plugin).bind ?_
  rintro (exc | found)
  · exact .done _
  · exact (answerSource_inert croniter repo plugin found).preserves

omit kept in
private theorem guarded_preserves (request : Request)
    {operation : Threaded codec (Except RouteExc Body)}
    (preserves : Preserves holds operation) : Preserves holds (guarded request operation) := by
  refine (Preserves.read _).bind fun settings => ?_
  cases verifyAdmin settings request with
  | error exc => exact .done _
  | ok _ => exact preserves.map respond

private theorem serve_preserves (app : App) (request : Request) :
    Preserves holds (serve app world request) := by
  unfold serve
  cases Route.ofPath request.path with
  | none => exact .done _
  | some route =>
      dsimp only
      by_cases allowed : request.method = route.method
      · rw [if_pos allowed]
        cases route with
        | health => exact (Preserves.read _).map _
        | sources => exact (sourcesBody_inert app.croniter).preserves.map _
        | catalog => exact (Preserves.read _).map _
        | source repo plugin =>
            unfold run
            dsimp only
            cases request.refresh with
            | none => exact .done _
            | some forced =>
                cases forced with
                | false => exact (cachedSource_inert app.croniter repo plugin).preserves.map _
                | true =>
                    exact guarded_preserves request
                      (forcedSource_preserves kept app.croniter repo plugin)
        | check repo plugin =>
            exact guarded_preserves request
              (forcedSource_preserves kept app.croniter repo plugin)
        | adminSync => exact guarded_preserves request ((syncAndDiscover_preserves kept).map _)
        | adminRefresh =>
            refine guarded_preserves request (Preserves.map _ ?_)
            exact (Preserves.read _).bind fun refs => checkRefs_preserves kept refs
      · rw [if_neg allowed]
        exact .done _

end Preserves

end Threaded

namespace Duty

/-- A duty preserves what the steps of its operations preserve. -/
theorem program_preserves {holds : Site codec → Prop} {duty : Duty}
    (kept : Threaded.Kept holds duty.world) (app : App) :
    Program.Preserves holds (duty.program app) := by
  cases duty with
  | startup world =>
      refine (Threaded.syncAndDiscover_preserves kept).bind ?_
      rintro (exc | count)
      · exact .done _
      · exact (Threaded.runDueChecks_preserves kept app.croniter).map _
  | tick world => exact (Threaded.runDueChecks_preserves kept app.croniter).map _
  | answer world request => exact Threaded.serve_preserves kept app request

/-- A turn: the job or the request runs from its beginning to its end at a given time. -/
def turn (app : App) (site : Site codec) (turn : Duty × Time) : Site codec :=
  ((turn.1.program app).alone { site with clock := turn.2 }).2

/-- Turns one after the other. -/
def turns (app : App) (taken : List (Duty × Time)) (site : Site codec) : Site codec :=
  taken.foldl (Duty.turn app) site

variable (app : App)

/-- Turns do to the service what the operations do. -/
theorem turns_service (taken : List (Duty × Time)) (site : Site codec) :
    (turns app taken site).service =
      taken.foldl (fun service turn => (turn.1.perform app turn.2 service).2) site.service := by
  induction taken generalizing site with
  | nil => rfl
  | cons turn rest ih =>
      obtain ⟨_, reached, _⟩ := turn.1.program_does app turn.2 { site with clock := turn.2 } rfl
      rw [turns, List.foldl_cons, List.foldl_cons, ← reached]
      exact ih _

/-- What every turn keeps, and the passing of time, holds after all of them. -/
theorem turns_preserve {holds : Site codec → Prop} {follows : Time → Time → Prop}
    {taken : List (Duty × Time)} {site : Site codec} (held : holds site)
    (forward : (site.clock :: taken.map Prod.snd).Pairwise follows)
    (passes : ∀ site now, follows site.clock now → holds site → holds { site with clock := now })
    (kept : ∀ turn ∈ taken, Threaded.Kept holds turn.1.world) : holds (turns app taken site) := by
  induction taken generalizing site with
  | nil => exact held
  | cons turn rest ih =>
      rw [List.forall_mem_cons] at kept
      rw [List.map_cons, List.pairwise_cons] at forward
      obtain ⟨_, _, stopped⟩ := turn.1.program_does app turn.2 { site with clock := turn.2 } rfl
      have now := passes site turn.2 (forward.1 _ (List.mem_cons_self ..)) held
      exact ih (program_preserves kept.1 app _ now) (stopped ▸ forward.2) kept.2

end Duty

/-- A record computed from a report with a string as its schedule can be written, and is
read back. -/
theorem DocStore.put_stateAfter (store : DocStore codec) (source : SourceKey)
    {report : CheckReport PyValue String} (wellTyped : PyValue.optionalStr report.schedule = true) :
    ∃ written, store.put (store.stateAfter source report) = .ok written ∧
      (written.get source).map SourceState.untyped = some (store.stateAfter source report) ∧
      ∀ other, other ≠ source → written.get other = store.get other := by
  have typed : PyValue.optionalStr (store.stateAfter source report).schedule = true := by
    rw [stateAfter, SourceState.recordCheck_schedule]
    by_cases loaded : report.loaded = true
    · rw [if_pos loaded]
      exact wellTyped
    · rw [if_neg loaded]
      exact store.get_optionalStr source
  have writable := store.put_isOk (store.stateAfter source report)
  rw [PyValue.representable_of_optionalStr typed] at writable
  cases put : store.put (store.stateAfter source report) with
  | error exc => rw [put] at writable; cases writable
  | ok written =>
      have reads := DocStore.get_put put
      rw [stateAfter_source, if_pos typed] at reads
      refine ⟨written, rfl, reads, ?_⟩
      intro other different
      obtain ⟨doc, _, rows⟩ := DocStore.put_rows put
      rw [DocStore.get, DocStore.get, rows, stateAfter_source, Function.update_of_ne different]

/-- The database accepts every write, and checks report strings as schedules, or none. -/
structure World.Regular (world : World) : Prop where
  accepts : ∀ source, world.storeFault source = none
  wellTyped : world.WellTyped

/-- The store holds of each source the fold of `record_check` over its reports. -/
def Site.Summarised (site : Site codec) : Prop :=
  ∀ source, (site.service.store.get source).map SourceState.untyped =
    storedAfter source.repo source.plugin (site.reportsOf source)

private theorem Site.reportsOf_noteReport (site : Site codec) (ref : PluginRef)
    (result : CheckResult) (source : SourceKey) :
    (site.noteReport ref result).reportsOf source =
      if ref.source = source then site.reportsOf source ++ [result.report ref site.clock]
      else site.reportsOf source := by
  unfold Site.reportsOf Site.noteReport
  by_cases same : ref.source = source
  · simp [same, List.filter_append]
  · simp [same, List.filter_append]

namespace Threaded

variable {world : World}

/-- A recording that the database accepts notes its report and puts the record. -/
theorem record_alone {ref : PluginRef} (sound : world.storeFault ref.source = none)
    (result : CheckResult) (site : Site codec) :
    (record world ref result).alone site =
      (site.noteReport ref result).put
        (site.service.store.stateAfter ref.source (result.report ref site.clock)) := by
  simp only [record, storedState, Program.alone_bind, Program.alone_atomic, Program.alone_read,
    sound]
  rfl

/-- A recording notes its report and, unless the database or the codec refuses the
record, stores it. -/
theorem record_leaves (world : World) (ref : PluginRef) (result : CheckResult)
    (site : Site codec) :
    ((record world ref result).alone site).2 = site.noteReport ref result ∨
      ∃ written, (site.noteReport ref result).service.store.put
          (site.service.store.stateAfter ref.source (result.report ref site.clock)) =
            .ok written ∧
        ((record world ref result).alone site).2 =
          { site.noteReport ref result with
            service := { (site.noteReport ref result).service with store := written } } := by
  cases fault : world.storeFault ref.source with
  | some exc =>
      refine .inl ?_
      simp only [record, Program.alone_bind, Program.alone_atomic, fault, Program.alone_done]
  | none =>
      rw [record_alone fault, Site.put]
      cases put : (site.noteReport ref result).service.store.put
          (site.service.store.stateAfter ref.source (result.report ref site.clock)) with
      | error exc => exact .inl rfl
      | ok written => exact .inr ⟨written, rfl, rfl⟩

/-- A recording leaves what is stored of other sources. -/
theorem record_get (world : World) {ref : PluginRef} (result : CheckResult) (site : Site codec)
    {source : SourceKey} (other : ref.source ≠ source) :
    ((record world ref result).alone site).2.service.store.get source =
      site.service.store.get source := by
  obtain same | ⟨written, put, same⟩ := record_leaves world ref result site
  · rw [same]
    rfl
  · obtain ⟨doc, _, rows⟩ := DocStore.put_rows put
    rw [same]
    dsimp only
    rw [DocStore.get, DocStore.get, rows, DocStore.stateAfter_source,
      Function.update_of_ne other.symm]
    rfl

private theorem record_reportsOf (world : World) (ref : PluginRef) (result : CheckResult)
    (site : Site codec) (source : SourceKey) :
    ((record world ref result).alone site).2.reportsOf source =
      (site.noteReport ref result).reportsOf source := by
  obtain same | ⟨written, _, same⟩ := record_leaves world ref result site
  · rw [same]
  · rw [same]
    rfl

/-- It extends the history of its source. -/
theorem record_summarised (regular : world.Regular) (ref : PluginRef)
    {result : CheckResult} (wellTyped : PyValue.optionalStr result.schedule = true) :
    Program.Preserves (fun site : Site codec => site.Summarised) (record world ref result) := by
  intro site summarised source
  have typed : PyValue.optionalStr (result.report ref site.clock).schedule = true := wellTyped
  obtain ⟨written, put, reads, others⟩ := site.service.store.put_stateAfter ref.source typed
  have stored : (site.noteReport ref result).service.store.put
      (site.service.store.stateAfter ref.source (result.report ref site.clock)) = .ok written := put
  rw [record_alone (regular.accepts _), Site.put, stored]
  change (written.get source).map SourceState.untyped =
    storedAfter source.repo source.plugin ((site.noteReport ref result).reportsOf source)
  rw [Site.reportsOf_noteReport]
  by_cases same : ref.source = source
  · rw [if_pos same, ← same, reads, storedAfter_append, ← summarised ref.source]
    rfl
  · rw [if_neg same, others source (Ne.symm same), summarised source]

/-- In a regular world every step keeps the store the fold of the reports. -/
theorem kept_summarised (regular : world.Regular) :
    Kept (fun site : Site codec => site.Summarised) world where
  note _ _ summarised := summarised
  publish _ _ summarised := summarised
  record ref _ _ _ collected :=
    record_summarised regular ref (regular.wellTyped.collected collected)

end Threaded

/-- What is stored after turns on a fresh deployment. -/
theorem turns_summarised (app : App) (settings : Settings) (clock : Time)
    (taken : List (Duty × Time)) (regular : ∀ turn ∈ taken, turn.1.world.Regular) :
    (Duty.turns app taken (Site.opening settings clock : Site codec)).Summarised := by
  have forward : (clock :: taken.map Prod.snd).Pairwise fun _ _ => True :=
    List.pairwise_of_forall fun _ _ => trivial
  exact Duty.turns_preserve app (fun _ => rfl) forward (fun _ _ _ => id) fun turn member =>
    Threaded.kept_summarised (regular turn member)

/-- **The store is the history.** After any turns of jobs and requests on a fresh
deployment, whose checks report strings as schedules and whose database accepts every
write, what is stored of a source is the fold of `record_check` over the reports of its
checks: a record as soon as there is one, and none before. -/
theorem turns_history (app : App) (settings : Settings) (clock : Time)
    (taken : List (Duty × Time)) (regular : ∀ turn ∈ taken, turn.1.world.Regular)
    {site : Site codec} (reached : site = Duty.turns app taken (Site.opening settings clock))
    (source : SourceKey) :
    (site.service.store.get source).map SourceState.untyped =
      storedAfter source.repo source.plugin (site.reportsOf source) :=
  reached ▸ turns_summarised app settings clock taken regular source

private theorem SourceState.untyped_injective : Function.Injective SourceState.untyped := by
  intro first second same
  have typed := congrArg SourceState.typed? same
  rw [typed?_untyped, typed?_untyped] at typed
  exact Option.some.inj typed

namespace PulseService

variable {croniter : Croniter} {world : World} {now : Time} {repo plugin : String}
  {service after : PulseService codec}

/-- A recording that returned a valid record is read back. -/
theorem record_reads {ref : PluginRef} {result : CheckResult} {state : SourceState PyValue}
    (recorded : service.record world ref result = (.ok state, after))
    (typed : PyValue.optionalStr state.schedule = true) :
    (after.store.get ⟨state.repo, state.plugin⟩).map SourceState.untyped = some state := by
  revert recorded
  refine record_cases world ref result service (motive := fun recorded =>
    recorded = (.ok state, after) → _) ?_ ?_ ?_
  · intro exc _ raised
    cases raised
  · intro exc _ _ raised
    cases raised
  · intro own store _ written same
    cases same
    have reads := DocStore.get_put (DocStore.recordCheck_eq_ok.mp written).2
    rw [if_pos typed] at reads
    exact reads

/-- What a forced check returns is read back when it validates. -/
theorem checkSource_reads {state : SourceState PyValue}
    (checked : service.checkSource world repo plugin = (.ok (some state), after))
    (typed : PyValue.optionalStr state.schedule = true) :
    (after.store.get ⟨state.repo, state.plugin⟩).map SourceState.untyped = some state := by
  unfold checkSource at checked
  cases found : service.getRef repo plugin with
  | none => rw [found] at checked; cases checked
  | some ref =>
      rw [found] at checked
      dsimp only at checked
      cases collected : (world.check ref).collect ("check timed out after " ++
          (service.note [.check ref]).settings.checkTimeout.text ++ "s") with
      | error exc => rw [collected] at checked; cases checked
      | ok result =>
          rw [collected] at checked
          dsimp only at checked
          rcases recorded : (service.note [.check ref]).record world ref result with
            ⟨exc | own, last⟩ <;> rw [recorded] at checked
          · cases checked
          · cases checked
            exact record_reads recorded typed

private theorem unhandled_eq_ok {α : Type} {result : Except PyExc α} {value : α} :
    unhandled result = .ok value ↔ result = .ok value := by
  cases result with
  | error exc => exact iff_of_false nofun nofun
  | ok own => exact ⟨fun same => congrArg _ (Except.ok.inj same),
      fun same => congrArg _ (Except.ok.inj same)⟩

/-- The answer to a forced check shows the record that is stored after it. -/
theorem forcedSource_reads {body : Body}
    (answered : service.forcedSource croniter world now repo plugin = (.ok body, after)) :
    ∃ status state, body = .source status ∧
      after.store.get ⟨status.repo, status.plugin⟩ = some state ∧
      after.status croniter now state.untyped = .ok status := by
  unfold forcedSource at answered
  rcases checked : service.checkSource world repo plugin with ⟨exc | found, last⟩ <;>
    rw [checked] at answered
  · cases answered
  · obtain ⟨answer, rfl⟩ := Prod.mk.inj answered
    cases found with
    | none => cases answer
    | some state =>
        obtain ⟨status, shown, rfl⟩ := Loop.map_eq_ok.mp answer
        replace shown := unhandled_eq_ok.mp shown
        cases valid : state.typed? with
        | none =>
            unfold PulseService.status at shown
            rw [valid] at shown
            cases shown
        | some typed =>
            obtain rfl := Threaded.untyped_of_typed? valid
            have reads := checkSource_reads checked typed.optionalStr_untyped
            obtain ⟨stored, present, same⟩ := Option.map_eq_some_iff.mp reads
            obtain rfl := SourceState.untyped_injective same
            have shows := status_eq_ok shown
            refine ⟨status, stored, rfl, ?_, shown⟩
            rw [shows]
            exact present

/-- What a cached request is answered about a source with a given last status: the status
with the link that the catalog has, or that the source is unknown. -/
def readBack (service : PulseService codec) (status : SourceStatus) : Except RouteExc Body :=
  match service.getRef status.repo status.plugin with
  | none => .error (.http 404 ("Unknown source " ++ status.repo ++ "/" ++ status.plugin) [])
  | some ref => .ok (.source { status with sourceUrl := ref.sourceUrl })

/-- A record that has been answered with is answered with again, but for the link. -/
theorem status_again {other : PulseService codec} {later : Time} {state : SourceState String}
    {status : SourceStatus} (answered : service.status croniter now state.untyped = .ok status)
    (same : other.settings = service.settings) :
    other.status croniter later state.untyped = .ok { status with
      sourceUrl := (other.getRef status.repo status.plugin).bind PluginRef.sourceUrl } := by
  unfold PulseService.status at answered ⊢
  rw [SourceState.typed?_untyped] at answered ⊢
  dsimp only at answered ⊢
  cases checked : state.checkedAt with
  | none =>
      rw [checked] at answered
      obtain rfl := Except.ok.inj answered
      rfl
  | some last =>
      rw [checked] at answered
      obtain ⟨next, set, rfl⟩ := Loop.map_eq_ok.mp answered
      dsimp only
      rw [same, show croniter.nextCheckAt state.schedule (some last)
        service.settings.schedulerInterval later = .ok next from set]
      rfl

/-- The cached answer about a source whose record has been answered with. -/
theorem cachedSource_again {other : PulseService codec} {later : Time}
    {state : SourceState String} {status : SourceStatus}
    (answered : service.status croniter now state.untyped = .ok status)
    (same : other.settings = service.settings)
    (present : other.store.get ⟨status.repo, status.plugin⟩ = some state) :
    other.cachedSource croniter later status.repo status.plugin = other.readBack status := by
  unfold cachedSource getStatus readBack
  cases found : other.getRef status.repo status.plugin with
  | none => rfl
  | some ref =>
      rw [Option.map_some, Option.map_some, present, Option.getD_some, answerSource,
        status_again answered same, found]
      rfl

end PulseService

/-- The request asks for a forced check of a source. -/
def Request.Forces (request : Request) (repo plugin : String) : Prop :=
  (request.method = "POST" ∧ Route.ofPath request.path = some (.check repo plugin)) ∨
    (request.method = "GET" ∧ Route.ofPath request.path = some (.source repo plugin) ∧
      request.refresh = some true)

/-- The request asks for what is stored of a source. -/
def Request.Reads (request : Request) (repo plugin : String) : Prop :=
  request.method = "GET" ∧ Route.ofPath request.path = some (.source repo plugin) ∧
    request.refresh = some false

/-- It is answered with the cached status. -/
theorem App.serve_reads (app : App) (world : World) (now : Time) {request : Request}
    {repo plugin : String} (service : PulseService codec) (reads : request.Reads repo plugin) :
    app.serve world now request service =
      (respond (service.cachedSource app.croniter now repo plugin), service) := by
  obtain ⟨method, routed, cached⟩ := reads
  simp only [App.serve, routed, method, Route.method, ↓reduceIte, App.run, cached]

/-- The payload that answers a forced check is that of the check. -/
theorem App.serve_forces {app : App} {world : World} {now : Time} {request : Request}
    {repo plugin : String} {service : PulseService codec} {status : SourceStatus}
    (forces : request.Forces repo plugin)
    (answered : (app.serve world now request service).1.body = .source status) :
    service.forcedSource app.croniter world now repo plugin =
      (.ok (.source status), (app.serve world now request service).2) := by
  have served : app.serve world now request service = App.guarded request
      (PulseService.forcedSource app.croniter world now repo plugin) service := by
    unfold App.serve
    obtain ⟨method, routed⟩ | ⟨method, routed, refresh⟩ := forces
    · simp only [routed, method, Route.method, ↓reduceIte, App.run]
    · simp only [routed, method, Route.method, ↓reduceIte, App.run, refresh]
  rw [served] at answered ⊢
  unfold App.guarded at answered ⊢
  cases verified : verifyAdmin service.settings request with
  | error exc =>
      rw [verified] at answered
      cases exc <;> cases answered
  | ok _ =>
      rw [verified] at answered
      dsimp only at answered ⊢
      rcases forced : service.forcedSource app.croniter world now repo plugin with
        ⟨exc | body, after⟩ <;> rw [forced] at answered
      · cases exc <;> cases answered
      · cases answered
        rfl

/-- The world of the first start reports strings as schedules and accepts every write. -/
theorem firstStart_regular : firstStart.Regular where
  accepts _ := rfl
  wellTyped ref result returned := by
    obtain rfl := CheckOutcome.returned.inj returned
    rfl

/-- After a sync and a check the store holds the fold of the one report. -/
theorem turns_history_firstStart :
    let site := Duty.turns plainApp [(syncDuty, 2), (checkDuty, 5)]
      (Site.opening {} 1 : Site plainCodec)
    (site.service.store.get ⟨"hub", "clinvar"⟩).map SourceState.untyped =
        storedAfter "hub" "clinvar" (site.reportsOf ⟨"hub", "clinvar"⟩) ∧
      (site.reportsOf ⟨"hub", "clinvar"⟩).map CheckReport.now = [5] := by
  refine ⟨turns_history plainApp {} 1 [(syncDuty, 2), (checkDuty, 5)] ?_ rfl _, rfl⟩
  simp only [List.forall_mem_cons, List.not_mem_nil, false_implies, implies_true, and_true]
  exact ⟨firstStart_regular, firstStart_regular⟩

/-- Turns leave the settings alone. -/
theorem turns_settings (app : App) (taken : List (Duty × Time)) (site : Site codec) :
    (Duty.turns app taken site).service.settings = site.service.settings := by
  have forward : (site.clock :: taken.map Prod.snd).Pairwise fun _ _ => True :=
    List.pairwise_of_forall fun _ _ => trivial
  have kept (turn : Duty × Time) (_ : turn ∈ taken) : Threaded.Kept (fun other : Site codec =>
      other.service.settings = site.service.settings) turn.1.world := by
    refine ⟨fun _ _ => id, fun _ _ => id, fun ref result _ _ _ other same => ?_⟩
    obtain ⟨_, reached, _⟩ := Threaded.record_does turn.1.world ref result other rfl
    rw [reached, ← same]
    exact PulseService.record_cases _ ref result other.service
      (motive := fun recorded => recorded.2.settings = other.service.settings)
      (fun _ _ => rfl) (fun _ _ _ => rfl) fun _ _ _ _ => rfl
  refine Duty.turns_preserve app ?_ forward ?_ kept
  · rfl
  · exact fun _ _ _ => id

/-- Nothing was reported of a source since certain reports, or else the record made of
them is still stored. -/
def Site.Retains (source : SourceKey) (reports : List (CheckReport PyValue String))
    (state : SourceState String) (site : Site codec) : Prop :=
  reports <+: site.reportsOf source ∧
    (site.reportsOf source = reports → site.service.store.get source = some state)

private theorem Threaded.kept_retains (source : SourceKey)
    (reports : List (CheckReport PyValue String)) (state : SourceState String) (world : World) :
    Threaded.Kept (fun site : Site codec => site.Retains source reports state) world where
  note _ _ retains := retains
  publish _ _ retains := retains
  record ref result _ _ _ site retains := by
    obtain ⟨begins, stays⟩ := retains
    rw [Site.Retains, Threaded.record_reportsOf, Site.reportsOf_noteReport]
    by_cases same : ref.source = source
    · rw [if_pos same]
      refine ⟨begins.trans (List.prefix_append _ _), fun unreported => ?_⟩
      have longer := congrArg List.length unreported
      have atLeast := begins.length_le
      rw [List.length_append, List.length_singleton] at longer
      omega
    · rw [if_neg same]
      exact ⟨begins, fun unreported =>
        (Threaded.record_get world result site same).trans (stays unreported)⟩

/-- **A forced check is read back.** When a request has had a source checked, every later
request for what is stored of it is answered with the status that the check answered
with, whatever the turns between them did and whatever came before, as long as they did
not record that source: with the link that the catalog then has, or that the source is
unknown if the catalog no longer has it. -/
theorem turns_readYourWrites (app : App) (start : Site codec) (time now : Time)
    (rest : List (Duty × Time)) (world later : World) {request again : Request}
    {repo plugin : String} (forces : request.Forces repo plugin) {checked last : Site codec}
    (checks : checked = Duty.turns app [(.answer world request, time)] start)
    (goesOn : last = Duty.turns app rest checked) {status : SourceStatus}
    (answered : (app.serve (world.at time) time request start.service).1.body = .source status)
    (unrecorded : last.reportsOf ⟨status.repo, status.plugin⟩ =
      checked.reportsOf ⟨status.repo, status.plugin⟩)
    (reads : again.Reads status.repo status.plugin) :
    app.serve later now again last.service =
      (respond (last.service.readBack status), last.service) := by
  have settingsKept : last.service.settings = checked.service.settings := by
    rw [goesOn, turns_settings]
  have reached : checked.service =
      (app.serve (world.at time) time request start.service).2 := by
    rw [checks]
    exact Duty.turns_service app [_] start
  obtain ⟨shown, state, same, present, shows⟩ := PulseService.forcedSource_reads
    (App.serve_forces forces answered)
  obtain rfl := Body.source.inj same
  rw [← reached] at present shows
  have forward : (checked.clock :: rest.map Prod.snd).Pairwise fun _ _ => True :=
    List.pairwise_of_forall fun _ _ => trivial
  have retains : last.Retains ⟨status.repo, status.plugin⟩
      (checked.reportsOf ⟨status.repo, status.plugin⟩) state := by
    rw [goesOn]
    exact Duty.turns_preserve app ⟨List.prefix_rfl, fun _ => present⟩ forward
      (fun _ _ _ => id) fun turn _ => Threaded.kept_retains _ _ _ turn.1.world
  rw [App.serve_reads app later now last.service reads,
    PulseService.cachedSource_again shows settingsKept (retains.2 unrecorded)]

private def checkedStatus : SourceStatus where
  repo := "hub"
  plugin := "clinvar"
  pluginType := .manifest
  currentVersion := some "2024-10"
  currentVersionAt := some 5
  lastVersion := none
  lastVersionAt := none
  downloadUrls := []
  status := .ok
  error := none
  schedule := none
  checkedAt := some 5
  nextCheckAt := some 86400000005
  updatedAt := some 5

/-- A sync after the repository was taken out of the registry. -/
private def emptySync : Duty :=
  .answer { firstStart with registry := .ok {} }
    ⟨"POST", ["admin", "sync"], [], [("X-Admin-Token", "changeme")]⟩

/-- A deployment in which a source was checked, and one sync later. -/
private def afterCheck : Site plainCodec :=
  Duty.turns plainApp [(.answer firstStart checkRequest, 5)]
    (Duty.turns plainApp [(syncDuty, 2)] (Site.opening {} 1))

private def afterSync : Site plainCodec := Duty.turns plainApp [(syncDuty, 9)] afterCheck

private def afterRemoval : Site plainCodec :=
  Duty.turns plainApp [(syncDuty, 9), (emptySync, 10)] afterCheck

private def readRequest : Request := ⟨"GET", ["sources", "hub", "clinvar"], [], []⟩

/-- A forced check is read back after a sync, and a source that a sync removes is unknown. -/
theorem turns_readYourWrites_firstStart :
    (plainApp.serve firstStart 11 readRequest afterSync.service).1 =
        respond (.ok (.source checkedStatus)) ∧
      (plainApp.serve firstStart 11 readRequest afterRemoval.service).1 =
        respond (.error (.http 404 "Unknown source hub/clinvar" [])) := by
  have answered : (plainApp.serve (firstStart.at 5) 5 checkRequest (Duty.turns plainApp
      [(syncDuty, 2)] (Site.opening {} 1 : Site plainCodec)).service).1.body =
        .source checkedStatus := rfl
  have reported : afterCheck.reportsOf ⟨"hub", "clinvar"⟩ =
      [({ status := .ok, latestVersion := some "2024-10" } : CheckResult).report newSource 5] := rfl
  have synced : afterSync.reportsOf ⟨"hub", "clinvar"⟩ =
      [({ status := .ok, latestVersion := some "2024-10" } : CheckResult).report newSource 5] := rfl
  have removed : afterRemoval.reportsOf ⟨"hub", "clinvar"⟩ =
      [({ status := .ok, latestVersion := some "2024-10" } : CheckResult).report newSource 5] := rfl
  have reads : readRequest.Reads "hub" "clinvar" := ⟨rfl, rfl, rfl⟩
  have again := turns_readYourWrites plainApp _ 5 11 [(syncDuty, 9)] firstStart firstStart
    (.inl ⟨rfl, rfl⟩) rfl rfl answered (synced.trans reported.symm) reads
  have unknown := turns_readYourWrites plainApp _ 5 11 [(syncDuty, 9), (emptySync, 10)] firstStart
    firstStart (.inl ⟨rfl, rfl⟩) rfl rfl answered (removed.trans reported.symm) reads
  exact ⟨congrArg Prod.fst again, congrArg Prod.fst unknown⟩

/-- The times of each readable record are in order, and have come. -/
def Site.Chronicled (site : Site codec) : Prop :=
  ∀ source state, site.service.store.get source = some state →
    Chronological state.untyped ∧ state.updatedAt ≤ site.clock

namespace Threaded

/-- Recording a report keeps the times of the records in order. -/
theorem record_chronicled (world : World) (ref : PluginRef) (result : CheckResult) :
    Program.Preserves (fun site : Site codec => site.Chronicled) (record world ref result) := by
  intro site chronicled
  obtain same | ⟨written, put, same⟩ := record_leaves world ref result site
  · rw [same]
    exact chronicled
  · intro source state stored
    by_cases own : source = ref.source
    · subst own
      have reads := DocStore.get_put put
      rw [same] at stored ⊢
      dsimp only at stored ⊢
      rw [DocStore.stateAfter_source, stored, Option.map_some] at reads
      split at reads
      · rw [DocStore.stateAfter] at reads
        have ordered : ∀ prior ∈ (site.service.store.get ref.source).map SourceState.untyped,
            Chronological prior ∧ prior.updatedAt ≤ (result.report ref site.clock).now := by
          intro prior present
          obtain ⟨own, found, rfl⟩ := Option.map_eq_some_iff.mp present
          exact chronicled ref.source own found
        have now := SourceState.recordCheck_updatedAt
          ((site.service.store.get ref.source).map SourceState.untyped) ref.source.repo
          ref.source.plugin (result.report ref site.clock)
        refine ⟨Option.some.inj reads ▸ Chronological.recordCheck _ _ ordered, ?_⟩
        rw [← Option.some.inj reads] at now
        exact Int.le_of_eq now
      · cases reads
    · rw [record_get world result site (Ne.symm own)] at stored
      rw [same]
      exact chronicled source state stored

end Threaded

/-- **Times are in order.** After any turns whose times do not go back, a readable
record's last version was seen before its current one, and that no later than the
source's last check, whose time has come. -/
theorem turns_chronological (app : App) (settings : Settings) (clock : Time)
    (taken : List (Duty × Time)) (forward : (clock :: taken.map Prod.snd).Pairwise (· ≤ ·))
    {site : Site codec} (reached : site = Duty.turns app taken (Site.opening settings clock))
    (source : SourceKey) (state : SourceState String)
    (stored : site.service.store.get source = some state) :
    Chronological state.untyped ∧ state.updatedAt ≤ site.clock := by
  have kept (turn : Duty × Time) (_ : turn ∈ taken) :
      Threaded.Kept (fun other : Site codec => other.Chronicled) turn.1.world :=
    ⟨fun _ _ => id, fun _ _ => id, fun ref result _ _ _ =>
      Threaded.record_chronicled turn.1.world ref result⟩
  have chronicled :
      (Duty.turns app taken (Site.opening settings clock : Site codec)).Chronicled := by
    refine Duty.turns_preserve app ?_ forward ?_ kept
    · intro source state stored
      have absent : (Site.opening settings clock : Site codec).service.store.get source = none :=
        rfl
      rw [absent] at stored
      cases stored
    · intro site now later chronicled source state stored
      obtain ⟨ordered, come⟩ := chronicled source state stored
      exact ⟨ordered, Int.le_trans come later⟩
  exact (reached ▸ chronicled) source state stored

/-- The record of the one check is in order. -/
theorem turns_chronological_firstStart :
    ∃ state, (Duty.turns plainApp [(syncDuty, 2), (checkDuty, 5)]
        (Site.opening {} 1 : Site plainCodec)).service.store.get ⟨"hub", "clinvar"⟩ = some state ∧
      Chronological state.untyped := by
  have present : ((Duty.turns plainApp [(syncDuty, 2), (checkDuty, 5)]
      (Site.opening {} 1 : Site plainCodec)).service.store.get ⟨"hub", "clinvar"⟩).isSome = true :=
    rfl
  obtain ⟨state, stored⟩ := Option.isSome_iff_exists.mp present
  exact ⟨state, stored, (turns_chronological plainApp {} 1 _ (by decide) rfl _ state stored).1⟩

end BiothingsPulse
