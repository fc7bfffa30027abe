import BiothingsPulse.Api.Lifespan
import BiothingsPulse.Api.Requests
import BiothingsPulse.Service.Threads

/-!
# The threads of the application

The startup job, the scheduler's ticks and the request handlers, each as the program
that its thread runs. A handler reads the catalog once for its listing and again for
each source's link, and the store once for each source. Alone, a thread does what its
job does: the application that answers one request at a time is the one whose threads
take turns.
-/

namespace BiothingsPulse

open Foundation Foundation.Threads

variable {codec : StateCodec}

namespace Threaded

section Handlers

variable (croniter : Croniter) (world : World)

/-- The response for a record, with its next check time and source link. -/
def status (state : SourceState PyValue) : Threaded codec (Except PyExc SourceStatus) :=
  match state.typed? with
  | none => .done (.error ⟨.ordinary, "ValidationError", "Input should be a valid string"⟩)
  | some state =>
      let linked (status : SourceStatus) : Threaded codec (Except PyExc SourceStatus) :=
        (getRef state.repo state.plugin).map fun ref =>
          .ok { status with sourceUrl := ref.bind PluginRef.sourceUrl }
      match state.checkedAt with
      | none => linked (SourceStatus.fromState state)
      | some last =>
          (Program.read fun site => croniter.nextCheckAt state.schedule (some last)
            site.service.settings.schedulerInterval site.clock).andThen fun next =>
              linked { SourceStatus.fromState state with nextCheckAt := some next }

/-- Every discovered source with its last-known status. -/
def listSources : Threaded codec (Except PyExc (List SourceStatus)) :=
  listCatalog.bind <| Program.collect fun ref =>
    (cachedState ref.repo ref.name ref.pluginType).bind fun state =>
      status croniter state.untyped

def health (version : String) : Threaded codec Body :=
  .read fun site => site.service.health version

def sourcesBody : Threaded codec (Except RouteExc Body) :=
  (listSources croniter).map fun sources =>
    (PulseService.unhandled sources).map fun sources => .sources sources.length sources

def catalogBody : Threaded codec Body := .read fun site => site.service.catalogBody

/-- The answer for a source, or that it is unknown. -/
def answerSource (repo plugin : String) :
    Option (SourceState PyValue) → Threaded codec (Except RouteExc Body)
  | none => .done (.error (.http 404 ("Unknown source " ++ repo ++ "/" ++ plugin) []))
  | some state => (status croniter state).map fun status =>
      (PulseService.unhandled status).map Body.source

def cachedSource (repo plugin : String) : Threaded codec (Except RouteExc Body) :=
  (getStatus repo plugin).bind fun found =>
    answerSource croniter repo plugin (found.map SourceState.untyped)

def forcedSource (repo plugin : String) : Threaded codec (Except RouteExc Body) :=
  (checkSource world repo plugin).bind fun
    | .error exc => .done (.error (.unhandled exc))
    | .ok found => answerSource croniter repo plugin found

/-- The message with which an admin operation answers. -/
def answerCount (message : String) (operation : Threaded codec (Except PyExc Nat)) :
    Threaded codec (Except RouteExc Body) :=
  operation.map fun count =>
    (PulseService.unhandled count).map fun count => .message message (some count)

def adminSync : Threaded codec (Except RouteExc Body) :=
  answerCount "synced and rediscovered" (syncAndDiscover world)

def adminRefresh : Threaded codec (Except RouteExc Body) :=
  answerCount "refreshed all sources" (refreshAll world)

end Handlers

section Requests

variable (app : App) (world : World) (request : Request)

/-- An operation behind the admin guard. -/
def guarded (operation : Threaded codec (Except RouteExc Body)) : Threaded codec Response :=
  settings.bind fun settings =>
    match verifyAdmin settings request with
    | .error exc => .done (respond (.error exc))
    | .ok _ => operation.map respond

/-- The handlers of the routes. -/
def run (route : Route) : Threaded codec Response :=
  match route with
  | .health => (health app.version).map fun body => respond (.ok body)
  | .sources => (sourcesBody app.croniter).map respond
  | .catalog => catalogBody.map fun body => respond (.ok body)
  | .source repo plugin =>
      match request.refresh with
      | none => .done { statusCode := 422, body := .framework }
      | some true => guarded request (forcedSource app.croniter world repo plugin)
      | some false => (cachedSource app.croniter repo plugin).map respond
  | .check repo plugin => guarded request (forcedSource app.croniter world repo plugin)
  | .adminSync => guarded request (adminSync world)
  | .adminRefresh => guarded request (adminRefresh world)

/-- Answer one request. -/
def serve : Threaded codec Response :=
  match Route.ofPath request.path with
  | none => .done (app.unrouted request)
  | some route =>
      if request.method = route.method then run app world request route
      else .done
        { statusCode := 405, headers := [("Allow", route.method)], body := .framework }

end Requests

section Jobs

variable (croniter : Croniter) (world : World)

/-- `_initial_sync`. -/
def initialSync : Threaded codec (Except PyExc Unit) :=
  (syncAndDiscover world).bind fun
    | .error exc => .done (swallowed (α := Nat) (.error exc))
    | .ok _ => (runDueChecks world croniter).map swallowed

/-- `RefreshScheduler._run`. -/
def scheduledRun : Threaded codec (Except PyExc Unit) :=
  (runDueChecks world croniter).map swallowed

end Jobs

section Alone

open Program (Implements)

variable {now : Time} (croniter : Croniter) (world : World)

private theorem status_does (state : SourceState PyValue) :
    Does codec now (status croniter state)
      fun service => (service.status croniter now state, service) := by
  intro site stopped
  subst stopped
  unfold status PulseService.status
  cases state.typed? with
  | none => exact ⟨rfl, rfl, rfl⟩
  | some state =>
      dsimp only
      cases state.checkedAt with
      | none => exact ⟨rfl, rfl, rfl⟩
      | some last =>
          simp only [Program.andThen, Program.alone_bind, Program.alone_read]
          cases croniter.nextCheckAt state.schedule (some last)
            site.service.settings.schedulerInterval site.clock <;> exact ⟨rfl, rfl, rfl⟩

private theorem listSources_does :
    Does codec now (listSources croniter)
      fun service => (service.listSources croniter now, service) := by
  have shown (ref : PluginRef) : Does codec now
      ((cachedState ref.repo ref.name ref.pluginType).bind fun state =>
        status croniter state.untyped)
      fun service =>
        (service.status croniter now (service.cached now ref).untyped, service) :=
    (cachedState_does ref.repo ref.name ref.pluginType).bind fun state =>
      status_does croniter state.untyped
  exact listCatalog_does.bind fun refs => Implements.collect refs shown

private theorem sourcesBody_does :
    Does codec now (sourcesBody croniter)
      fun service => (service.sourcesBody croniter now, service) :=
  (listSources_does croniter).map _

private theorem answerSource_does (repo plugin : String) (found : Option (SourceState PyValue)) :
    Does codec now (answerSource croniter repo plugin found)
      fun service => (service.answerSource croniter repo plugin now found, service) := by
  cases found with
  | none => exact .done _
  | some state => exact (status_does croniter state).map _

private theorem cachedSource_does (repo plugin : String) :
    Does codec now (cachedSource croniter repo plugin)
      fun service => (service.cachedSource croniter now repo plugin, service) :=
  (getStatus_does repo plugin).bind fun found =>
    answerSource_does croniter repo plugin (found.map SourceState.untyped)

private theorem forcedSource_does (repo plugin : String) :
    Does codec now (forcedSource croniter world repo plugin)
      (PulseService.forcedSource croniter (world.at now) now repo plugin) := by
  intro site stopped
  obtain ⟨returned, reached, stayed⟩ := checkSource_does world repo plugin site stopped
  unfold forcedSource PulseService.forcedSource
  rw [Program.alone_bind, returned]
  rcases checked : site.service.checkSource (world.at now) repo plugin with ⟨exc | found, after⟩ <;>
    rw [checked] at reached
  · exact ⟨rfl, reached, stayed⟩
  · obtain rfl : Site.service _ = after := reached
    exact answerSource_does croniter repo plugin found _ stayed

private theorem adminSync_does :
    Does codec now (adminSync world) (PulseService.adminSync (world.at now)) := by
  have answered : Does codec now _ _ := (syncAndDiscover_does world).map fun count =>
    (PulseService.unhandled count).map fun count =>
      Body.message "synced and rediscovered" (some count)
  refine answered.congr fun service => ?_
  unfold PulseService.adminSync
  rcases service.syncAndDiscover (world.at now) with ⟨_ | _, _⟩ <;> rfl

private theorem adminRefresh_does :
    Does codec now (adminRefresh world) (PulseService.adminRefresh (world.at now)) := by
  have answered : Does codec now _ _ := (refreshAll_does world).map fun count =>
    (PulseService.unhandled count).map fun count =>
      Body.message "refreshed all sources" (some count)
  refine answered.congr fun service => ?_
  unfold PulseService.adminRefresh
  rcases service.refreshAll (world.at now) with ⟨_ | _, _⟩ <;> rfl

/-- Run alone, the steps of the startup job come to the job done in one go. -/
theorem initialSync_does :
    Does codec now (initialSync croniter world)
      (PulseService.initialSync croniter (world.at now)) := by
  intro site stopped
  obtain ⟨returned, reached, stayed⟩ := syncAndDiscover_does world site stopped
  unfold initialSync PulseService.initialSync
  rw [Program.alone_bind, returned]
  rcases synced : site.service.syncAndDiscover (world.at now) with ⟨exc | found, after⟩ <;>
    rw [synced] at reached
  · exact ⟨rfl, reached, stayed⟩
  · obtain rfl : Site.service _ = after := reached
    exact (runDueChecks_does world croniter).map swallowed _ stayed

/-- Run alone, the steps of a tick come to the tick done in one go. -/
theorem scheduledRun_does :
    Does codec now (scheduledRun croniter world)
      (PulseService.scheduledRun croniter (world.at now)) :=
  (runDueChecks_does world croniter).map swallowed

variable (app : App) (request : Request)

private theorem guarded_does {operation : Threaded codec (Except RouteExc Body)}
    {sequential : PulseService codec → Except RouteExc Body × PulseService codec}
    (does : Does codec now operation sequential) :
    Does codec now (guarded request operation) (App.guarded request sequential) := by
  intro site stopped
  simp only [guarded, App.guarded, settings, Program.alone_bind, Program.alone_read]
  cases verifyAdmin site.service.settings request with
  | error exc => exact ⟨rfl, rfl, stopped⟩
  | ok _ => exact does.map respond site stopped

private theorem run_does (route : Route) :
    Does codec now (run app world request route)
      (app.run (world.at now) now request route) := by
  cases route with
  | health => exact .read fun _ _ => rfl
  | sources => exact (sourcesBody_does app.croniter).map respond
  | catalog => exact .read fun _ _ => rfl
  | source repo plugin =>
      unfold run App.run
      dsimp only
      cases request.refresh with
      | none => exact .done _
      | some refresh =>
          cases refresh with
          | false => exact (cachedSource_does app.croniter repo plugin).map respond
          | true => exact guarded_does request (forcedSource_does app.croniter world repo plugin)
  | check repo plugin =>
      exact guarded_does request (forcedSource_does app.croniter world repo plugin)
  | adminSync => exact guarded_does request (adminSync_does world)
  | adminRefresh => exact guarded_does request (adminRefresh_does world)

/-- Run alone, the steps of a request come to the request served in one go. -/
theorem serve_does :
    Does codec now (serve app world request) (app.serve (world.at now) now request) := by
  unfold serve App.serve
  cases Route.ofPath request.path with
  | none => exact .done _
  | some route =>
      dsimp only
      by_cases allowed : request.method = route.method
      · simp only [if_pos allowed]
        exact run_does world app request route
      · simp only [if_neg allowed]
        exact .done _

end Alone

end Threaded

end BiothingsPulse
