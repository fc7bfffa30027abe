import BiothingsPulse.Api.Models
import BiothingsPulse.Service.Operations

/-!
# API endpoints

The handlers behind the routes, over the service. A handler raises an HTTP answer
or lets an exception of the service through.
-/

namespace BiothingsPulse

open Foundation

/-- What a handler raises. -/
inductive RouteExc where
  | http (statusCode : Nat) (detail : String) (headers : List (String × String))
  | unhandled (exc : PyExc)

namespace PulseService

variable {codec : StateCodec}

section Status

variable (croniter : Croniter) (service : PulseService codec)

/-- The response for a record, with its next check time and source link. -/
def status (now : Time) (state : SourceState PyValue) : Except PyExc SourceStatus :=
  match state.typed? with
  | none => .error ⟨.ordinary, "ValidationError", "Input should be a valid string"⟩
  | some state =>
      let sourceUrl := (service.getRef state.repo state.plugin).bind PluginRef.sourceUrl
      match state.checkedAt with
      | none => .ok { SourceStatus.fromState state with sourceUrl := sourceUrl }
      | some last =>
          (croniter.nextCheckAt state.schedule (some last) service.settings.schedulerInterval
            now).map fun next =>
              { SourceStatus.fromState state with
                nextCheckAt := some next
                sourceUrl := sourceUrl }

/-- The last-known record of a source, or a pending placeholder. -/
def cached (now : Time) (ref : PluginRef) : SourceState String :=
  (service.store.get ref.source).getD (SourceState.initial ref.repo ref.name ref.pluginType now)

/-- Every discovered source with its last-known status. -/
def listSources (now : Time) : Except PyExc (List SourceStatus) :=
  Loop.collect (fun ref => service.status croniter now (service.cached now ref).untyped)
    service.listCatalog

/-- The discovered sources, without the state store. -/
def catalogItems : List CatalogItem :=
  service.listCatalog.map fun ref =>
    { repo := ref.repo, plugin := ref.name, pluginType := ref.pluginType,
      sourceUrl := ref.sourceUrl }

end Status

/-- The outcome of a service operation as its handler passes it on. -/
def unhandled {α : Type} (result : Except PyExc α) : Except RouteExc α :=
  result.mapError RouteExc.unhandled

/-- The answer for a source, or that it is unknown. -/
def answerSource (croniter : Croniter) (service : PulseService codec) (repo plugin : String)
    (now : Time) (found : Option (SourceState PyValue)) : Except RouteExc Body :=
  match found with
  | none => .error (.http 404 ("Unknown source " ++ repo ++ "/" ++ plugin) [])
  | some state => (unhandled (service.status croniter now state)).map Body.source

section Handlers

variable (croniter : Croniter) (world : World) (now : Time) (version : String)

def health (service : PulseService codec) : Body :=
  .health version service.listCatalog.length
    ((service.settings.adminToken.map fun token => decide (token ≠ "")).getD false)

def sourcesBody (service : PulseService codec) : Except RouteExc Body :=
  (unhandled (service.listSources croniter now)).map fun sources =>
    .sources sources.length sources

def catalogBody (service : PulseService codec) : Body :=
  .catalog service.catalogItems.length service.catalogItems

/-- The cached branch of the source route. -/
def cachedSource (repo plugin : String) (service : PulseService codec) : Except RouteExc Body :=
  service.answerSource croniter repo plugin now
    ((service.getStatus repo plugin now).map SourceState.untyped)

/-- A forced check: the refresh branch of the source route, and the check route. -/
def forcedSource (repo plugin : String) (service : PulseService codec) :
    Except RouteExc Body × PulseService codec :=
  match service.checkSource world repo plugin with
  | (.error exc, service) => (.error (.unhandled exc), service)
  | (.ok found, service) => (service.answerSource croniter repo plugin now found, service)

def adminSync (service : PulseService codec) : Except RouteExc Body × PulseService codec :=
  match service.syncAndDiscover world with
  | (.error exc, service) => (.error (.unhandled exc), service)
  | (.ok count, service) => (.ok (.message "synced and rediscovered" (some count)), service)

def adminRefresh (service : PulseService codec) : Except RouteExc Body × PulseService codec :=
  match service.refreshAll world with
  | (.error exc, service) => (.error (.unhandled exc), service)
  | (.ok count, service) => (.ok (.message "refreshed all sources" (some count)), service)

end Handlers

end PulseService

end BiothingsPulse
