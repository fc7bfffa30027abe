import BiothingsPulse.Foundation.Loop
import BiothingsPulse.Scheduling
import BiothingsPulse.Service.Catalog
import BiothingsPulse.Store.ReadBack

/-!
# Catalog, check orchestration and state persistence

The operations that the API routes and the scheduler call. An operation takes what
the world answers to it (`World`) and returns, besides its value or the exception
it raises, the service it leaves behind. The service carries a log of what its
operations started: checks, recordings and git syncs, in order.
-/

namespace BiothingsPulse

open Foundation

/-- How the future of a submitted check answers the collector that waits for it. -/
inductive CheckOutcome where
  | returned (result : CheckResult)
  /-- The wait for the future reached its timeout. -/
  | timedOut
  | raised (exc : PyExc)

namespace CheckOutcome

/-- The result of an expired wait. -/
def timeoutResult (message : String) : CheckResult :=
  { status := .error, error := some message }

/-- `future.result(timeout=…)` under the handler for `FutureTimeout`. -/
def collect (message : String) : CheckOutcome → Except PyExc CheckResult
  | .returned result => .ok result
  | .timedOut => .ok (timeoutResult message)
  | .raised exc => if exc.kind = .timeout then .ok (timeoutResult message) else .error exc

end CheckOutcome

/-- What an operation of the service can start. -/
inductive Activity where
  /-- A check is handed to the executor. -/
  | check (ref : PluginRef)
  /-- `record_check` is called with the outcome of a check. -/
  | record (ref : PluginRef) (result : CheckResult)
  /-- The repositories are git-synced. -/
  | sync (repos : List RepoSpec)

/-- What the world answers to one operation. -/
structure World where
  check : PluginRef → CheckOutcome
  /-- The clock as read when a source's due time is evaluated. -/
  dueClock : PluginRef → Time
  /-- The clock as read when a source's check is recorded. -/
  recordClock : PluginRef → Time
  /-- What the database raises when a source is recorded. -/
  storeFault : SourceKey → Option PyExc
  registry : Except PyExc Registry
  syncRepo : RepoSpec → Except PyExc PyPath
  discoverPlugins : String → PyPath → RepoSpec → Except PyExc (List PluginRef)

/-- A world in which every check is given up, the clocks stand still and no repository is
registered. -/
def World.quiet : World where
  check _ := .timedOut
  dueClock _ := 0
  recordClock _ := 0
  storeFault _ := none
  registry := .ok {}
  syncRepo _ := .ok []
  discoverPlugins _ _ _ := .ok []

structure PulseService (codec : StateCodec) where
  settings : Settings
  store : DocStore codec := .empty
  catalog : Catalog := .empty
  log : List Activity := []

namespace PulseService

variable {codec : StateCodec}

/-- Append to the log. -/
def note (service : PulseService codec) (activities : List Activity) : PulseService codec :=
  { service with log := service.log ++ activities }

/-- Noting activities leaves the settings. -/
@[simp] theorem note_settings (service : PulseService codec) (activities : List Activity) :
    (service.note activities).settings = service.settings := rfl

/-- Noting activities leaves the store. -/
@[simp] theorem note_store (service : PulseService codec) (activities : List Activity) :
    (service.note activities).store = service.store := rfl

/-- Noting activities leaves the catalog. -/
@[simp] theorem note_catalog (service : PulseService codec) (activities : List Activity) :
    (service.note activities).catalog = service.catalog := rfl

/-- Activities are noted at the end of the log. -/
@[simp] theorem note_log (service : PulseService codec) (activities : List Activity) :
    (service.note activities).log = service.log ++ activities := rfl

section Catalog

variable (world : World) (service : PulseService codec)

/-- Sync all repositories. One that fails is skipped; what is no `Exception` is
raised. -/
def syncRegistry : List RepoSpec → Except PyExc (String → Option PyPath)
  | [] => .ok fun _ => none
  | spec :: rest =>
      match world.syncRepo spec with
      | .error exc => if exc.isException then syncRegistry rest else .error exc
      | .ok path => (syncRegistry rest).map fun later name =>
          (later name).or (if name = spec.name then some path else none)

/-- The catalog of the plugins discovered in the synced repositories. -/
def discover (localPaths : String → Option PyPath) :
    List RepoSpec → Catalog → Except PyExc Catalog
  | [], catalog => .ok catalog
  | spec :: rest, catalog =>
      match localPaths spec.name with
      | none => discover localPaths rest catalog
      | some path =>
          match world.discoverPlugins spec.name path spec with
          | .error exc => .error exc
          | .ok refs => discover localPaths rest (refs.foldl Catalog.insert catalog)

/-- The catalog that a sync and discovery comes to. -/
def rebuild : Except PyExc Catalog :=
  match world.registry with
  | .error exc => .error exc
  | .ok registry =>
      match syncRegistry world registry.resolvedRepos with
      | .error exc => .error exc
      | .ok localPaths => discover world localPaths registry.resolvedRepos .empty

/-- Git-sync all repositories and rebuild the plugin catalog. -/
def syncAndDiscover : Except PyExc Nat × PulseService codec :=
  match world.registry with
  | .error exc => (.error exc, service)
  | .ok registry =>
      let repos := registry.resolvedRepos
      let service := service.note [.sync repos]
      match syncRegistry world repos with
      | .error exc => (.error exc, service)
      | .ok localPaths =>
          match discover world localPaths repos .empty with
          | .error exc => (.error exc, service)
          | .ok catalog => (.ok catalog.refs.length, { service with catalog := catalog })

/-- A rebuilt catalog is published, and nothing else but the log changes. -/
theorem syncAndDiscover_of_rebuild {catalog : Catalog} (rebuilt : rebuild world = .ok catalog) :
    ∃ repos, service.syncAndDiscover world =
      (.ok catalog.refs.length, { service.note [.sync repos] with catalog := catalog }) := by
  unfold rebuild at rebuilt
  cases read : world.registry with
  | error exc => rw [read] at rebuilt; cases rebuilt
  | ok registry =>
      rw [read] at rebuilt
      dsimp only at rebuilt
      cases synced : syncRegistry world registry.resolvedRepos with
      | error exc => rw [synced] at rebuilt; cases rebuilt
      | ok localPaths =>
          rw [synced] at rebuilt
          dsimp only at rebuilt
          exact ⟨registry.resolvedRepos, by simp only [syncAndDiscover, read, synced, rebuilt]⟩

def listCatalog : List PluginRef := service.catalog.list

def getRef (repo plugin : String) : Option PluginRef :=
  service.catalog.get? (repo ++ "/" ++ plugin)

end Catalog

section Checking

variable (world : World)

/-- Persist the outcome of a check. -/
def record (ref : PluginRef) (result : CheckResult) (service : PulseService codec) :
    Except PyExc (SourceState PyValue) × PulseService codec :=
  let service := service.note [.record ref result]
  match world.storeFault ref.source with
  | some exc => (.error exc, service)
  | none =>
      match service.store.record ref result (world.recordClock ref) with
      | .error exc => (.error exc, service)
      | .ok (state, store) => (.ok state, { service with store := store })

/-- `futures[key]`: the future of the last ref submitted under the key. -/
def future (refs : List PluginRef) (key : String) : Option CheckOutcome :=
  ((refs.filter fun ref => ref.key = key).getLast?).map world.check

/-- One round of the collecting loop: wait for the future, then record. -/
def collectOne (refs : List PluginRef) (ref : PluginRef) (service : PulseService codec) :
    Except PyExc Unit × PulseService codec :=
  match future world refs ref.key with
  | none => (.error ⟨.ordinary, "KeyError", "'" ++ ref.key ++ "'"⟩, service)
  | some outcome =>
      match outcome.collect "check timed out" with
      | .error exc => (.error exc, service)
      | .ok result =>
          match service.record world ref result with
          | (.error exc, service) => (.error exc, service)
          | (.ok _, service) => (.ok (), service)

/-- Check the given refs concurrently and persist each result. -/
def checkRefs (refs : List PluginRef) (service : PulseService codec) :
    Except PyExc Nat × PulseService codec :=
  match Loop.forEach (collectOne world refs) refs (service.note (refs.map .check)) with
  | (.error exc, service) => (.error exc, service)
  | (.ok _, service) => (.ok refs.length, service)

/-- Force a fresh check and persist the outcome; `None` for an unknown source. -/
def checkSource (repo plugin : String) (service : PulseService codec) :
    Except PyExc (Option (SourceState PyValue)) × PulseService codec :=
  match service.getRef repo plugin with
  | none => (.ok none, service)
  | some ref =>
      let service := service.note [.check ref]
      match (world.check ref).collect
          ("check timed out after " ++ service.settings.checkTimeout.text ++ "s") with
      | .error exc => (.error exc, service)
      | .ok result =>
          match service.record world ref result with
          | (.error exc, service) => (.error exc, service)
          | (.ok state, service) => (.ok (some state), service)

/-- The cached status, or a pending placeholder made at the given time, without
checking; `None` for a source that is not in the catalog. -/
def getStatus (repo plugin : String) (now : Time) (service : PulseService codec) :
    Option (SourceState String) :=
  (service.getRef repo plugin).map fun ref =>
    (service.store.get ⟨repo, plugin⟩).getD (SourceState.initial repo plugin ref.pluginType now)

/-- Force-check every catalogued source. -/
def refreshAll (service : PulseService codec) : Except PyExc Nat × PulseService codec :=
  service.checkRefs world service.listCatalog

end Checking

section Due

variable (croniter : Croniter) (world : World) (service : PulseService codec)

def isDue (ref : PluginRef) : Except PyExc Bool :=
  let state := service.store.get ref.source
  croniter.isDue (state.bind SourceState.schedule) (state.bind SourceState.checkedAt)
    service.settings.schedulerInterval (world.dueClock ref)

/-- The catalogued sources whose schedule is due. -/
def dueRefs : Except PyExc (List PluginRef) :=
  Loop.select (service.isDue croniter world) service.listCatalog

/-- Check only the sources whose schedule is due. -/
def runDueChecks : Except PyExc Nat × PulseService codec :=
  match service.dueRefs croniter world with
  | .error exc => (.error exc, service)
  | .ok due =>
      match due with
      | [] => (.ok 0, service)
      | _ :: _ =>
          match service.checkRefs world due with
          | (.error exc, service) => (.error exc, service)
          | (.ok _, service) => (.ok due.length, service)

end Due

end PulseService

end BiothingsPulse
