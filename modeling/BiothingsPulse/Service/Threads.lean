import BiothingsPulse.Foundation.Threads
import BiothingsPulse.Service.Operations

/-!
# The operations of the service as threads run them

The startup sync, the scheduler and the request handlers run in threads of one
process. What they share is the service: an operation reads the catalog, reads a
stored record, writes one, or replaces the catalog in separate atomic steps, and
takes its clock readings in between. Alone, each program does what the operation of
the same name does with its clocks stopped.
-/

namespace BiothingsPulse

open Foundation Foundation.Threads

variable {codec : StateCodec}

/-- What the threads share. Besides the service and the clock it keeps, for the
statements about runs, the reports handed to `record_check` and the catalogs that
were published, both in order. -/
structure Site (codec : StateCodec) where
  service : PulseService codec
  clock : Time
  reports : List (SourceKey × CheckReport PyValue String) := []
  published : List Catalog := []

/-- The world as one who reads the clock at the given time finds it. -/
def World.at (world : World) (now : Time) : World :=
  { world with dueClock := fun _ => now, recordClock := fun _ => now }

@[simp] private theorem World.at_check (world : World) (now : Time) :
    (world.at now).check = world.check := rfl

namespace Site

variable (site : Site codec)

def note (activities : List Activity) : Site codec :=
  { site with service := site.service.note activities }

/-- A check is about to be recorded, with the time read for it. -/
def noteReport (ref : PluginRef) (result : CheckResult) : Site codec :=
  { site.note [.record ref result] with
    reports := site.reports ++ [(ref.source, result.report ref site.clock)] }

/-- `self._catalog = catalog`. -/
def publish (catalog : Catalog) : Site codec :=
  { site with
    service := { site.service with catalog := catalog }
    published := site.published ++ [catalog] }

/-- `store.put`. -/
def put (state : SourceState PyValue) : Except PyExc (SourceState PyValue) × Site codec :=
  match site.service.store.put state with
  | .error exc => (.error exc, site)
  | .ok store => (.ok state, { site with service := { site.service with store := store } })

end Site

/-- A program of a thread of the process. -/
abbrev Threaded (codec : StateCodec) (ρ : Type) : Type := Program (Site codec) ρ

namespace Threaded

section Steps

def note (activities : List Activity) : Threaded codec Unit :=
  .change fun site => site.note activities

def listCatalog : Threaded codec (List PluginRef) := .read fun site => site.service.listCatalog

def getRef (repo plugin : String) : Threaded codec (Option PluginRef) :=
  .read fun site => site.service.getRef repo plugin

def settings : Threaded codec Settings := .read fun site => site.service.settings

def now : Threaded codec Time := .read Site.clock

/-- `store.get`. -/
def storedState (source : SourceKey) : Threaded codec (Option (SourceState String)) :=
  .read fun site => site.service.store.get source

end Steps

section Operations

variable (world : World)

/-- Git-sync all repositories and rebuild the plugin catalog. -/
def syncAndDiscover : Threaded codec (Except PyExc Nat) :=
  match world.registry with
  | .error exc => .done (.error exc)
  | .ok registry =>
      let repos := registry.resolvedRepos
      (note [.sync repos]).bind fun _ =>
        match PulseService.syncRegistry world repos with
        | .error exc => .done (.error exc)
        | .ok localPaths =>
            match PulseService.discover world localPaths repos .empty with
            | .error exc => .done (.error exc)
            | .ok catalog =>
                .atomic fun site => (.ok catalog.refs.length, site.publish catalog)

/-- Persist the outcome of a check: the clock is read, then the record, and the
updated record is written. -/
def record (ref : PluginRef) (result : CheckResult) :
    Threaded codec (Except PyExc (SourceState PyValue)) :=
  (Program.atomic fun site => (result.report ref site.clock, site.noteReport ref result)).bind
    fun report =>
      match world.storeFault ref.source with
      | some exc => .done (.error exc)
      | none =>
          (storedState ref.source).bind fun stored =>
            .atomic fun site => site.put
              (SourceState.recordCheck (stored.map SourceState.untyped) ref.repo ref.name report)

/-- One round of the collecting loop. -/
def collectOne (refs : List PluginRef) (ref : PluginRef) : Threaded codec (Except PyExc Unit) :=
  match PulseService.future world refs ref.key with
  | none => .done (.error ⟨.ordinary, "KeyError", "'" ++ ref.key ++ "'"⟩)
  | some outcome =>
      match outcome.collect "check timed out" with
      | .error exc => .done (.error exc)
      | .ok result => (record world ref result).andThen fun _ => .done (.ok ())

/-- Check the given refs concurrently and persist each result. -/
def checkRefs (refs : List PluginRef) : Threaded codec (Except PyExc Nat) :=
  (note (refs.map .check)).bind fun _ =>
    (Program.forEach (collectOne world refs) refs).andThen fun _ => .done (.ok refs.length)

/-- Force a fresh check and persist the outcome. -/
def checkSource (repo plugin : String) :
    Threaded codec (Except PyExc (Option (SourceState PyValue))) :=
  (getRef repo plugin).bind fun
    | none => .done (.ok none)
    | some ref =>
        (note [.check ref]).bind fun _ =>
          settings.bind fun settings =>
            match (world.check ref).collect
                ("check timed out after " ++ settings.checkTimeout.text ++ "s") with
            | .error exc => .done (.error exc)
            | .ok result => (record world ref result).andThen fun state => .done (.ok (some state))

/-- The record of a source, or a pending placeholder. -/
def cachedState (repo plugin : String) (pluginType : PluginType) :
    Threaded codec (SourceState String) :=
  (storedState ⟨repo, plugin⟩).bind fun
    | some state => .done state
    | none => now.map fun now => SourceState.initial repo plugin pluginType now

def getStatus (repo plugin : String) : Threaded codec (Option (SourceState String)) :=
  (getRef repo plugin).bind fun
    | none => .done none
    | some ref => (cachedState repo plugin ref.pluginType).map some

/-- Force-check every catalogued source. -/
def refreshAll : Threaded codec (Except PyExc Nat) := listCatalog.bind (checkRefs world)

variable (croniter : Croniter)

def isDue (ref : PluginRef) : Threaded codec (Except PyExc Bool) :=
  (storedState ref.source).bind fun state =>
    .read fun site => croniter.isDue (state.bind SourceState.schedule)
      (state.bind SourceState.checkedAt) site.service.settings.schedulerInterval site.clock

/-- Check only the sources whose schedule is due. -/
def runDueChecks : Threaded codec (Except PyExc Nat) :=
  listCatalog.bind fun refs =>
    (Program.select (isDue croniter) refs).andThen fun due =>
      match due with
      | [] => .done (.ok 0)
      | _ :: _ => (checkRefs world due).andThen fun _ => .done (.ok due.length)

end Operations

/-- Alone at a given time, a program does what an operation of the service does. -/
abbrev Does (codec : StateCodec) {ρ : Type} (now : Time) (program : Threaded codec ρ)
    (operation : PulseService codec → ρ × PulseService codec) : Prop :=
  program.Implements Site.service (fun site => site.clock = now) operation

section Alone

open Program (Implements)

variable {now : Time}

private theorem note_does (activities : List Activity) :
    Does codec now (note activities) fun service => ((), service.note activities) :=
  Implements.atomic fun _ stopped => ⟨rfl, rfl, stopped⟩

variable (world : World)

/-- Syncing and discovering read no clock. -/
theorem syncRegistry_at (repos : List RepoSpec) :
    PulseService.syncRegistry (world.at now) repos = PulseService.syncRegistry world repos := by
  induction repos with
  | nil => rfl
  | cons spec rest ih =>
      simp only [PulseService.syncRegistry, ih]
      rfl

private theorem discover_at (localPaths : String → Option PyPath) (repos : List RepoSpec)
    (catalog : Catalog) :
    PulseService.discover (world.at now) localPaths repos catalog =
      PulseService.discover world localPaths repos catalog := by
  induction repos generalizing catalog with
  | nil => rfl
  | cons spec rest ih =>
      simp only [PulseService.discover, ih]
      rfl

/-- Run alone, the steps of a rebuild come to the rebuild done in one go. -/
theorem syncAndDiscover_does :
    Does codec now (syncAndDiscover world) (PulseService.syncAndDiscover (world.at now)) := by
  intro site stopped
  cases read : world.registry with
  | error exc =>
      have sameRead : (world.at now).registry = .error exc := read
      simp only [syncAndDiscover, PulseService.syncAndDiscover, read, sameRead]
      exact ⟨rfl, rfl, stopped⟩
  | ok registry =>
      have sameRead : (world.at now).registry = .ok registry := read
      cases synced : PulseService.syncRegistry world registry.resolvedRepos with
      | error exc =>
          simp only [syncAndDiscover, PulseService.syncAndDiscover, read, sameRead, synced,
            syncRegistry_at]
          exact ⟨rfl, rfl, stopped⟩
      | ok localPaths =>
          cases completed : PulseService.discover world localPaths registry.resolvedRepos .empty <;>
            simp only [syncAndDiscover, PulseService.syncAndDiscover, read, sameRead, synced,
              completed, syncRegistry_at, discover_at] <;>
            exact ⟨rfl, rfl, stopped⟩

/-- Run alone, the steps of recording a report come to recording it in one go. -/
theorem record_does (ref : PluginRef) (result : CheckResult) :
    Does codec now (record world ref result)
      (PulseService.record (world.at now) ref result) := by
  intro site stopped
  subst stopped
  unfold record PulseService.record
  dsimp only [World.at]
  cases world.storeFault ref.source with
  | some exc => exact ⟨rfl, rfl, rfl⟩
  | none =>
      change ((site.noteReport ref result).put _).1 = _ ∧
        ((site.noteReport ref result).put _).2.service = _ ∧
        ((site.noteReport ref result).put _).2.clock = _
      unfold Site.put DocStore.record DocStore.recordCheck
      dsimp only [Site.noteReport, Site.note, PulseService.note_store, DocStore.stateAfter,
        PluginRef.source]
      cases site.service.store.put _ <;> exact ⟨rfl, rfl, rfl⟩

private theorem collectOne_does (refs : List PluginRef) (ref : PluginRef) :
    Does codec now (collectOne world refs ref)
      (PulseService.collectOne (world.at now) refs ref) := by
  unfold collectOne PulseService.collectOne
  have sameFuture : PulseService.future (world.at now) refs ref.key =
    PulseService.future world refs ref.key := rfl
  rw [sameFuture]
  cases PulseService.future world refs ref.key with
  | none => exact .done _
  | some outcome =>
      dsimp only
      cases outcome.collect "check timed out" with
      | error exc => exact .done _
      | ok result =>
          have recorded : Does codec now _ _ := (record_does world ref result).andThen
            fun _ => .done (.ok () : Except PyExc Unit)
          refine recorded.congr fun service => ?_
          dsimp only
          rcases service.record (world.at now) ref result with ⟨_ | _, _⟩ <;> rfl

private theorem checkRefs_does (refs : List PluginRef) :
    Does codec now (checkRefs world refs) (PulseService.checkRefs (world.at now) refs) := by
  have noted : Does codec now _ _ := (note_does (refs.map .check)).bind fun _ =>
    (Implements.forEach refs (collectOne_does world refs)).andThen fun _ =>
      .done (.ok refs.length : Except PyExc ℕ)
  refine noted.congr fun service => ?_
  unfold PulseService.checkRefs
  dsimp only
  rcases Loop.forEach (PulseService.collectOne (world.at now) refs) refs
    (service.note (refs.map .check)) with ⟨_ | _, _⟩ <;> rfl

/-- Run alone, listing the catalog comes to the catalog. -/
theorem listCatalog_does :
    Does codec now listCatalog fun service => (service.listCatalog, service) :=
  .read fun _ _ => rfl

/-- Run alone, reading a state comes to what is stored or to a new state. -/
theorem cachedState_does (repo plugin : String) (pluginType : PluginType) :
    Does codec now (cachedState repo plugin pluginType) fun service =>
      ((service.store.get ⟨repo, plugin⟩).getD
        (SourceState.initial repo plugin pluginType now), service) := by
  intro site stopped
  simp only [cachedState, storedState, Program.alone_bind, Program.alone_read]
  cases site.service.store.get ⟨repo, plugin⟩ with
  | none =>
      subst stopped
      exact ⟨rfl, rfl, rfl⟩
  | some state => exact ⟨rfl, rfl, stopped⟩

/-- Run alone, the steps of a status come to the status read in one go. -/
theorem getStatus_does (repo plugin : String) :
    Does codec now (getStatus repo plugin)
      fun service => (service.getStatus repo plugin now, service) := by
  intro site stopped
  simp only [getStatus, getRef, PulseService.getStatus, Program.alone_bind, Program.alone_read]
  cases site.service.getRef repo plugin with
  | none => exact ⟨rfl, rfl, stopped⟩
  | some ref => exact (cachedState_does repo plugin ref.pluginType).map some site stopped

/-- Run alone, the steps of a forced check come to the check done in one go. -/
theorem checkSource_does (repo plugin : String) :
    Does codec now (checkSource world repo plugin)
      (PulseService.checkSource (world.at now) repo plugin) := by
  intro site stopped
  simp only [checkSource, PulseService.checkSource, getRef, Program.alone_bind,
    Program.alone_read]
  cases found : site.service.getRef repo plugin with
  | none => exact ⟨rfl, rfl, stopped⟩
  | some ref =>
      simp only [note, settings, Program.alone_bind, Program.alone_change, Program.alone_read,
        Site.note, PulseService.note_settings, World.at_check]
      cases (world.check ref).collect _ with
      | error exc => exact ⟨rfl, rfl, stopped⟩
      | ok result =>
          have recorded : Does codec now _ _ := (record_does world ref result).andThen
            fun state => .done (.ok (some state) : Except PyExc (Option (SourceState PyValue)))
          obtain ⟨returned, reached, stayed⟩ := recorded (site.note [.check ref]) stopped
          refine ⟨returned.trans ?_, reached.trans ?_, stayed⟩ <;> dsimp only [Site.note] <;>
            rcases PulseService.record (world.at now) ref result _ with ⟨_ | _, _⟩ <;> rfl

/-- Run alone, the steps of a refresh come to the refresh done in one go. -/
theorem refreshAll_does :
    Does codec now (refreshAll world) (PulseService.refreshAll (world.at now)) :=
  listCatalog_does.bind fun refs => checkRefs_does world refs

variable (croniter : Croniter)

/-- Run alone, the steps of a test for being due come to the test made in one go. -/
theorem isDue_does (ref : PluginRef) :
    Does codec now (isDue croniter ref)
      fun service => (service.isDue croniter (world.at now) ref, service) := by
  intro site stopped
  subst stopped
  exact ⟨rfl, rfl, rfl⟩

/-- Run alone, the steps of the due checks come to the checks done in one go. -/
theorem runDueChecks_does :
    Does codec now (runDueChecks world croniter)
      (PulseService.runDueChecks croniter (world.at now)) := by
  intro site stopped
  obtain ⟨returned, reached, stayed⟩ := Implements.select site.service.listCatalog
    (isDue_does world croniter) site stopped
  simp only [runDueChecks, PulseService.runDueChecks, PulseService.dueRefs, listCatalog,
    Program.andThen, Program.alone_bind, Program.alone_read, returned]
  cases Loop.select (fun ref => site.service.isDue croniter (world.at now) ref)
    site.service.listCatalog with
  | error exc => exact ⟨rfl, reached, stayed⟩
  | ok due =>
      cases due with
      | nil => exact ⟨rfl, reached, stayed⟩
      | cons ref rest =>
          obtain ⟨answered, left, still⟩ := checkRefs_does world (ref :: rest) _ stayed
          rw [reached] at answered left
          simp only [Program.alone_bind, answered]
          rcases swept : site.service.checkRefs (world.at now) (ref :: rest) with
            ⟨exc | count, after⟩ <;> rw [swept] at left <;> exact ⟨rfl, left, still⟩

end Alone

end Threaded

end BiothingsPulse
