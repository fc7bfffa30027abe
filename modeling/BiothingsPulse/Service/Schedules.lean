import BiothingsPulse.Checker.Loader
import BiothingsPulse.Service.Sweep

/-!
# What a check does to the stored schedule

Recording trusts the schedule of a result by its status alone. The runner gives the
status `unsupported` both to a dumper that has nothing to detect and to a plugin whose
dumper could not be made, and the latter result has no schedule.
-/

namespace BiothingsPulse

variable {σ : Type} {codec : StateCodec}

/-- A check as the service waits for it: it ends, or the wait for it expires first. -/
inductive Attempt (σ : Type) where
  | ended (check : PluginCheck σ)
  | expired

namespace Attempt

def outcome : Attempt σ → CheckOutcome
  | .ended check => .ofCheck (checkPlugin check)
  | .expired => .timedOut

/-- A dumper was instantiated, and its check ended with one of the trusted statuses. -/
def Trusted : Attempt σ → Prop
  | .ended check => ∃ dumper result, check.load = .ok dumper ∧ checkPlugin check = .ok result ∧
      (result.status = .ok ∨ result.status = .unsupported)
  | .expired => False

/-- The check ends because the loader finds the plugin unsupported. -/
def Refused : Attempt σ → Prop
  | .ended check => check.scratch = .ok () ∧ check.cleanup = .ok () ∧
      ∃ exc, check.load = .error exc ∧ exc.kind = .unsupportedPlugin
  | .expired => False

end Attempt

namespace DocStore

/-- The stored schedule of a source. -/
def scheduleOf (store : DocStore codec) (source : SourceKey) : Option String :=
  (store.get source).bind SourceState.schedule

/-- The store after the outcome of a check has been collected and recorded. -/
def settle (store : DocStore codec) (ref : PluginRef) (outcome : CheckOutcome)
    (message : String) (now : Time) : DocStore codec :=
  match outcome.collect message with
  | .error _ => store
  | .ok result =>
      match store.record ref result now with
      | .error _ => store
      | .ok (_, written) => written

section Record

variable (store : DocStore codec) (ref : PluginRef) (result : CheckResult) (now : Time)

/-- The stored schedule as a check sees it. -/
theorem scheduleOf_map (source : SourceKey) :
    (store.scheduleOf source).map PyValue.str =
      ((store.get source).map SourceState.untyped).bind SourceState.schedule := by
  unfold scheduleOf
  cases store.get source <;> rfl

variable {store ref result now}

/-- After a recording, the stored schedule is that of the state it computed. -/
theorem scheduleOf_record {state : SourceState PyValue} {written : DocStore codec}
    (recorded : store.record ref result now = .ok (state, written))
    (wellTyped : PyValue.optionalStr state.schedule = true) :
    (written.scheduleOf ref.source).map PyValue.str = state.schedule := by
  obtain ⟨rfl, put⟩ := recordCheck_eq_ok.mp recorded
  have reads := get_put put
  rw [stateAfter_source, if_pos wellTyped] at reads
  rw [scheduleOf_map, reads, Option.bind_some]

private theorem record_schedule {state : SourceState PyValue} {written : DocStore codec}
    (recorded : store.record ref result now = .ok (state, written)) :
    state.schedule = if (result.report ref now).loaded then result.schedule
      else (store.scheduleOf ref.source).map PyValue.str := by
  obtain ⟨rfl, _⟩ := recordCheck_eq_ok.mp recorded
  rw [stateAfter, SourceState.recordCheck_schedule, scheduleOf_map]
  rfl

/-- A result without a trusted status keeps the stored schedule. -/
theorem scheduleOf_record_untrusted {state : SourceState PyValue} {written : DocStore codec}
    (recorded : store.record ref result now = .ok (state, written))
    (untrusted : (result.report ref now).loaded = false) :
    written.scheduleOf ref.source = store.scheduleOf ref.source := by
  have kept := record_schedule recorded
  rw [untrusted, if_neg Bool.false_ne_true] at kept
  have wellTyped : PyValue.optionalStr state.schedule = true := by
    rw [kept]
    cases store.scheduleOf ref.source <;> rfl
  have reads := scheduleOf_record recorded wellTyped
  rw [kept] at reads
  exact Option.map_injective (fun _ _ same => PyValue.str.inj same) reads

variable (store ref now) in
/-- A trusted result without a schedule is recorded, and removes the stored one. -/
theorem scheduleOf_record_none (trusted : (result.report ref now).loaded = true)
    (undeclared : result.schedule = none) :
    ∃ state written, store.record ref result now = .ok (state, written) ∧
      written.scheduleOf ref.source = none := by
  have writable := recordCheck_isOk store ref.source (result.report ref now)
  have representable : PyValue.representable (result.report ref now).schedule = true := by
    rw [show (result.report ref now).schedule = none from undeclared]
    rfl
  rw [representable, Bool.not_true, Bool.and_false] at writable
  cases recorded : store.record ref result now with
  | error exc =>
      rw [show store.recordCheck _ _ = _ from recorded] at writable
      cases writable
  | ok pair =>
      have removed := record_schedule recorded
      rw [if_pos trusted, undeclared] at removed
      have reads := scheduleOf_record recorded (by rw [removed]; rfl)
      rw [removed, Option.map_eq_none_iff] at reads
      exact ⟨pair.1, pair.2, rfl, reads⟩

end Record

/-- Settling is one of: nothing is recorded, or the collected result is. -/
theorem settle_cases {motive : DocStore codec → Prop} (store : DocStore codec)
    (ref : PluginRef) (outcome : CheckOutcome) (message : String) (now : Time)
    (unrecorded : motive store)
    (recorded : ∀ result state written, outcome.collect message = .ok result →
      store.record ref result now = .ok (state, written) → motive written) :
    motive (store.settle ref outcome message now) := by
  unfold settle
  cases collected : outcome.collect message with
  | error exc => exact unrecorded
  | ok result =>
      dsimp only
      cases persisted : store.record ref result now with
      | error exc => exact unrecorded
      | ok pair => exact recorded result pair.1 pair.2 collected persisted

end DocStore

namespace PulseService

variable (world : World) (service : PulseService codec)

/-- A recording that the database accepts leaves the store of the recorded document. -/
theorem record_store {ref : PluginRef} (sound : world.storeFault ref.source = none)
    (result : CheckResult) :
    (service.record world ref result).2.store =
      match service.store.record ref result (world.recordClock ref) with
      | .error _ => service.store
      | .ok (_, written) => written := by
  cases recorded : service.store.record ref result (world.recordClock ref) with
  | error exc => rw [record_of_error world ref result service sound recorded]; rfl
  | ok pair => rw [record_of_ok world ref result service sound recorded]

/-- One round of the collecting loop settles the outcome of its source. -/
theorem collectOne_store {refs : List PluginRef} {ref : PluginRef}
    (distinct : (refs.map PluginRef.key).Nodup) (member : ref ∈ refs)
    (sound : world.storeFault ref.source = none) :
    (collectOne world refs ref service).2.store =
      service.store.settle ref (world.check ref) "check timed out" (world.recordClock ref) := by
  unfold DocStore.settle
  cases collected : (world.check ref).collect "check timed out" with
  | error exc => rw [collectOne_of_error world distinct member service collected]
  | ok result =>
      rw [collectOne_of_ok world distinct member service collected]
      exact record_store world service sound result

/-- A forced check settles the outcome of the source it finds. -/
theorem checkSource_store {repo plugin : String} {ref : PluginRef}
    (found : service.getRef repo plugin = some ref)
    (sound : world.storeFault ref.source = none) :
    (service.checkSource world repo plugin).2.store =
      service.store.settle ref (world.check ref)
        ("check timed out after " ++ service.settings.checkTimeout.text ++ "s")
        (world.recordClock ref) := by
  have recorded := record_store world (service.note [.check ref]) sound
  unfold DocStore.settle checkSource
  simp only [found, note_settings]
  cases collected : (world.check ref).collect
      ("check timed out after " ++ service.settings.checkTimeout.text ++ "s") with
  | error exc => rfl
  | ok result =>
      dsimp only
      rw [← note_store service [.check ref], ← recorded result]
      rcases (service.note [.check ref]).record world ref result with ⟨_ | _, _⟩ <;> rfl

end PulseService

section Loading

/-- A check that returns has run its `with` block. -/
theorem loadAndRun_of_checkPlugin {check : PluginCheck σ} {result : CheckResult}
    (returned : checkPlugin check = .ok result) :
    check.scratch = .ok () ∧ check.cleanup = .ok () ∧ check.loadAndRun = .ok result := by
  unfold checkPlugin at returned
  cases scratch : check.scratch with
  | error exc => rw [scratch] at returned; cases returned
  | ok _ =>
      cases cleanup : check.cleanup with
      | error exc => rw [scratch, cleanup] at returned; cases returned
      | ok _ =>
          rw [scratch, cleanup] at returned
          exact ⟨rfl, rfl, returned⟩

/-- Without a dumper, only a refused plugin gets a trusted status. -/
theorem refused_of_trusted_status {check : PluginCheck σ} {result : CheckResult} {exc : PyExc}
    (returned : checkPlugin check = .ok result) (load : check.load = .error exc)
    (status : result.status = .ok ∨ result.status = .unsupported) :
    exc.kind = .unsupportedPlugin := by
  obtain ⟨_, _, ran⟩ := loadAndRun_of_checkPlugin returned
  rw [PluginCheck.loadAndRun, load] at ran
  dsimp only at ran
  split at ran
  · assumption
  · obtain rfl := Except.ok.inj ran
    rcases status with ok | unsupported
    · cases ok
    · cases unsupported
  · cases ran
  · obtain rfl := Except.ok.inj ran
    rcases status with ok | unsupported
    · cases ok
    · cases unsupported

/-- The result of a refused plugin: a trusted status, and no schedule. -/
theorem checkPlugin_of_refused {check : PluginCheck σ} {exc : PyExc}
    (scratch : check.scratch = .ok ()) (cleanup : check.cleanup = .ok ())
    (load : check.load = .error exc) (refused : exc.kind = .unsupportedPlugin) :
    checkPlugin check = .ok { status := .unsupported, error := some exc.message } := by
  simp only [checkPlugin, scratch, cleanup, PluginCheck.loadAndRun, load, refused]

end Loading

namespace Attempt

variable (store : DocStore codec) (ref : PluginRef) (message : String) (now : Time)

/-- An attempt that is neither trusted nor refused leaves the stored schedule alone. -/
theorem settle_schedule_of_not_refused {attempt : Attempt σ} (untrusted : ¬ attempt.Trusted)
    (admissible : ¬ attempt.Refused) :
    (store.settle ref attempt.outcome message now).scheduleOf ref.source =
      store.scheduleOf ref.source := by
  refine DocStore.settle_cases (motive := fun settled =>
    settled.scheduleOf ref.source = store.scheduleOf ref.source)
    store ref attempt.outcome message now rfl ?_
  intro result state written collected recorded
  apply DocStore.scheduleOf_record_untrusted recorded
  rw [Bool.eq_false_iff]
  intro loaded
  have status : result.status = .ok ∨ result.status = .unsupported := of_decide_eq_true loaded
  obtain returned | ⟨_, rfl⟩ := CheckOutcome.collect_cases collected
  · cases attempt with
    | expired => cases returned
    | ended check =>
        have returned : checkPlugin check = .ok result := by
          cases checked : checkPlugin check with
          | error exc => rw [outcome, checked] at returned; cases returned
          | ok own =>
              rw [outcome, checked] at returned
              exact congrArg Except.ok (CheckOutcome.returned.inj returned)
        cases load : check.load with
        | ok dumper => exact untrusted ⟨dumper, result, load, returned, status⟩
        | error exc =>
            obtain ⟨scratch, cleanup, _⟩ := loadAndRun_of_checkPlugin returned
            exact admissible ⟨scratch, cleanup, exc, load,
              refused_of_trusted_status returned load status⟩
  · rcases status with ok | unsupported
    · cases ok
    · cases unsupported

/-- A refused attempt leaves no schedule. -/
theorem settle_schedule_of_refused {attempt : Attempt σ} (refused : attempt.Refused) :
    (store.settle ref attempt.outcome message now).scheduleOf ref.source = none := by
  cases attempt with
  | expired => exact refused.elim
  | ended check =>
      obtain ⟨scratch, cleanup, exc, load, kind⟩ := refused
      have returned := checkPlugin_of_refused scratch cleanup load kind
      obtain ⟨state, written, recorded, removed⟩ :=
        DocStore.scheduleOf_record_none store ref now
          (show (CheckResult.report { status := .unsupported, error := some exc.message } ref
            now).loaded = true from rfl) rfl
      simp only [DocStore.settle, outcome, returned, CheckOutcome.ofCheck, CheckOutcome.collect,
        recorded]
      exact removed

private theorem not_trusted_of_refused {attempt : Attempt σ} (refused : attempt.Refused) :
    ¬ attempt.Trusted := by
  cases attempt with
  | expired => exact id
  | ended check =>
      rintro ⟨dumper, _, loaded, _⟩
      obtain ⟨_, _, exc, load, _⟩ := refused
      rw [load] at loaded
      cases loaded

end Attempt

/-- **When a check leaves the stored schedule to the dumpers that were made.** Over
every stored state, a check that does not instantiate a dumper and end `ok` or
`unsupported` keeps the stored schedule, if and only if the loader does not refuse the
plugin as unsupported or there was no schedule. -/
theorem settle_keepsSchedule_iff (store : DocStore codec) (ref : PluginRef)
    (attempt : Attempt σ) (message : String) (now : Time) :
    (¬ attempt.Trusted →
        (store.settle ref attempt.outcome message now).scheduleOf ref.source =
          store.scheduleOf ref.source) ↔
      ¬ attempt.Refused ∨ store.scheduleOf ref.source = none := by
  constructor
  · intro keeps
    by_cases refused : attempt.Refused
    · right
      rw [← keeps (Attempt.not_trusted_of_refused refused)]
      exact Attempt.settle_schedule_of_refused store ref message now refused
    · exact .inl refused
  · intro admissible untrusted
    by_cases refused : attempt.Refused
    · obtain unrefused | unscheduled := admissible
      · exact absurd refused unrefused
      · rw [unscheduled]
        exact Attempt.settle_schedule_of_refused store ref message now refused
    · exact Attempt.settle_schedule_of_not_refused store ref message now untrusted refused

section Upload

/-- A repository in which a manifest has lost its `data_url`. -/
private def uploadOnly : Runtime where
  tree := ⟨fun _ => false, fun _ => false⟩
  entries _ := []
  body _ := .plugin .done
  limit := 1000
  hasAttr _ _ _ := false
  dumperClasses _ _ := []
  manifest _ := .ok { checks := .error ⟨.unsupportedPlugin, "UnsupportedPlugin",
    "manifest has no dumper.data_url (upload-only)"⟩ }

private def uploadRef : PluginRef :=
  { scheduledRef with manifestPath := some ["r", "plugins", "s", "manifest.json"] }

private def uploadCheck : PluginCheck Unit where
  scratch := .ok ()
  load := (uploadOnly.loadDumper ⟨id, List.Perm.refl⟩ uploadRef ⟨[], ∅, []⟩).1.map
    fun _ => scheduledDumper none
  cleanup := .ok ()

/-- The schedule that the plugin declared while it could be loaded is lost. -/
theorem settle_uploadOnly :
    ∃ store : DocStore plainCodec, store.scheduleOf uploadRef.source = some "0 2 * * 0" ∧
      ¬ (¬ (Attempt.ended uploadCheck).Trusted →
        (store.settle uploadRef (Attempt.ended uploadCheck).outcome "check timed out" 2).scheduleOf
          uploadRef.source = store.scheduleOf uploadRef.source) := by
  have refused : (Attempt.ended uploadCheck).Refused := ⟨rfl, rfl, _, rfl, rfl⟩
  refine ⟨DocStore.empty.settle uploadRef (.returned (scheduledResult (some (.str "0 2 * * 0"))))
    "check timed out" 1, rfl, ?_⟩
  intro keeps
  have kept := keeps (Attempt.not_trusted_of_refused refused)
  rw [Attempt.settle_schedule_of_refused _ uploadRef "check timed out" 2 refused] at kept
  cases kept

end Upload

end BiothingsPulse
