import BiothingsPulse.Checker.Runner
import BiothingsPulse.Plugins.Models
import BiothingsPulse.Store.Documents

/-!
# Reading recorded checks back

A recorded state reads back as itself exactly when its schedule is a string or
`None`. Versions, URLs and errors reach the record stringified; the schedule is
the one value that travels from the plugin to the document uncoerced, so a
plugin whose `SCHEDULE` is a JSON value of another kind writes a document that
no longer validates, and its next check starts from no record.
-/

namespace BiothingsPulse

variable {σ : Type}

/-- The arguments with which the service records a result. -/
def CheckResult.report (result : CheckResult) (ref : PluginRef) (now : Time) :
    CheckReport PyValue String where
  now := now
  pluginType := ref.pluginType
  detectedVersion := result.latestVersion
  downloadUrls := some result.downloadUrls
  status := result.status
  error := result.error
  schedule := result.schedule

namespace DocStore

variable {codec : StateCodec}

/-- Persist the outcome of a check. -/
def record (store : DocStore codec) (ref : PluginRef) (result : CheckResult) (now : Time) :
    Except PyExc (SourceState PyValue × DocStore codec) :=
  store.recordCheck ref.source (result.report ref now)

/-- Whether a report writes a schedule that does not validate when read. -/
def unreadable (report : CheckReport PyValue String) : Bool :=
  report.loaded && !PyValue.optionalStr report.schedule && PyValue.representable report.schedule

/-- The computed state is ill typed yet representable exactly for an unreadable
report: what it keeps of the stored record is well typed. -/
theorem stateAfter_unreadable (store : DocStore codec) (source : SourceKey)
    (report : CheckReport PyValue String) :
    (!PyValue.optionalStr (store.stateAfter source report).schedule &&
        PyValue.representable (store.stateAfter source report).schedule) =
      unreadable report := by
  rw [stateAfter, SourceState.recordCheck_schedule, unreadable]
  by_cases loaded : report.loaded
  · rw [if_pos loaded, loaded, Bool.true_and]
  · rw [if_neg loaded, get_optionalStr, Bool.not_eq_true _ |>.mp loaded]
    rfl

/-- **A recorded state is read back unless its report is unreadable.** -/
theorem recordCheck_readBack_iff (store : DocStore codec) (source : SourceKey)
    (report : CheckReport PyValue String) :
    (∀ state written, store.recordCheck source report = .ok (state, written) →
        (written.get source).map SourceState.untyped = some state) ↔
      unreadable report = false := by
  rw [← stateAfter_unreadable store source report]
  constructor
  · intro readBack
    cases put : store.put (store.stateAfter source report) with
    | error exc =>
        have fails := put_isOk store (store.stateAfter source report)
        rw [put] at fails
        rw [← fails]
        exact Bool.and_false _
    | ok written =>
        have reads := readBack _ written (recordCheck_eq_ok.mpr ⟨rfl, put⟩)
        rw [← stateAfter_source store source report, get_put put] at reads
        by_cases wellTyped : PyValue.optionalStr (store.stateAfter source report).schedule
        · rw [wellTyped]
          rfl
        · rw [if_neg wellTyped] at reads
          cases reads
  · intro readable state written recorded
    obtain ⟨rfl, put⟩ := recordCheck_eq_ok.mp recorded
    have representable :
        PyValue.representable (store.stateAfter source report).schedule = true := by
      rw [← put_isOk store, put]
      rfl
    have wellTyped : PyValue.optionalStr (store.stateAfter source report).schedule = true := by
      simpa [representable] using readable
    have reads := get_put put
    rwa [stateAfter_source, wellTyped, if_pos rfl] at reads

end DocStore

/-- Whether release detection raises something the runner reports as an error. -/
def Dumper.detectionFails (dumper : Dumper σ) : Bool :=
  match dumper.detect.1 with
  | .error exc => exc.kind ≠ .notImplemented
  | .ok _ => false

/-- Whether the plugin loads, declares a schedule that JSON writes as something
other than a string, and gets through release detection. -/
def PluginCheck.declaresUnreadable (check : PluginCheck σ) : Bool :=
  match check.load with
  | .error _ => false
  | .ok dumper =>
      PyValue.isTrue dumper.schedule && !PyValue.optionalStr dumper.schedule &&
        PyValue.representable dumper.schedule && !dumper.detectionFails

/-- Closing the dumper either raises or leaves the outcome as it is. -/
theorem Dumper.closeWith_ok {dumper : Dumper σ} {outcome : Except PyExc CheckResult} {state : σ}
    {result : CheckResult} (closed : (dumper.closeWith outcome state).1 = .ok result) :
    outcome = .ok result := by
  unfold Dumper.closeWith at closed
  split at closed
  · split at closed
    · exact closed
    · cases closed
  · exact closed
  · exact closed

/-- The report of a dumper's result is unreadable exactly when the declared
schedule is and detection got through. -/
theorem runDumperCheck_unreadable {dumper : Dumper σ} {result : CheckResult}
    (returned : (runDumperCheck dumper).1 = .ok result) (ref : PluginRef) (now : Time) :
    DocStore.unreadable (result.report ref now) =
      (PyValue.isTrue dumper.schedule && !PyValue.optionalStr dumper.schedule &&
        PyValue.representable dumper.schedule && !dumper.detectionFails) := by
  unfold runDumperCheck at returned
  split at returned
  · cases returned
  · rename_i schedule declared
    have loadedCase : (!PyValue.optionalStr schedule && PyValue.representable schedule) =
        (PyValue.isTrue dumper.schedule && !PyValue.optionalStr dumper.schedule &&
          PyValue.representable dumper.schedule) := by
      rw [PyValue.orNone_eq declared]
      cases PyValue.isTrue dumper.schedule
      · rfl
      · simp only [↓reduceIte, Bool.true_and]
    split at returned
    · rename_i detection state detected
      obtain rfl := Except.ok.inj (Dumper.closeWith_ok returned)
      have succeeded : dumper.detectionFails = false := by
        rw [Dumper.detectionFails, detected]
      have loaded : ((detection.result schedule).report ref now).loaded = true ∧
          ((detection.result schedule).report ref now).schedule = schedule := by
        unfold Detection.result
        split <;> exact ⟨rfl, rfl⟩
      rw [DocStore.unreadable, loaded.1, loaded.2, succeeded, Bool.true_and, loadedCase]
      simp only [Bool.not_false, Bool.and_true]
    · rename_i exc state detected
      have handled := Dumper.closeWith_ok returned
      unfold Dumper.handle at handled
      by_cases missing : exc.kind = .notImplemented
      · rw [if_pos missing] at handled
        obtain rfl := Except.ok.inj handled
        have succeeded : dumper.detectionFails = false := by
          simp [Dumper.detectionFails, detected, missing]
        change (!PyValue.optionalStr schedule && PyValue.representable schedule) = _
        rw [loadedCase, succeeded]
        simp only [Bool.not_false, Bool.and_true]
      · have failed : dumper.detectionFails = true := by
          simp [Dumper.detectionFails, detected, missing]
        rw [if_neg missing] at handled
        split at handled
        · obtain rfl := Except.ok.inj handled
          rw [failed]
          exact (Bool.and_false _).symm
        · cases handled

/-- The same for every result `check_plugin` can return. -/
theorem checkPlugin_unreadable {check : PluginCheck σ} {result : CheckResult}
    (returned : checkPlugin check = .ok result) (ref : PluginRef) (now : Time) :
    DocStore.unreadable (result.report ref now) = check.declaresUnreadable := by
  have ran : check.loadAndRun = .ok result := by
    unfold checkPlugin at returned
    split at returned
    · cases returned
    · split at returned
      · cases returned
      · exact returned
  unfold PluginCheck.loadAndRun at ran
  unfold PluginCheck.declaresUnreadable
  cases load : check.load with
  | ok dumper =>
      rw [load] at ran
      exact runDumperCheck_unreadable ran ref now
  | error exc =>
      rw [load] at ran
      have undeclared : result.schedule = none := by
        simp only at ran
        split at ran <;> cases ran <;> rfl
      simp [DocStore.unreadable, CheckResult.report, undeclared, PyValue.optionalStr]

/-- **When a recorded check is read back.** For every result `check_plugin` can
return, the recorded state reads back as itself if and only if the plugin did not
load, declares no schedule or a string, declares one that JSON cannot represent
(the recording raises), or fails in release detection. -/
theorem record_readBack_iff {codec : StateCodec} (store : DocStore codec) (ref : PluginRef)
    (check : PluginCheck σ) (result : CheckResult) (returned : checkPlugin check = .ok result)
    (now : Time) :
    (∀ state written, store.record ref result now = .ok (state, written) →
        (written.get ref.source).map SourceState.untyped = some state) ↔
      check.declaresUnreadable = false := by
  rw [← checkPlugin_unreadable returned ref now]
  exact store.recordCheck_readBack_iff ref.source (result.report ref now)

/-- A dumper that finds release `1` and declares the given schedule. -/
def scheduledDumper (schedule : Option PyValue) : Dumper Unit where
  state := ()
  schedule := schedule
  createTodumpList state := (.ok (), state)
  setRelease := none
  release _ := .ok (some (.str "1"))
  assignRelease _ state := state
  toDump _ := .ok []
  releaseClient _ := none

/-- A check that loads such a dumper. -/
def scheduledCheck (schedule : Option PyValue) : PluginCheck Unit where
  scratch := .ok ()
  load := .ok (scheduledDumper schedule)
  cleanup := .ok ()

/-- What that check returns. -/
def scheduledResult (schedule : Option PyValue) : CheckResult where
  status := .ok
  latestVersion := some "1"
  schedule := schedule

/-- The plugin whose checks these are. -/
def scheduledRef : PluginRef where
  repo := "r"
  name := "s"
  pluginType := .manifest
  path := ["r", "plugins", "s"]

/-- A cron schedule is read back. -/
theorem record_readBack_cron :
    ∃ state written, (DocStore.empty : DocStore plainCodec).record scheduledRef
        (scheduledResult (some (.str "0 2 * * 0"))) 1 = .ok (state, written) ∧
      (written.get scheduledRef.source).map SourceState.untyped = some state :=
  ⟨_, _, rfl, (record_readBack_iff DocStore.empty scheduledRef
    (scheduledCheck (some (.str "0 2 * * 0"))) (scheduledResult (some (.str "0 2 * * 0"))) rfl
    1).mpr rfl _ _ rfl⟩

/-- The number `5` as the value of a manifest's `dumper.schedule`. -/
def numericSchedule : Option PyValue :=
  some (.other { truthy := .ok true, str := .ok "5", json := some "5" })

/-- **A numeric schedule makes the record unreadable.** The check succeeds and its
recording returns a state with the detected version, and afterwards the source
has no record. -/
theorem record_numericSchedule_unreadable :
    checkPlugin (scheduledCheck numericSchedule) = .ok (scheduledResult numericSchedule) ∧
      ∃ state written, (DocStore.empty : DocStore plainCodec).record scheduledRef
          (scheduledResult numericSchedule) 1 = .ok (state, written) ∧
        state.currentVersion = some "1" ∧ written.get scheduledRef.source = none ∧
        (written.get scheduledRef.source).map SourceState.untyped ≠ some state := by
  refine ⟨rfl, _, _, rfl, rfl, rfl, ?_⟩
  intro same
  cases same

end BiothingsPulse
