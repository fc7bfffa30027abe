import BiothingsPulse.Python.Values

/-!
# The per-source state record

The record kept for one source and the update a check makes to it. The schedule
is the one field that carries plugin data without coercion, so the record is
generic in what a schedule is; download URLs are generic in what is stringified.
-/

namespace BiothingsPulse

/-- The status of a source or of one check. The documented values have their own
constructors; the field itself holds any text. -/
inductive Status where
  | pending
  | ok
  | error
  | unsupported
  | other (text : String)
  deriving DecidableEq, Repr

def Status.text : Status → String
  | .pending => "pending"
  | .ok => "ok"
  | .error => "error"
  | .unsupported => "unsupported"
  | .other text => text

inductive PluginType where
  | manifest
  | advanced
  | unknown
  | other (text : String)
  deriving DecidableEq, Repr

def PluginType.text : PluginType → String
  | .manifest => "manifest"
  | .advanced => "advanced"
  | .unknown => "unknown"
  | .other text => text

/-- The truth value of the underlying text. -/
def PluginType.truthy : PluginType → Bool
  | .other text => text ≠ ""
  | _ => true

/-- The primary key of the state record. -/
structure SourceKey where
  repo : String
  plugin : String
  deriving DecidableEq, Repr

/-- What has been observed about one data source. -/
structure SourceState (Sched : Type) where
  repo : String
  plugin : String
  pluginType : PluginType := .unknown
  currentVersion : Option String := none
  currentVersionAt : Option Time := none
  lastVersion : Option String := none
  lastVersionAt : Option Time := none
  downloadUrls : List String := []
  schedule : Option Sched := none
  status : Status := .pending
  error : Option String := none
  checkedAt : Option Time := none
  updatedAt : Time
  deriving DecidableEq, Repr

/-- The outcome of one check as passed to `record_check`, with the clock reading
that call takes. -/
structure CheckReport (Sched Url : Type) where
  now : Time
  pluginType : PluginType
  detectedVersion : Option String
  downloadUrls : Option (List Url) := none
  status : Status := .ok
  error : Option String := none
  schedule : Option Sched := none
  deriving DecidableEq, Repr

/-- Whether the check says anything about the plugin's schedule: only a plugin that
actually loaded is trusted with it. -/
def CheckReport.loaded {Sched Url : Type} (report : CheckReport Sched Url) : Bool :=
  report.status = .ok ∨ report.status = .unsupported

namespace SourceState

variable {Sched Url : Type}

/-- The record of a source that has none yet. -/
def initial (repo plugin : String) (pluginType : PluginType) (now : Time) : SourceState Sched :=
  { repo := repo, plugin := plugin, pluginType := pluginType, updatedAt := now }

/-- The fields every check attempt sets, successful or not. -/
def noteAttempt (state : SourceState Sched) (report : CheckReport Sched Url) :
    SourceState Sched :=
  { state with
    pluginType := if report.pluginType.truthy then report.pluginType else state.pluginType
    status := report.status
    error := report.error
    updatedAt := report.now
    checkedAt := some report.now }

/-- A transient error does not wipe a known schedule. -/
def noteSchedule (state : SourceState Sched) (report : CheckReport Sched Url) :
    SourceState Sched :=
  if report.loaded then { state with schedule := report.schedule } else state

/-- Rotate the current version into the last one, when there is one. -/
def retire (state : SourceState Sched) : SourceState Sched :=
  if state.currentVersion.isSome then
    { state with
      lastVersion := state.currentVersion
      lastVersionAt := state.currentVersionAt }
  else state

/-- A detected version that differs from the current one replaces it. -/
def noteVersion (state : SourceState Sched) (report : CheckReport Sched Url) :
    SourceState Sched :=
  match report.detectedVersion with
  | none => state
  | some version =>
      if some version ≠ state.currentVersion then
        { state.retire with
          currentVersion := some version
          currentVersionAt := some report.now }
      else state

/-- What a successful check says about the release. -/
def noteRelease [ToString Url] (state : SourceState Sched) (report : CheckReport Sched Url) :
    SourceState Sched :=
  if report.status = .ok then
    { state with downloadUrls := (report.downloadUrls.getD []).map toString }.noteVersion report
  else state

/-- The state that `record_check` builds from the record it read, and writes. -/
def recordCheck [ToString Url] (stored : Option (SourceState Sched)) (repo plugin : String)
    (report : CheckReport Sched Url) : SourceState Sched :=
  let state := stored.getD (initial repo plugin report.pluginType report.now)
  ((state.noteAttempt report).noteSchedule report).noteRelease report

section Fields

variable (state : SourceState Sched) (report : CheckReport Sched Url)

/-- The four version fields. -/
def versions : (Option String × Option Time) × (Option String × Option Time) :=
  ((state.currentVersion, state.currentVersionAt), (state.lastVersion, state.lastVersionAt))

/-- Noting an attempt leaves the versions. -/
@[simp] theorem versions_noteAttempt : (state.noteAttempt report).versions = state.versions := rfl

/-- Noting a schedule leaves the versions. -/
@[simp] theorem versions_noteSchedule :
    (state.noteSchedule report).versions = state.versions := by
  unfold noteSchedule
  split <;> rfl

/-- Trusting a schedule touches no other field. -/
theorem noteSchedule_eq : state.noteSchedule report =
    { state with schedule := if report.loaded then report.schedule else state.schedule } := by
  unfold noteSchedule
  split <;> rfl

/-- Recording a version touches the four version fields only. -/
theorem noteVersion_eq : state.noteVersion report =
    { state with
      currentVersion := (state.noteVersion report).currentVersion
      currentVersionAt := (state.noteVersion report).currentVersionAt
      lastVersion := (state.noteVersion report).lastVersion
      lastVersionAt := (state.noteVersion report).lastVersionAt } := by
  unfold noteVersion retire
  cases report.detectedVersion with
  | none => rfl
  | some version =>
      by_cases same : some version = state.currentVersion
      · simp only [same, ne_eq, not_true_eq_false, ↓reduceIte]
      · by_cases present : state.currentVersion.isSome <;>
          simp only [same, present, ne_eq, not_false_eq_true, ↓reduceIte, Bool.false_eq_true]

/-- Recording a release touches the download URLs and the version fields only. -/
theorem noteRelease_eq [ToString Url] : state.noteRelease report =
    { state with
      currentVersion := (state.noteRelease report).currentVersion
      currentVersionAt := (state.noteRelease report).currentVersionAt
      lastVersion := (state.noteRelease report).lastVersion
      lastVersionAt := (state.noteRelease report).lastVersionAt
      downloadUrls := if report.status = .ok then (report.downloadUrls.getD []).map toString
        else state.downloadUrls } := by
  unfold noteRelease
  split
  · rw [noteVersion_eq]
  · rfl

end Fields

section RecordCheck

variable [ToString Url] (stored : Option (SourceState Sched)) (repo plugin : String)
  (report : CheckReport Sched Url)

/-- A recorded state keeps the key of the record it started from. -/
theorem recordCheck_key :
    (recordCheck stored repo plugin report).repo = (stored.map SourceState.repo).getD repo ∧
      (recordCheck stored repo plugin report).plugin =
        (stored.map SourceState.plugin).getD plugin := by
  unfold recordCheck
  rw [noteRelease_eq, noteSchedule_eq]
  cases stored <;> exact ⟨rfl, rfl⟩

/-- The fields of the attempt are those of the report. -/
theorem recordCheck_attempt :
    (recordCheck stored repo plugin report).status = report.status ∧
      (recordCheck stored repo plugin report).error = report.error ∧
      (recordCheck stored repo plugin report).checkedAt = some report.now := by
  unfold recordCheck
  rw [noteRelease_eq, noteSchedule_eq]
  exact ⟨rfl, rfl, rfl⟩

/-- The type is that of the report, or it was stored before. -/
theorem recordCheck_pluginType :
    (recordCheck stored repo plugin report).pluginType = report.pluginType ∨
      ∃ state, stored = some state ∧
        (recordCheck stored repo plugin report).pluginType = state.pluginType := by
  unfold recordCheck
  rw [noteRelease_eq, noteSchedule_eq]
  by_cases named : report.pluginType.truthy = true
  · exact .inl (if_pos named)
  · cases stored with
    | none => exact .inl (if_neg named)
    | some state => exact .inr ⟨state, rfl, if_neg named⟩

/-- Only a check in which the plugin loaded sets the schedule. -/
theorem recordCheck_schedule :
    (recordCheck stored repo plugin report).schedule =
      if report.loaded then report.schedule else stored.bind SourceState.schedule := by
  unfold recordCheck
  rw [noteRelease_eq, noteSchedule_eq]
  cases stored <;> rfl

/-- Only a successful check sets the download URLs. -/
theorem recordCheck_downloadUrls :
    (recordCheck stored repo plugin report).downloadUrls =
      if report.status = .ok then (report.downloadUrls.getD []).map toString
      else (stored.map SourceState.downloadUrls).getD [] := by
  unfold recordCheck
  rw [noteRelease_eq, noteSchedule_eq]
  cases stored <;> rfl

end RecordCheck

end SourceState

end BiothingsPulse
