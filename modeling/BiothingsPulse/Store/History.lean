import BiothingsPulse.Foundation.Runs
import BiothingsPulse.Store.Base

/-!
# The record as a summary of its history

Folding `record_check` over all checks of one source keeps the last two runs of
the detected versions: a *sighting* is a successful check that detected a
version, and the sightings split into maximal runs of one version. The current
version is that of the last run, stamped when the run opened, and the last
version that of the run before it. The remaining fields summarise the last check
of the kind that sets them.
-/

namespace BiothingsPulse

open Foundation

variable {Sched Url : Type}

/-- A version detected by a successful check, with the time of that check. -/
structure Sighting where
  version : String
  seenAt : Time
  deriving DecidableEq, Repr

namespace CheckReport

/-- What a check contributes to the version fields. -/
def sighting? (report : CheckReport Sched Url) : Option Sighting :=
  if report.status = .ok then report.detectedVersion.map fun version => ⟨version, report.now⟩
  else none

end CheckReport

/-- The sightings of a history, in order. -/
def sightings (history : List (CheckReport Sched Url)) : List Sighting :=
  history.filterMap CheckReport.sighting?

/-- The first sighting of the last run of one version. -/
def currentSighting (history : List (CheckReport Sched Url)) : Option Sighting :=
  Runs.opening Sighting.version (sightings history)

/-- The first sighting of the run just before the last one. -/
def previousSighting (history : List (CheckReport Sched Url)) : Option Sighting :=
  Runs.openingBefore Sighting.version (sightings history)

/-- The record after a history of checks of one source that had none, each write
being read back unchanged by the next call. -/
def storedAfter [ToString Url] (repo plugin : String) (history : List (CheckReport Sched Url)) :
    Option (SourceState Sched) :=
  history.foldl (fun stored report => some (SourceState.recordCheck stored repo plugin report)) none

/-- A stored record summarises the history that ended with the check `last`. -/
structure Summarises [ToString Url] (state : SourceState Sched)
    (history : List (CheckReport Sched Url)) (last : CheckReport Sched Url) : Prop where
  currentVersion : state.currentVersion = (currentSighting history).map Sighting.version
  currentVersionAt : state.currentVersionAt = (currentSighting history).map Sighting.seenAt
  lastVersion : state.lastVersion = (previousSighting history).map Sighting.version
  lastVersionAt : state.lastVersionAt = (previousSighting history).map Sighting.seenAt
  downloadUrls : state.downloadUrls =
    (((history.filter (·.status = .ok)).getLast?.bind CheckReport.downloadUrls).getD []).map
      toString
  schedule : state.schedule =
    (history.filter CheckReport.loaded).getLast?.bind CheckReport.schedule
  status : state.status = last.status
  error : state.error = last.error
  checkedAt : state.checkedAt = some last.now

/-- The version fields that a list of sightings determines. -/
def versionsOf (seen : List Sighting) :
    (Option String × Option Time) × (Option String × Option Time) :=
  let current := Runs.opening Sighting.version seen
  let previous := Runs.openingBefore Sighting.version seen
  ((current.map Sighting.version, current.map Sighting.seenAt),
    (previous.map Sighting.version, previous.map Sighting.seenAt))

namespace SourceState

variable (state : SourceState Sched) (report : CheckReport Sched Url)

/-- A check without a sighting leaves the version fields alone. -/
theorem versions_noteRelease_of_none [ToString Url] (unseen : report.sighting? = none) :
    (state.noteRelease report).versions = state.versions := by
  unfold noteRelease
  by_cases ok : report.status = .ok
  · have undetected : report.detectedVersion = none := by
      simpa [CheckReport.sighting?, ok] using unseen
    simp only [ok, ↓reduceIte, noteVersion, undetected]
    rfl
  · simp only [ok, ↓reduceIte]

/-- A sighting extends the sightings behind the version fields. -/
theorem versions_noteRelease_of_some [ToString Url] {sighting : Sighting}
    (seen : report.sighting? = some sighting) {earlier : List Sighting}
    (law : state.versions = versionsOf earlier) :
    (state.noteRelease report).versions = versionsOf (earlier ++ [sighting]) := by
  have ok : report.status = .ok := by
    by_contra failed
    simp [CheckReport.sighting?, failed] at seen
  obtain ⟨version, detected, rfl⟩ : ∃ version, report.detectedVersion = some version ∧
      sighting = ⟨version, report.now⟩ := by
    simp only [CheckReport.sighting?, ok, ↓reduceIte, Option.map_eq_some_iff] at seen
    obtain ⟨version, detected, same⟩ := seen
    exact ⟨version, detected, same.symm⟩
  have current : state.currentVersion =
      (Runs.opening Sighting.version earlier).map Sighting.version :=
    congrArg (fun fields => fields.1.1) law
  simp only [noteRelease, ok, ↓reduceIte, noteVersion, detected]
  by_cases same : some version = state.currentVersion
  · -- The run goes on: both openings stay.
    have goesOn : (Runs.opening Sighting.version earlier).map Sighting.version =
        some (⟨version, report.now⟩ : Sighting).version := current.symm.trans same.symm
    obtain ⟨keepsLast, keepsBefore⟩ := Runs.opening_append_of_eq Sighting.version goesOn
    simp only [same, ne_eq, not_true_eq_false, ↓reduceIte]
    rw [versionsOf, keepsLast, keepsBefore]
    exact law
  · -- A new run opens: the old opening becomes the one before it.
    have differs : (Runs.opening Sighting.version earlier).map Sighting.version ≠
        some (⟨version, report.now⟩ : Sighting).version :=
      fun equal => same (by rw [current, equal])
    obtain ⟨opens, moves⟩ := Runs.opening_append_of_ne Sighting.version differs
    simp only [same, ne_eq, not_false_eq_true, ↓reduceIte]
    rw [versionsOf, opens, moves]
    cases openings : Runs.opening Sighting.version earlier with
    | none =>
        have earlierNil : earlier = [] := by
          have key := Runs.opening_key Sighting.version earlier
          rw [openings, Option.map_none, eq_comm, Option.map_eq_none_iff] at key
          exact List.getLast?_eq_none_iff.mp key
        subst earlierNil
        have absent : state.currentVersion = none := by rw [current, openings]; rfl
        have lasts : (state.lastVersion, state.lastVersionAt) = (none, none) :=
          congrArg Prod.snd law
        simp only [retire, absent, Option.isSome_none, Bool.false_eq_true, ↓reduceIte]
        exact Prod.ext rfl lasts
    | some first =>
        have pair : (state.currentVersion, state.currentVersionAt) =
            (some first.version, some first.seenAt) := by
          have fields := congrArg Prod.fst law
          simpa only [versions, versionsOf, openings, Option.map_some] using fields
        obtain ⟨hasVersion, hasTime⟩ := Prod.mk.inj pair
        simp only [retire, hasVersion, Option.isSome_some, ↓reduceIte, versions, hasTime,
          Option.map_some]

end SourceState

section Fold

variable [ToString Url] (repo plugin : String) (earlier : List (CheckReport Sched Url))
  (last : CheckReport Sched Url)

/-- The record a call starts from: the stored one, or a new one. -/
def priorState (stored : Option (SourceState Sched)) : SourceState Sched :=
  stored.getD (SourceState.initial repo plugin last.pluginType last.now)

omit [ToString Url] in
private theorem priorState_downloadUrls (stored : Option (SourceState Sched)) :
    (priorState repo plugin last stored).downloadUrls =
      (stored.map SourceState.downloadUrls).getD [] := by
  cases stored <;> rfl

omit [ToString Url] in
/-- The prior state has the stored schedule. -/
theorem priorState_schedule (stored : Option (SourceState Sched)) :
    (priorState repo plugin last stored).schedule = stored.bind SourceState.schedule := by
  cases stored <;> rfl

/-- The last report is recorded over what the earlier ones left. -/
theorem storedAfter_append :
    storedAfter repo plugin (earlier ++ [last]) =
      some (SourceState.recordCheck (storedAfter repo plugin earlier) repo plugin last) := by
  simp only [storedAfter, List.foldl_append, List.foldl_cons, List.foldl_nil]

/-- **Version fields of a history.** They are those of the last two runs of the
sightings, whether or not a record is stored yet. -/
theorem versions_priorState (history : List (CheckReport Sched Url)) :
    (priorState repo plugin last (storedAfter repo plugin history)).versions =
      versionsOf (sightings history) := by
  induction history using List.reverseRecOn generalizing last with
  | nil => rfl
  | append_singleton before report ih =>
      rw [storedAfter_append]
      let attempted := ((priorState repo plugin report (storedAfter repo plugin before)).noteAttempt
        report).noteSchedule report
      have law : attempted.versions = versionsOf (sightings before) := by
        rw [SourceState.versions_noteSchedule, SourceState.versions_noteAttempt, ih]
      change (attempted.noteRelease report).versions = _
      cases seen : report.sighting? with
      | none =>
          rw [attempted.versions_noteRelease_of_none report seen, law]
          simp [sightings, seen]
      | some sighting =>
          rw [attempted.versions_noteRelease_of_some report seen law]
          simp [sightings, seen]

/-- The download URLs are those of the last successful check. -/
theorem downloadUrls_priorState (history : List (CheckReport Sched Url)) :
    (priorState repo plugin last (storedAfter repo plugin history)).downloadUrls =
      (((history.filter (·.status = .ok)).getLast?.bind CheckReport.downloadUrls).getD []).map
        toString := by
  induction history using List.reverseRecOn generalizing last with
  | nil => rfl
  | append_singleton before report ih =>
      rw [storedAfter_append]
      change (SourceState.recordCheck _ repo plugin report).downloadUrls = _
      rw [SourceState.recordCheck_downloadUrls, ← priorState_downloadUrls repo plugin report, ih]
      by_cases ok : report.status = .ok <;> simp [ok]

/-- The schedule is that of the last check in which the plugin loaded. -/
theorem schedule_priorState (history : List (CheckReport Sched Url)) :
    (priorState repo plugin last (storedAfter repo plugin history)).schedule =
      (history.filter CheckReport.loaded).getLast?.bind CheckReport.schedule := by
  induction history using List.reverseRecOn generalizing last with
  | nil => rfl
  | append_singleton before report ih =>
      rw [storedAfter_append]
      change (SourceState.recordCheck _ repo plugin report).schedule = _
      rw [SourceState.recordCheck_schedule, ← priorState_schedule repo plugin report, ih]
      by_cases loaded : report.loaded <;> simp [loaded]

/-- **The record summarises its history.** After any history of checks that ends
with `last`, the stored record has the fields of the last two runs of sightings,
of the last successful check, of the last check that loaded the plugin, and of
`last`; the two versions differ, and a check without a sighting leaves the four
version fields as they were. -/
theorem storedAfter_summarises :
    ∃ state, storedAfter repo plugin (earlier ++ [last]) = some state ∧
      Summarises state (earlier ++ [last]) last ∧
      (∀ version, state.lastVersion = some version → state.currentVersion ≠ some version) ∧
      (last.sighting? = none → state.versions =
        (priorState repo plugin last (storedAfter repo plugin earlier)).versions) := by
  obtain ⟨state, stored⟩ : ∃ state, storedAfter repo plugin (earlier ++ [last]) = some state :=
    ⟨_, storedAfter_append repo plugin earlier last⟩
  have prior :
      priorState repo plugin last (storedAfter repo plugin (earlier ++ [last])) = state := by
    rw [stored]
    rfl
  have versions := versions_priorState repo plugin last (earlier ++ [last])
  have urls := downloadUrls_priorState repo plugin last (earlier ++ [last])
  have schedule := schedule_priorState repo plugin last (earlier ++ [last])
  rw [prior] at versions urls schedule
  have attempt : state.status = last.status ∧ state.error = last.error ∧
      state.checkedAt = some last.now := by
    rw [storedAfter_append, Option.some.injEq] at stored
    subst stored
    exact SourceState.recordCheck_attempt _ repo plugin last
  refine ⟨state, stored, ?_, ?_, ?_⟩
  · exact {
      currentVersion := congrArg (fun fields => fields.1.1) versions
      currentVersionAt := congrArg (fun fields => fields.1.2) versions
      lastVersion := congrArg (fun fields => fields.2.1) versions
      lastVersionAt := congrArg (fun fields => fields.2.2) versions
      downloadUrls := urls
      schedule := schedule
      status := attempt.1
      error := attempt.2.1
      checkedAt := attempt.2.2 }
  · intro version isLast isCurrent
    have current := congrArg (fun fields => fields.1.1) versions
    have previous := congrArg (fun fields => fields.2.1) versions
    obtain ⟨newer, opens, newerVersion⟩ := Option.map_eq_some_iff.mp (current.symm.trans isCurrent)
    obtain ⟨older, before, olderVersion⟩ := Option.map_eq_some_iff.mp (previous.symm.trans isLast)
    exact Runs.opening_ne_openingBefore Sighting.version opens before
      (olderVersion.trans newerVersion.symm)
  · intro unseen
    rw [versions, versions_priorState]
    simp [sightings, unseen]

end Fold

end BiothingsPulse
