import BiothingsPulse.Store.History

/-!
# Where a record's fields come from

A recording builds its record from the one it read and from its own report. Whatever
the read record is, as long as each of its fields comes from some report of the source,
so does each field of the new one, and a version that is rotated out differs from the
one that replaces it. When the read record is not stamped later than the report, the
times of the new one are in order.
-/

namespace BiothingsPulse

variable {Sched Url : Type}

/-- A sighting is stamped with the time of its check. -/
theorem CheckReport.seenAt_of_sighting {report : CheckReport Sched Url} {sighting : Sighting}
    (seen : report.sighting? = some sighting) : sighting.seenAt = report.now := by
  unfold CheckReport.sighting? at seen
  split at seen
  · obtain ⟨version, _, rfl⟩ := Option.map_eq_some_iff.mp seen
    rfl
  · cases seen

namespace SourceState

/-- Recording a version leaves the version fields, or rotates them. -/
theorem versions_noteVersion (state : SourceState Sched) {report : CheckReport Sched Url}
    {version : String} (detected : report.detectedVersion = some version) :
    (state.noteVersion report).versions =
      if some version = state.versions.1.1 then state.versions
      else ((some version, some report.now),
        if state.versions.1.1.isSome then state.versions.1 else state.versions.2) := by
  have current : state.versions.1.1 = state.currentVersion := rfl
  unfold noteVersion retire
  rw [detected, current]
  by_cases same : some version = state.currentVersion
  · simp only [same, ne_eq, not_true_eq_false, ↓reduceIte]
  · cases present : state.currentVersion with
    | none =>
        simp only [reduceCtorEq, ne_eq, not_false_eq_true, ↓reduceIte, Option.isSome_none,
          Bool.false_eq_true]
        rfl
    | some older =>
        rw [present] at same
        simp only [same, ne_eq, not_false_eq_true, ↓reduceIte, Option.isSome_some]
        simp only [versions, present]

variable [ToString Url] (stored : Option (SourceState Sched)) (repo plugin : String)
  (report : CheckReport Sched Url)

/-- What a recording does to the version fields: nothing, or a sighting of a version
that is not the current one becomes current and the current one, if any, the last. -/
theorem versions_recordCheck_cases :
    (recordCheck stored repo plugin report).versions =
        (priorState repo plugin report stored).versions ∨
      ∃ sighting, report.sighting? = some sighting ∧
        (priorState repo plugin report stored).currentVersion ≠ some sighting.version ∧
        (recordCheck stored repo plugin report).versions =
          ((some sighting.version, some sighting.seenAt),
            if (priorState repo plugin report stored).currentVersion.isSome then
              (priorState repo plugin report stored).versions.1
            else (priorState repo plugin report stored).versions.2) := by
  unfold recordCheck priorState
  generalize stored.getD (initial repo plugin report.pluginType report.now) = prior
  dsimp only
  have kept : ((prior.noteAttempt report).noteSchedule report).versions = prior.versions := by
    rw [versions_noteSchedule, versions_noteAttempt]
  generalize (prior.noteAttempt report).noteSchedule report = attempted at kept
  cases seen : report.sighting? with
  | none => exact .inl ((versions_noteRelease_of_none _ _ seen).trans kept)
  | some sighting =>
      have ok : report.status = .ok := by
        by_contra failed
        simp [CheckReport.sighting?, failed] at seen
      obtain ⟨version, detected, rfl⟩ : ∃ version, report.detectedVersion = some version ∧
          ⟨version, report.now⟩ = sighting := by
        simpa [CheckReport.sighting?, ok, Option.map_eq_some_iff] using seen
      have noted := versions_noteVersion
        { attempted with downloadUrls := (report.downloadUrls.getD []).map toString } detected
      rw [show versions { attempted with
        downloadUrls := (report.downloadUrls.getD []).map toString } = prior.versions from kept]
        at noted
      unfold noteRelease
      rw [if_pos ok, noted]
      by_cases same : some version = prior.versions.1.1
      · exact .inl (if_pos same)
      · exact .inr ⟨_, rfl, Ne.symm same, if_neg same⟩

/-- A record is updated at the time of its last report. -/
theorem recordCheck_updatedAt :
    (recordCheck stored repo plugin report).updatedAt = report.now := by
  unfold recordCheck
  rw [noteRelease_eq, noteSchedule_eq]
  rfl

end SourceState

/-- A version and its time are those of a sighting among the reports, or absent. -/
def Sighted (reports : List (CheckReport Sched Url)) (version : Option String)
    (seenAt : Option Time) : Prop :=
  (version = none ∧ seenAt = none) ∨
    ∃ report ∈ reports, ∃ sighting, report.sighting? = some sighting ∧
      version = some sighting.version ∧ seenAt = some sighting.seenAt

/-- Each field of the record comes from one of the reports. -/
structure Attested [ToString Url] (reports : List (CheckReport Sched Url))
    (state : SourceState Sched) : Prop where
  pluginType : ∃ report ∈ reports, state.pluginType = report.pluginType
  current : Sighted reports state.currentVersion state.currentVersionAt
  last : Sighted reports state.lastVersion state.lastVersionAt
  rotated : ∀ version, state.lastVersion = some version →
    ∃ newer, state.currentVersion = some newer ∧ newer ≠ version
  downloadUrls : state.downloadUrls = [] ∨ ∃ report ∈ reports, report.status = .ok ∧
    state.downloadUrls = (report.downloadUrls.getD []).map toString
  schedule : state.schedule = none ∨ ∃ report ∈ reports, report.loaded = true ∧
    state.schedule = report.schedule
  attempt : ∃ report ∈ reports, state.status = report.status ∧ state.error = report.error ∧
    state.checkedAt = some report.now ∧ state.updatedAt = report.now

private theorem Sighted.mono {reports more : List (CheckReport Sched Url)} (listed : reports ⊆ more)
    {version : Option String} {seenAt : Option Time} (sighted : Sighted reports version seenAt) :
    Sighted more version seenAt :=
  sighted.imp_right fun ⟨report, member, seen⟩ => ⟨report, listed member, seen⟩

namespace Attested

variable [ToString Url] {reports : List (CheckReport Sched Url)}

/-- More reports attest what fewer do. -/
theorem mono {more : List (CheckReport Sched Url)} (listed : reports ⊆ more)
    {state : SourceState Sched} (attested : Attested reports state) : Attested more state where
  pluginType := by
    obtain ⟨report, member, own⟩ := attested.pluginType
    exact ⟨report, listed member, own⟩
  current := attested.current.mono listed
  last := attested.last.mono listed
  rotated := attested.rotated
  downloadUrls := attested.downloadUrls.imp_right fun ⟨report, member, own⟩ =>
    ⟨report, listed member, own⟩
  schedule := attested.schedule.imp_right fun ⟨report, member, own⟩ =>
    ⟨report, listed member, own⟩
  attempt := by
    obtain ⟨report, member, own⟩ := attested.attempt
    exact ⟨report, listed member, own⟩

variable {stored : Option (SourceState Sched)} (repo plugin : String)
  {report : CheckReport Sched Url}

/-- What a recording starts from has attested versions, or none. -/
theorem sighted_prior (attested : ∀ state ∈ stored, Attested reports state) :
    let prior := priorState repo plugin report stored
    Sighted reports prior.currentVersion prior.currentVersionAt ∧
      Sighted reports prior.lastVersion prior.lastVersionAt ∧
      ∀ version, prior.lastVersion = some version →
        ∃ newer, prior.currentVersion = some newer ∧ newer ≠ version := by
  cases stored with
  | none => exact ⟨.inl ⟨rfl, rfl⟩, .inl ⟨rfl, rfl⟩, nofun⟩
  | some state =>
      have own := attested state rfl
      exact ⟨own.current, own.last, own.rotated⟩

/-- **A recording on top of an attested record is attested**, by the reports that
attest the record and its own. -/
theorem recordCheck (attested : ∀ state ∈ stored, Attested reports state)
    (member : report ∈ reports) :
    Attested reports (SourceState.recordCheck stored repo plugin report) := by
  obtain ⟨current, last, rotated⟩ := @sighted_prior _ _ _ _ _ repo plugin report attested
  have pluginType := SourceState.recordCheck_pluginType stored repo plugin report
  have versions := SourceState.versions_recordCheck_cases stored repo plugin report
  have urls := SourceState.recordCheck_downloadUrls stored repo plugin report
  have schedule := SourceState.recordCheck_schedule stored repo plugin report
  obtain ⟨status, error, checkedAt⟩ := SourceState.recordCheck_attempt stored repo plugin report
  have updatedAt := SourceState.recordCheck_updatedAt stored repo plugin report
  generalize SourceState.recordCheck stored repo plugin report = state at *
  generalize priorState repo plugin report stored = prior at *
  have sighted : Sighted reports state.currentVersion state.currentVersionAt ∧
      Sighted reports state.lastVersion state.lastVersionAt ∧
      ∀ version, state.lastVersion = some version →
        ∃ newer, state.currentVersion = some newer ∧ newer ≠ version := by
    rcases versions with kept | ⟨sighting, seen, differs, rotates⟩
    · simp only [SourceState.versions, Prod.mk.injEq] at kept
      obtain ⟨⟨sameVersion, sameTime⟩, sameLast, sameLastTime⟩ := kept
      rw [sameVersion, sameTime, sameLast, sameLastTime]
      exact ⟨current, last, rotated⟩
    · simp only [SourceState.versions, Prod.mk.injEq] at rotates
      obtain ⟨⟨newVersion, newTime⟩, older⟩ := rotates
      rw [newVersion, newTime]
      refine ⟨.inr ⟨report, member, sighting, seen, rfl, rfl⟩, ?_⟩
      cases present : prior.currentVersion with
      | none =>
          rw [present, Option.isSome_none, if_neg Bool.false_ne_true, Prod.mk.injEq] at older
          rw [older.1, older.2]
          refine ⟨last, ?_⟩
          intro version isLast
          obtain ⟨newer, isCurrent, _⟩ := rotated version isLast
          cases present.symm.trans isCurrent
      | some retired =>
          rw [present, Option.isSome_some, if_pos rfl, Prod.mk.injEq] at older
          rw [older.1, older.2]
          refine ⟨present ▸ current, ?_⟩
          intro version isLast
          obtain rfl := Option.some.inj isLast
          exact ⟨sighting.version, rfl,
            fun same => differs (present.trans (congrArg some same.symm))⟩
  refine ⟨?_, sighted.1, sighted.2.1, sighted.2.2, ?_, ?_, report, member, status, error,
    checkedAt, updatedAt⟩
  · obtain own | ⟨earlier, rfl, kept⟩ := pluginType
    · exact ⟨report, member, own⟩
    · rw [kept]
      exact (attested earlier rfl).pluginType
  · by_cases ok : report.status = .ok
    · rw [if_pos ok] at urls
      exact .inr ⟨report, member, ok, urls⟩
    · rw [if_neg ok] at urls
      cases stored with
      | none => exact .inl urls
      | some earlier => exact urls ▸ (attested earlier rfl).downloadUrls
  · by_cases loaded : report.loaded = true
    · rw [if_pos loaded] at schedule
      exact .inr ⟨report, member, loaded, schedule⟩
    · rw [if_neg loaded] at schedule
      cases stored with
      | none => exact .inl schedule
      | some earlier => exact schedule ▸ (attested earlier rfl).schedule

end Attested

/-- The times of a checked record are in order: a last version was seen before the
current one, and that no later than the last check. -/
structure Chronological (state : SourceState Sched) : Prop where
  checked : state.checkedAt = some state.updatedAt
  paired : state.currentVersion.isSome = state.currentVersionAt.isSome
  current : ∀ seen ∈ state.currentVersionAt, seen ≤ state.updatedAt
  last : ∀ earlier ∈ state.lastVersionAt, ∃ seen ∈ state.currentVersionAt, earlier ≤ seen

namespace Chronological

variable [ToString Url] {stored : Option (SourceState Sched)} (repo plugin : String)
  {report : CheckReport Sched Url}

omit [ToString Url] in
private theorem prior
    (ordered : ∀ state ∈ stored, Chronological state ∧ state.updatedAt ≤ report.now) :
    let prior := priorState repo plugin report stored
    prior.currentVersion.isSome = prior.currentVersionAt.isSome ∧
      (∀ seen ∈ prior.currentVersionAt, seen ≤ report.now) ∧
      ∀ earlier ∈ prior.lastVersionAt, ∃ seen ∈ prior.currentVersionAt, earlier ≤ seen := by
  cases stored with
  | none => exact ⟨rfl, nofun, nofun⟩
  | some state =>
      obtain ⟨own, before⟩ := ordered state rfl
      exact ⟨own.paired, fun seen shown => Int.le_trans (own.current seen shown) before, own.last⟩

/-- **A recording that is not stamped before the record it read keeps the times in
order.** -/
theorem recordCheck
    (ordered : ∀ state ∈ stored, Chronological state ∧ state.updatedAt ≤ report.now) :
    Chronological (SourceState.recordCheck stored repo plugin report) := by
  obtain ⟨paired, current, last⟩ := prior repo plugin ordered
  have versions := SourceState.versions_recordCheck_cases stored repo plugin report
  obtain ⟨_, _, checkedAt⟩ := SourceState.recordCheck_attempt stored repo plugin report
  have updatedAt := SourceState.recordCheck_updatedAt stored repo plugin report
  generalize SourceState.recordCheck stored repo plugin report = state at *
  generalize priorState repo plugin report stored = prior at *
  have checked : state.checkedAt = some state.updatedAt := by rw [checkedAt, updatedAt]
  rcases versions with kept | ⟨sighting, seen, _, rotates⟩
  · simp only [SourceState.versions, Prod.mk.injEq] at kept
    obtain ⟨⟨sameVersion, sameTime⟩, sameLast, sameLastTime⟩ := kept
    refine ⟨checked, ?_, ?_, ?_⟩
    · rw [sameVersion, sameTime]
      exact paired
    · rw [sameTime, updatedAt]
      exact current
    · rw [sameTime, sameLastTime]
      exact last
  · simp only [SourceState.versions, Prod.mk.injEq] at rotates
    obtain ⟨⟨newVersion, newTime⟩, older⟩ := rotates
    have stampedNow := CheckReport.seenAt_of_sighting seen
    refine ⟨checked, by simp only [newVersion, newTime, Option.isSome_some], ?_, ?_⟩
    · intro time shown
      rw [newTime, stampedNow] at shown
      exact Int.le_of_eq ((Option.some.inj shown).symm.trans updatedAt.symm)
    · intro earlier isLast
      refine ⟨report.now, newTime.trans (congrArg some stampedNow), ?_⟩
      cases present : prior.currentVersion with
      | none =>
          rw [present, Option.isSome_none, if_neg Bool.false_ne_true, Prod.mk.injEq] at older
          rw [older.2] at isLast
          obtain ⟨first, shown, _⟩ := last earlier isLast
          rw [present, Option.mem_def.mp shown] at paired
          cases paired
      | some retired =>
          rw [present, Option.isSome_some, if_pos rfl, Prod.mk.injEq] at older
          rw [older.2] at isLast
          exact current earlier isLast

end Chronological

end BiothingsPulse
