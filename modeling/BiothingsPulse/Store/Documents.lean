import BiothingsPulse.Store.Base
import Mathlib.Logic.Function.Basic

/-!
# State records as stored documents

The stores keep one JSON document per source. Writing goes through the record
model's serialiser, which does not validate assigned attributes, and reading
through its validator; a document that does not validate reads as no record.
-/

namespace BiothingsPulse

namespace SourceState

/-- A validated record as the in-memory record that `record_check` goes on from. -/
def untyped (state : SourceState String) : SourceState PyValue :=
  { repo := state.repo
    plugin := state.plugin
    pluginType := state.pluginType
    currentVersion := state.currentVersion
    currentVersionAt := state.currentVersionAt
    lastVersion := state.lastVersion
    lastVersionAt := state.lastVersionAt
    downloadUrls := state.downloadUrls
    schedule := state.schedule.map PyValue.str
    status := state.status
    error := state.error
    checkedAt := state.checkedAt
    updatedAt := state.updatedAt }

/-- The validated record with the fields of an in-memory one, when its schedule
is a string or `None`. -/
def typed? (state : SourceState PyValue) : Option (SourceState String) :=
  let typed (schedule : Option String) : SourceState String :=
    { repo := state.repo
      plugin := state.plugin
      pluginType := state.pluginType
      currentVersion := state.currentVersion
      currentVersionAt := state.currentVersionAt
      lastVersion := state.lastVersion
      lastVersionAt := state.lastVersionAt
      downloadUrls := state.downloadUrls
      schedule := schedule
      status := state.status
      error := state.error
      checkedAt := state.checkedAt
      updatedAt := state.updatedAt }
  match state.schedule with
  | none => some (typed none)
  | some (.str text) => some (typed (some text))
  | some (.other _) => none

/-- A typed state is typed again. -/
@[simp] theorem typed?_untyped (state : SourceState String) :
    state.untyped.typed? = some state := by
  cases schedule : state.schedule <;> simp [untyped, typed?, schedule] <;> rw [← schedule]

/-- The schedule of a typed state is a string or missing. -/
theorem optionalStr_untyped (state : SourceState String) :
    PyValue.optionalStr state.untyped.schedule = true := by
  cases schedule : state.schedule <;> simp [untyped, schedule, PyValue.optionalStr]

/-- A record whose schedule is a string or `None` is a validated one. -/
theorem exists_untyped {state : SourceState PyValue}
    (wellTyped : PyValue.optionalStr state.schedule = true) :
    ∃ typed : SourceState String, typed.untyped = state := by
  cases state with
  | mk repo plugin pluginType currentVersion currentVersionAt lastVersion lastVersionAt
      downloadUrls schedule status error checkedAt updatedAt =>
    match schedule, wellTyped with
    | none, _ =>
        exact ⟨⟨repo, plugin, pluginType, currentVersion, currentVersionAt, lastVersion,
          lastVersionAt, downloadUrls, none, status, error, checkedAt, updatedAt⟩, rfl⟩
    | some (.str text), _ =>
        exact ⟨⟨repo, plugin, pluginType, currentVersion, currentVersionAt, lastVersion,
          lastVersionAt, downloadUrls, some text, status, error, checkedAt, updatedAt⟩, rfl⟩

end SourceState

/-- The record model's serialiser and validator. Assigned attributes are not
validated; a value is written as it is when JSON can represent it and raises
otherwise; validation inverts writing on well-typed records and rejects a record
in which a string field holds something else. -/
structure StateCodec where
  Doc : Type
  modelDumpJson : SourceState PyValue → Except PyExc Doc
  modelValidateJson : Doc → Except PyExc (SourceState String)
  dump_isOk : ∀ state, (modelDumpJson state).isOk = PyValue.representable state.schedule
  validate_dump : ∀ (state : SourceState String) (doc : Doc),
    modelDumpJson state.untyped = .ok doc → modelValidateJson doc = .ok state
  validate_dump_illTyped : ∀ (state : SourceState PyValue) (doc : Doc),
    PyValue.optionalStr state.schedule = false → modelDumpJson state = .ok doc →
      (modelValidateJson doc).isOk = false

namespace StateCodec

variable (codec : StateCodec)

/-- Parse a stored document, skipping any that does not validate. -/
def deserializeState (doc : codec.Doc) : Option (SourceState String) :=
  (codec.modelValidateJson doc).toOption

/-- A written record reads back as itself when it is well typed, and as no record
otherwise. -/
theorem deserialize_dump {state : SourceState PyValue} {doc : codec.Doc}
    (dumped : codec.modelDumpJson state = .ok doc) :
    (codec.deserializeState doc).map SourceState.untyped =
      if PyValue.optionalStr state.schedule then some state else none := by
  by_cases wellTyped : PyValue.optionalStr state.schedule = true
  · obtain ⟨typed, rfl⟩ := SourceState.exists_untyped wellTyped
    rw [deserializeState, codec.validate_dump typed doc dumped]
    simp only [wellTyped, ↓reduceIte]
    rfl
  · rw [Bool.not_eq_true] at wellTyped
    have rejected := codec.validate_dump_illTyped state doc wellTyped dumped
    simp only [wellTyped, Bool.false_eq_true, ↓reduceIte, deserializeState]
    cases validated : codec.modelValidateJson doc with
    | error exc => rfl
    | ok typed => simp [validated, Except.isOk, Except.toBool] at rejected

end StateCodec

/-- Documents that are the written records themselves. -/
def plainCodec : StateCodec where
  Doc := SourceState PyValue
  modelDumpJson state :=
    if PyValue.representable state.schedule then .ok state
    else .error ⟨.ordinary, "PydanticSerializationError", "Unable to serialize unknown type"⟩
  modelValidateJson doc :=
    match doc.typed? with
    | some state => .ok state
    | none => .error ⟨.ordinary, "ValidationError", "Input should be a valid string"⟩
  dump_isOk state := by
    cases representable : PyValue.representable state.schedule <;>
      simp [Except.isOk, Except.toBool]
  validate_dump state doc dumped := by
    split at dumped
    · obtain rfl := Except.ok.inj dumped
      simp
    · cases dumped
  validate_dump_illTyped state doc illTyped dumped := by
    split at dumped
    · obtain rfl := Except.ok.inj dumped
      have rejected : state.typed? = none := by
        unfold SourceState.typed?
        unfold PyValue.optionalStr at illTyped
        split at illTyped
        · rename_i schedule
          rw [schedule]
        · cases illTyped
      simp [rejected, Except.isOk, Except.toBool]
    · cases dumped

/-- The documents of a store, each readable one kept under the key it names. -/
structure DocStore (codec : StateCodec) where
  rows : SourceKey → Option codec.Doc
  keyed : ∀ source doc state, rows source = some doc → codec.deserializeState doc = some state →
    (⟨state.repo, state.plugin⟩ : SourceKey) = source

namespace DocStore

variable {codec : StateCodec}

def empty : DocStore codec where
  rows := fun _ => none
  keyed := by simp

/-- The stored record of a source, if there is a readable one. -/
def get (store : DocStore codec) (source : SourceKey) : Option (SourceState String) :=
  (store.rows source).bind codec.deserializeState

/-- Write a record under its own key, replacing what was there. -/
def put (store : DocStore codec) (state : SourceState PyValue) : Except PyExc (DocStore codec) :=
  match dumped : codec.modelDumpJson state with
  | .error exc => .error exc
  | .ok doc => .ok {
      rows := Function.update store.rows ⟨state.repo, state.plugin⟩ (some doc)
      keyed := by
        intro source found read present readable
        by_cases same : source = ⟨state.repo, state.plugin⟩
        · subst same
          rw [Function.update_self, Option.some.injEq] at present
          subst present
          have written := codec.deserialize_dump dumped
          rw [readable, Option.map_some] at written
          split at written
          · rw [← Option.some.inj written]
            rfl
          · cases written
        · rw [Function.update_of_ne same] at present
          exact store.keyed source found read present readable }

/-- The state `record_check` computes from the stored record, or from a new one. -/
def stateAfter (store : DocStore codec) (source : SourceKey)
    (report : CheckReport PyValue String) : SourceState PyValue :=
  SourceState.recordCheck ((store.get source).map SourceState.untyped) source.repo source.plugin
    report

/-- `record_check`: read the record or start one, update it, and write it. -/
def recordCheck (store : DocStore codec) (source : SourceKey)
    (report : CheckReport PyValue String) : Except PyExc (SourceState PyValue × DocStore codec) :=
  match store.put (store.stateAfter source report) with
  | .error exc => .error exc
  | .ok written => .ok (store.stateAfter source report, written)

/-- A recording that returns has put the state it returns. -/
theorem recordCheck_eq_ok {store written : DocStore codec} {source : SourceKey}
    {report : CheckReport PyValue String} {state : SourceState PyValue} :
    store.recordCheck source report = .ok (state, written) ↔
      store.stateAfter source report = state ∧ store.put state = .ok written := by
  unfold recordCheck
  constructor
  · intro recorded
    split at recorded
    · cases recorded
    · rename_i rows put
      obtain ⟨rfl, rfl⟩ := Prod.mk.inj (Except.ok.inj recorded)
      exact ⟨rfl, put⟩
  · rintro ⟨rfl, put⟩
    rw [put]

/-- A put that returns has written the document under the record's own key. -/
theorem put_rows {store written : DocStore codec} {state : SourceState PyValue}
    (put : store.put state = .ok written) :
    ∃ doc, codec.modelDumpJson state = .ok doc ∧
      written.rows = Function.update store.rows ⟨state.repo, state.plugin⟩ (some doc) := by
  unfold DocStore.put at put
  split at put
  · cases put
  · rename_i doc dumped
    obtain rfl := Except.ok.inj put
    exact ⟨doc, dumped, rfl⟩

/-- A put raises what the serialiser raises. -/
theorem put_error {store : DocStore codec} {state : SourceState PyValue} {exc : PyExc}
    (put : store.put state = .error exc) : codec.modelDumpJson state = .error exc := by
  unfold DocStore.put at put
  split at put
  · rename_i raised dumped
    rw [dumped, Except.error.inj put]
  · cases put

/-- A put record is read back under its key when it is well typed, and the key
reads as no record otherwise. -/
theorem get_put {store written : DocStore codec} {state : SourceState PyValue}
    (put : store.put state = .ok written) :
    (written.get ⟨state.repo, state.plugin⟩).map SourceState.untyped =
      if PyValue.optionalStr state.schedule then some state else none := by
  obtain ⟨doc, dumped, rows⟩ := put_rows put
  rw [get, rows, Function.update_self, Option.bind_some]
  exact codec.deserialize_dump dumped

/-- A put succeeds exactly when JSON can represent the schedule. -/
theorem put_isOk (store : DocStore codec) (state : SourceState PyValue) :
    (store.put state).isOk = PyValue.representable state.schedule := by
  rw [← codec.dump_isOk]
  cases put : store.put state with
  | error exc => rw [put_error put]; rfl
  | ok written =>
      obtain ⟨doc, dumped, _⟩ := put_rows put
      rw [dumped]
      rfl

/-- The record read for a source names that source. -/
theorem get_key {store : DocStore codec} {source : SourceKey} {state : SourceState String}
    (present : store.get source = some state) :
    (⟨state.repo, state.plugin⟩ : SourceKey) = source := by
  obtain ⟨doc, found, readable⟩ := Option.bind_eq_some_iff.mp present
  exact store.keyed source doc state found readable

/-- The record that a check starts from is well typed. -/
theorem get_optionalStr (store : DocStore codec) (source : SourceKey) :
    PyValue.optionalStr (((store.get source).map SourceState.untyped).bind
      SourceState.schedule) = true := by
  cases present : store.get source with
  | none => rfl
  | some state => exact state.optionalStr_untyped

/-- The state computed for a source is that source's. -/
theorem stateAfter_source (store : DocStore codec) (source : SourceKey)
    (report : CheckReport PyValue String) :
    (⟨(store.stateAfter source report).repo, (store.stateAfter source report).plugin⟩ :
      SourceKey) = source := by
  obtain ⟨repo, plugin⟩ := SourceState.recordCheck_key
    ((store.get source).map SourceState.untyped) source.repo source.plugin report
  rw [stateAfter, repo, plugin]
  cases present : store.get source with
  | none => rfl
  | some prior => exact get_key present

/-- The row a recording leaves under its source: the written state, if it can be
written. -/
theorem recordCheck_row (store : DocStore codec) (source : SourceKey)
    (report : CheckReport PyValue String) :
    (store.recordCheck source report).map (fun recorded => recorded.2.rows source) =
      (codec.modelDumpJson (store.stateAfter source report)).map some := by
  unfold recordCheck
  cases put : store.put (store.stateAfter source report) with
  | error exc => rw [put_error put]; rfl
  | ok written =>
      obtain ⟨doc, dumped, rows⟩ := put_rows put
      rw [dumped]
      simp only [Except.map, rows, stateAfter_source, Function.update_self]

/-- A recording leaves the rows of the other sources alone. -/
theorem recordCheck_frame {store written : DocStore codec} {source other : SourceKey}
    {report : CheckReport PyValue String} {state : SourceState PyValue}
    (recorded : store.recordCheck source report = .ok (state, written))
    (different : other ≠ source) : written.rows other = store.rows other := by
  obtain ⟨rfl, put⟩ := recordCheck_eq_ok.mp recorded
  obtain ⟨doc, _, rows⟩ := put_rows put
  rw [rows, stateAfter_source]
  exact Function.update_of_ne different _ _

/-- A recording raises exactly when it trusts a schedule that JSON cannot
represent. -/
theorem recordCheck_isOk (store : DocStore codec) (source : SourceKey)
    (report : CheckReport PyValue String) :
    (store.recordCheck source report).isOk =
      !(report.loaded && !PyValue.representable report.schedule) := by
  have kept := PyValue.representable_of_optionalStr (get_optionalStr store source)
  have recorded : (store.recordCheck source report).isOk =
      (store.put (store.stateAfter source report)).isOk := by
    unfold recordCheck
    cases store.put (store.stateAfter source report) <;> rfl
  rw [recorded, put_isOk, stateAfter, SourceState.recordCheck_schedule]
  by_cases loaded : report.loaded
  · simp only [loaded, ↓reduceIte, Bool.true_and, Bool.not_not]
  · simp only [loaded, Bool.false_eq_true, ↓reduceIte, kept, Bool.false_and, Bool.not_false]

end DocStore

end BiothingsPulse
