import BiothingsPulse.Foundation.Paging
import BiothingsPulse.Store.Documents
import Mathlib.Data.List.AList
import Mathlib.Data.List.Nodup
import Mathlib.Data.List.Perm.Basic

/-!
# The two backends of the state store

A backend gets, puts and lists records, and the shared `record_check` is built on
that. SQLite keeps one row for each source and lists them in one query; DynamoDB keeps
one item for each and lists them page by page. Two backends that correspond operation
by operation answer every sequence of operations alike.
-/

namespace BiothingsPulse

open Foundation.Paging

/-- A persistence backend. Listing may take several requests and is given a bound on
their number. -/
structure StateStore (codec : StateCodec) (σ : Type) where
  get : σ → SourceKey → Option (SourceState String)
  put : σ → SourceState PyValue → Except PyExc σ
  listAll : ℕ → σ → Option (List (SourceState String))

namespace StateStore

variable {codec : StateCodec} {σ τ : Type}

section Operations

variable (backend : StateStore codec σ)

/-- Persist the outcome of a check and return the updated state. -/
def recordCheck (store : σ) (source : SourceKey) (report : CheckReport PyValue String) :
    Except PyExc (SourceState PyValue × σ) :=
  let state := SourceState.recordCheck ((backend.get store source).map SourceState.untyped)
    source.repo source.plugin report
  match backend.put store state with
  | .error exc => .error exc
  | .ok written => .ok (state, written)

/-- A call to a store. -/
inductive Operation where
  | get (source : SourceKey)
  | put (state : SourceState PyValue)
  | recordCheck (source : SourceKey) (report : CheckReport PyValue String)
  | listAll

/-- What a call returns or raises. -/
inductive Answer where
  | got (state : Option (SourceState String))
  | put (done : Except PyExc Unit)
  | recorded (state : Except PyExc (SourceState PyValue))
  | listed (states : Option (List (SourceState String)))

def answer (requests : ℕ) (store : σ) : Operation → Answer
  | .get source => .got (backend.get store source)
  | .put state => .put ((backend.put store state).map fun _ => ())
  | .recordCheck source report =>
      .recorded ((backend.recordCheck store source report).map Prod.fst)
  | .listAll => .listed (backend.listAll requests store)

/-- The contents after a call; one that raises changes nothing. -/
def after (store : σ) : Operation → σ
  | .get _ | .listAll => store
  | .put state => (backend.put store state).toOption.getD store
  | .recordCheck source report =>
      ((backend.recordCheck store source report).toOption.map Prod.snd).getD store

/-- The answers to successive calls, each with the contents it was made from. -/
def transcript (requests : ℕ) : List Operation → σ → List (Answer × σ)
  | [], _ => []
  | operation :: rest, store =>
      (backend.answer requests store operation, store) ::
        transcript requests rest (backend.after store operation)

/-- A listing has each readable record once and nothing else. -/
def Lists (store : σ) (states : List (SourceState String)) : Prop :=
  ∃ sources : List SourceKey, sources.Nodup ∧
    (∀ source, source ∈ sources ↔ (backend.get store source).isSome) ∧
    states.map some = sources.map (backend.get store)

end Operations

/-- Equal answers, except that listings may be in different orders. -/
inductive Answer.Matches : Answer → Answer → Prop where
  | got (state : Option (SourceState String)) : Matches (.got state) (.got state)
  | put (done : Except PyExc Unit) : Matches (.put done) (.put done)
  | recorded (state : Except PyExc (SourceState PyValue)) :
      Matches (.recorded state) (.recorded state)
  | listed {states others : List (SourceState String)} (reordered : states.Perm others) :
      Matches (.listed (some states)) (.listed (some others))

/-- Corresponding answers of two backends: they match, and what is listed is what there
is to list. -/
def Corresponds (left : StateStore codec σ) (right : StateStore codec τ)
    (first : Answer × σ) (second : Answer × τ) : Prop :=
  first.1.Matches second.1 ∧
    (∀ states, first.1 = .listed (some states) → left.Lists first.2 states) ∧
    ∀ states, second.1 = .listed (some states) → right.Lists second.2 states

/-- Contents of two backends that cannot be told apart. -/
structure Simulation (left : StateStore codec σ) (right : StateStore codec τ)
    (related : σ → τ → Prop) : Prop where
  get : ∀ store other, related store other → left.get store = right.get other
  put : ∀ store other state, related store other →
    (∃ exc, left.put store state = .error exc ∧ right.put other state = .error exc) ∨
      ∃ written written', left.put store state = .ok written ∧
        right.put other state = .ok written' ∧ related written written'
  listAll : ∀ store other, related store other → ∃ needed, ∀ requests, needed ≤ requests →
    ∃ states others, left.listAll requests store = some states ∧
      right.listAll requests other = some others ∧ states.Perm others ∧
      left.Lists store states ∧ right.Lists other others

namespace Simulation

variable {left : StateStore codec σ} {right : StateStore codec τ} {related : σ → τ → Prop}
  {store : σ} {other : τ}

private theorem recordCheck (simulation : Simulation left right related)
    (same : related store other) (source : SourceKey) (report : CheckReport PyValue String) :
    (∃ exc, left.recordCheck store source report = .error exc ∧
        right.recordCheck other source report = .error exc) ∨
      ∃ state written written', left.recordCheck store source report = .ok (state, written) ∧
        right.recordCheck other source report = .ok (state, written') ∧
        related written written' := by
  unfold StateStore.recordCheck
  rw [simulation.get store other same]
  generalize SourceState.recordCheck _ source.repo source.plugin report = state
  dsimp only
  rcases simulation.put store other state same with
    ⟨exc, failed, failed'⟩ | ⟨written, written', put, put', still⟩
  · exact .inl ⟨exc, by rw [failed], by rw [failed']⟩
  · exact .inr ⟨state, written, written', by rw [put], by rw [put'], still⟩

/-- Corresponding contents are still so after any call. -/
theorem after (simulation : Simulation left right related) (same : related store other)
    (operation : Operation) :
    related (left.after store operation) (right.after other operation) := by
  cases operation with
  | get source => exact same
  | listAll => exact same
  | put state =>
      simp only [StateStore.after]
      rcases simulation.put store other state same with
        ⟨exc, failed, failed'⟩ | ⟨written, written', put, put', still⟩
      · rw [failed, failed']
        exact same
      · rw [put, put']
        exact still
  | recordCheck source report =>
      simp only [StateStore.after]
      rcases simulation.recordCheck same source report with
        ⟨exc, failed, failed'⟩ | ⟨state, written, written', recorded, recorded', still⟩
      · rw [failed, failed']
        exact same
      · rw [recorded, recorded']
        exact still

/-- Corresponding contents give corresponding answers, as long as listings may take as
many requests as they need. -/
theorem answer (simulation : Simulation left right related) (same : related store other)
    (operation : Operation) :
    ∃ needed, ∀ requests, needed ≤ requests →
      Corresponds left right (left.answer requests store operation, store)
        (right.answer requests other operation, other) := by
  cases operation with
  | get source =>
      refine ⟨0, fun requests _ => ⟨?_, nofun, nofun⟩⟩
      simp only [StateStore.answer, simulation.get store other same]
      exact .got _
  | put state =>
      refine ⟨0, fun requests _ => ⟨?_, nofun, nofun⟩⟩
      simp only [StateStore.answer]
      rcases simulation.put store other state same with
        ⟨exc, failed, failed'⟩ | ⟨written, written', put, put', _⟩
      · rw [failed, failed']
        exact .put _
      · rw [put, put']
        exact .put _
  | recordCheck source report =>
      refine ⟨0, fun requests _ => ⟨?_, nofun, nofun⟩⟩
      simp only [StateStore.answer]
      rcases simulation.recordCheck same source report with
        ⟨exc, failed, failed'⟩ | ⟨state, written, written', recorded, recorded', _⟩
      · rw [failed, failed']
        exact .recorded _
      · rw [recorded, recorded']
        exact .recorded _
  | listAll =>
      obtain ⟨needed, listing⟩ := simulation.listAll store other same
      refine ⟨needed, fun requests enough => ?_⟩
      obtain ⟨states, others, listed, listed', reordered, all, all'⟩ := listing requests enough
      simp only [StateStore.answer, listed, listed']
      refine ⟨.listed reordered, ?_, ?_⟩
      · rintro _ ⟨⟩
        exact all
      · rintro _ ⟨⟩
        exact all'

/-- **Corresponding backends answer every sequence of calls alike.** -/
theorem transcript (simulation : Simulation left right related) (operations : List Operation)
    (same : related store other) :
    ∃ needed, ∀ requests, needed ≤ requests →
      List.Forall₂ (Corresponds left right) (left.transcript requests operations store)
        (right.transcript requests operations other) := by
  induction operations generalizing store other with
  | nil => exact ⟨0, fun _ _ => .nil⟩
  | cons operation rest ih =>
      obtain ⟨needed, first⟩ := simulation.answer same operation
      obtain ⟨needed', later⟩ := ih (simulation.after same operation)
      refine ⟨max needed needed', fun requests enough => ?_⟩
      exact .cons (first requests (le_trans (le_max_left needed needed') enough))
        (later requests (le_trans (le_max_right needed needed') enough))

end Simulation

end StateStore

section Rows

variable {Doc : Type} {rows others : List (SourceKey × Doc)} {contents : SourceKey → Option Doc}

/-- The rows of a table, one for each source. -/
structure Holds (rows : List (SourceKey × Doc)) (contents : SourceKey → Option Doc) : Prop where
  distinct : (rows.map Prod.fst).Nodup
  mem_iff : ∀ source doc, (source, doc) ∈ rows ↔ contents source = some doc

private theorem holds_entries (table : AList fun _ : SourceKey => Doc) :
    Holds (table.entries.map fun row => (row.1, row.2)) table.lookup where
  distinct := by
    rw [List.map_map]
    exact table.nodupKeys
  mem_iff source doc := by
    rw [← Option.mem_def, AList.mem_lookup_iff, List.mem_map]
    constructor
    · rintro ⟨row, member, same⟩
      cases same
      exact member
    · exact fun member => ⟨⟨source, doc⟩, member, rfl⟩

namespace Holds

/-- The contents determine the rows up to their order. -/
theorem perm (holds : Holds rows contents) (holds' : Holds others contents) : rows.Perm others := by
  rw [List.perm_ext_iff_of_nodup holds.distinct.of_map holds'.distinct.of_map]
  intro row
  exact (holds.mem_iff row.1 row.2).trans (holds'.mem_iff row.1 row.2).symm

/-- Reading every row lists the readable records. -/
theorem lists {codec : StateCodec} {σ : Type} {backend : StateStore codec σ} {store : σ}
    {rows : List (SourceKey × codec.Doc)} {contents : SourceKey → Option codec.Doc}
    (holds : Holds rows contents)
    (reads : ∀ source, backend.get store source =
      (contents source).bind codec.deserializeState) :
    backend.Lists store (rows.filterMap fun row => codec.deserializeState row.2) := by
  refine ⟨(rows.filter fun row => (codec.deserializeState row.2).isSome).map Prod.fst,
    holds.distinct.sublist (List.filter_sublist.map _), ?_, ?_⟩
  · intro source
    rw [reads, List.mem_map]
    constructor
    · rintro ⟨⟨source, doc⟩, member, rfl⟩
      obtain ⟨stored, isSome⟩ := List.mem_filter.mp member
      rw [(holds.mem_iff source doc).mp stored]
      exact isSome
    · intro isSome
      obtain ⟨state, found⟩ := Option.isSome_iff_exists.mp isSome
      obtain ⟨doc, stored, read⟩ := Option.bind_eq_some_iff.mp found
      refine ⟨(source, doc), List.mem_filter.mpr ⟨(holds.mem_iff source doc).mpr stored, ?_⟩, rfl⟩
      rw [read]
      rfl
  · have each : ∀ row ∈ rows, backend.get store row.1 = codec.deserializeState row.2 := by
      intro row member
      rw [reads, (holds.mem_iff row.1 row.2).mp member]
      rfl
    clear holds
    induction rows with
    | nil => rfl
    | cons row rest ih =>
        rw [List.forall_mem_cons] at each
        cases read : codec.deserializeState row.2 with
        | none => simpa [read] using ih each.2
        | some state => simpa [read, each.1] using ih each.2

end Holds

end Rows

/-! ## SQLite -/

/-- The table `source_state`, whose primary key is the source. -/
abbrev SqliteTable (codec : StateCodec) : Type := AList fun _ : SourceKey => codec.Doc

/-- The store for local development: one row for each source, and all of them in one
query. -/
def sqliteStateStore (codec : StateCodec) : StateStore codec (SqliteTable codec) where
  get table source := (table.lookup source).bind codec.deserializeState
  put table state :=
    (codec.modelDumpJson state).map fun doc => table.insert ⟨state.repo, state.plugin⟩ doc
  listAll _ table := some (table.entries.filterMap fun row => codec.deserializeState row.2)

/-! ## DynamoDB -/

/-- A table of documents under their sources. A scan answers in pages, which together
have every item once. -/
structure DynamoDB (Doc : Type) where
  Table : Type
  Cursor : Type
  getItem : Table → SourceKey → Option Doc
  putItem : Table → SourceKey → Doc → Table
  scan : Table → Option Cursor → Page Cursor (SourceKey × Doc)
  getItem_putItem : ∀ table source doc,
    getItem (putItem table source doc) = Function.update (getItem table) source (some doc)
  scan_pages : ∀ table, ∃ pages, Scans (scan table) none pages ∧
    (pages.flatten.map Prod.fst).Nodup ∧
    ∀ source doc, (source, doc) ∈ pages.flatten ↔ getItem table source = some doc

/-- The store for deployments: one item for each source, and all of them page by page. -/
def dynamoDBStateStore (codec : StateCodec) (dynamo : DynamoDB codec.Doc) :
    StateStore codec dynamo.Table where
  get table source := (dynamo.getItem table source).bind codec.deserializeState
  put table state :=
    (codec.modelDumpJson state).map fun doc =>
      dynamo.putItem table ⟨state.repo, state.plugin⟩ doc
  listAll requests table :=
    gather (dynamo.scan table) (fun item => codec.deserializeState item.2) requests none []

section Interchange

variable {codec : StateCodec}

/-- Tables with the same documents under the same sources cannot be told apart. -/
theorem sqlite_simulation (dynamo : DynamoDB codec.Doc) :
    (sqliteStateStore codec).Simulation (dynamoDBStateStore codec dynamo)
      fun table items => ∀ source, table.lookup source = dynamo.getItem items source where
  get table items same := by
    funext source
    simp only [sqliteStateStore, dynamoDBStateStore, same]
  put table items state same := by
    simp only [sqliteStateStore, dynamoDBStateStore]
    cases codec.modelDumpJson state with
    | error exc => exact .inl ⟨exc, rfl, rfl⟩
    | ok doc =>
        refine .inr ⟨_, _, rfl, rfl, fun source => ?_⟩
        rw [dynamo.getItem_putItem]
        by_cases written : source = ⟨state.repo, state.plugin⟩
        · rw [written, AList.lookup_insert, Function.update_self]
        · rw [AList.lookup_insert_ne written, Function.update_of_ne written, same]
  listAll table items same := by
    obtain ⟨pages, scans, distinct, mem_iff⟩ := dynamo.scan_pages items
    have rows := holds_entries table
    have holds' : Holds pages.flatten fun source => table.lookup source :=
      ⟨distinct, fun source doc => by rw [mem_iff, same]⟩
    refine ⟨pages.length, fun requests enough => ⟨_, _, rfl,
      gather_of_scans scans _ enough [], ?_, ?_, ?_⟩⟩
    · have reordered := (rows.perm holds').filterMap fun row => codec.deserializeState row.2
      rwa [List.filterMap_map] at reordered
    · have listed : (sqliteStateStore codec).Lists table _ := rows.lists fun _ => rfl
      rwa [List.filterMap_map] at listed
    · apply holds'.lists
      intro source
      rw [same]
      rfl

/-- **The two backends are interchangeable.** From the same documents, any sequence of
calls gets the same answers from both, up to the order of the listings, each of which has
every readable record once. -/
theorem backends_interchangeable (dynamo : DynamoDB codec.Doc) (table : SqliteTable codec)
    (items : dynamo.Table) (same : ∀ source, table.lookup source = dynamo.getItem items source)
    (operations : List StateStore.Operation) :
    ∃ needed, ∀ requests, needed ≤ requests →
      List.Forall₂
        (StateStore.Corresponds (sqliteStateStore codec) (dynamoDBStateStore codec dynamo))
        ((sqliteStateStore codec).transcript requests operations table)
        ((dynamoDBStateStore codec dynamo).transcript requests operations items) :=
  (sqlite_simulation dynamo).transcript operations same

/-- What the service's store does, a table of the same documents does. -/
theorem sqlite_recordCheck {table : SqliteTable codec} {store : DocStore codec}
    (same : ∀ source, table.lookup source = store.rows source) (source : SourceKey)
    (report : CheckReport PyValue String) :
    (∃ exc, (sqliteStateStore codec).recordCheck table source report = .error exc ∧
        store.recordCheck source report = .error exc) ∨
      ∃ state written written',
        (sqliteStateStore codec).recordCheck table source report = .ok (state, written) ∧
        store.recordCheck source report = .ok (state, written') ∧
        ∀ source, written.lookup source = written'.rows source := by
  have read : (sqliteStateStore codec).get table source = store.get source := by
    simp only [sqliteStateStore, DocStore.get, same]
  unfold StateStore.recordCheck DocStore.recordCheck DocStore.stateAfter
  rw [read]
  generalize SourceState.recordCheck _ source.repo source.plugin report = state
  dsimp only
  cases put : store.put state with
  | error exc =>
      refine .inl ⟨exc, ?_, rfl⟩
      simp only [sqliteStateStore, DocStore.put_error put, Except.map]
  | ok written =>
      obtain ⟨doc, dumped, rows⟩ := DocStore.put_rows put
      refine .inr ⟨state, table.insert ⟨state.repo, state.plugin⟩ doc, written, ?_, rfl, ?_⟩
      · simp only [sqliteStateStore, dumped, Except.map]
      · intro other
        rw [rows]
        by_cases written : other = ⟨state.repo, state.plugin⟩
        · rw [written, AList.lookup_insert, Function.update_self]
        · rw [AList.lookup_insert_ne written, Function.update_of_ne written, same]

end Interchange

section Pages

variable {Doc : Type}

/-- The item at a position on a page of its own; a first page is empty, and so is the
last one. -/
private def scanFrom (items : List (SourceKey × Doc)) : Option ℕ → Page ℕ (SourceKey × Doc)
  | none => ⟨[], some 0⟩
  | some position =>
      match items[position]? with
      | none => ⟨[], none⟩
      | some item => ⟨[item], some (position + 1)⟩

private theorem scans_scanFrom (items : List (SourceKey × Doc)) :
    ∃ pages, Scans (scanFrom items) none pages ∧ pages.flatten = items := by
  have from_position : ∀ (rest : List (SourceKey × Doc)) (position : ℕ),
      items.drop position = rest →
        Scans (scanFrom items) (some position) (rest.map ([·]) ++ [[]]) := by
    intro rest
    induction rest with
    | nil =>
        intro position ended
        rw [List.drop_eq_nil_iff] at ended
        exact .last (by simp [scanFrom, List.getElem?_eq_none ended])
    | cons item rest ih =>
        intro position begins
        have here : items[position]? = some item := by
          rw [← List.head?_drop, begins]
          rfl
        have later : items.drop (position + 1) = rest := by
          rw [← List.tail_drop, begins]
          rfl
        exact .more (by simp [scanFrom, here]) (ih (position + 1) later)
  refine ⟨[] :: (items.map ([·]) ++ [[]]), .more rfl (from_position items 0 rfl), ?_⟩
  simp [← List.flatMap_def]

/-- A table of items that is scanned one by one. -/
def plainDynamo (Doc : Type) : DynamoDB Doc where
  Table := AList fun _ : SourceKey => Doc
  Cursor := ℕ
  getItem table source := table.lookup source
  putItem table source doc := table.insert source doc
  scan table := scanFrom (table.entries.map fun row => (row.1, row.2))
  getItem_putItem table source doc := by
    funext other
    by_cases written : other = source
    · rw [written, AList.lookup_insert, Function.update_self]
    · rw [AList.lookup_insert_ne written, Function.update_of_ne written]
  scan_pages table := by
    obtain ⟨pages, scans, flat⟩ := scans_scanFrom (table.entries.map fun row => (row.1, row.2))
    have rows := holds_entries table
    rw [← flat] at rows
    exact ⟨pages, scans, rows.distinct, rows.mem_iff⟩

/-- A table with a document that does not validate. -/
private def unreadableTable : SqliteTable plainCodec :=
  AList.singleton ⟨"hub", "bad"⟩
    { repo := "hub", plugin := "bad", updatedAt := 0,
      schedule := some (.other ⟨.ok true, .ok "5", some "5"⟩) }

private def mixedCalls : List StateStore.Operation :=
  [.listAll, .recordCheck ⟨"hub", "bad"⟩
      { now := 1, pluginType := .manifest, detectedVersion := some "1" },
    .get ⟨"hub", "bad"⟩, .listAll]

/-- Mixed calls on a table with an unreadable row have the same answers. -/
theorem backends_interchangeable_unreadable :
    ∃ needed, ∀ requests, needed ≤ requests →
      List.Forall₂
        (StateStore.Corresponds (sqliteStateStore plainCodec)
          (dynamoDBStateStore plainCodec (plainDynamo plainCodec.Doc)))
        ((sqliteStateStore plainCodec).transcript requests mixedCalls unreadableTable)
        ((dynamoDBStateStore plainCodec (plainDynamo plainCodec.Doc)).transcript requests
          mixedCalls unreadableTable) :=
  backends_interchangeable (plainDynamo plainCodec.Doc) unreadableTable unreadableTable
    (fun _ => rfl) mixedCalls

end Pages

end BiothingsPulse
