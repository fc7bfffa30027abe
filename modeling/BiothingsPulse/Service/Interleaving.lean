import BiothingsPulse.Service.Sweep
import BiothingsPulse.Service.Threads
import BiothingsPulse.Store.Provenance

/-!
# What the operations keep while others run

Threads that share the service may overwrite each other's records and replace the
catalog between each other's steps. What each of their steps keeps, whatever the
others did before it, is this: the catalog in place is the last one published, every
report is of a source that was discovered, and every record that can be read is
attested by the reports of its source.
-/

namespace BiothingsPulse

open Foundation Foundation.Threads

variable {codec : StateCodec}

namespace Site

/-- The reports of one source so far. -/
def reportsOf (site : Site codec) (source : SourceKey) : List (CheckReport PyValue String) :=
  (site.reports.filter fun entry => entry.1 = source).map Prod.snd

/-- A plugin of some catalog that was published. -/
def Discovered (site : Site codec) (ref : PluginRef) : Prop :=
  ∃ catalog ∈ site.published, ref ∈ catalog.refs

/-- The type of a plugin that was discovered under the key of a source. -/
def Types (site : Site codec) (source : SourceKey) (pluginType : PluginType) : Prop :=
  ∃ ref, site.Discovered ref ∧ ref.key = source.repo ++ "/" ++ source.plugin ∧
    ref.pluginType = pluginType

/-- The catalogs that were in place at or after an earlier state. -/
def catalogsSince (site base : Site codec) : List Catalog :=
  site.published.drop (base.published.length - 1)

/-- What holds in every interleaving, where `complete` says which catalogs a rebuild
comes to. -/
structure Sound (complete : Catalog → Prop) (site : Site codec) : Prop where
  catalog : site.published.getLast? = some site.service.catalog
  complete : ∀ catalog ∈ site.published, complete catalog
  reports : ∀ entry ∈ site.reports, entry.2.now ≤ site.clock ∧
    ∃ ref, site.Discovered ref ∧ ref.source = entry.1 ∧ ref.pluginType = entry.2.pluginType
  records : ∀ source state, site.service.store.get source = some state →
    Attested (site.reportsOf source) state.untyped

/-- What never goes back. -/
structure Later (before after : Site codec) : Prop where
  settings : after.service.settings = before.service.settings
  clock : before.clock ≤ after.clock
  reports : before.reports <+: after.reports
  published : before.published <+: after.published

section Later

variable {base before after : Site codec}

/-- A site is later than itself. -/
theorem Later.refl (site : Site codec) : site.Later site :=
  ⟨rfl, Int.le_refl _, List.prefix_rfl, List.prefix_rfl⟩

/-- What is later than a later site is later. -/
theorem Later.trans {last : Site codec} (first : before.Later after) (second : after.Later last) :
    before.Later last where
  settings := second.settings.trans first.settings
  clock := Int.le_trans first.clock second.clock
  reports := first.reports.trans second.reports
  published := first.published.trans second.published

/-- Reports of a source stay. -/
theorem Later.reportsOf (later : before.Later after) (source : SourceKey) :
    before.reportsOf source ⊆ after.reportsOf source :=
  List.map_subset _ (List.filter_subset _ later.reports.subset)

private theorem Later.discovered (later : before.Later after) {ref : PluginRef}
    (discovered : before.Discovered ref) : after.Discovered ref := by
  obtain ⟨catalog, published, member⟩ := discovered
  exact ⟨catalog, later.published.subset published, member⟩

/-- The type that a report was made with stays. -/
theorem Later.types (later : before.Later after) {source : SourceKey} {pluginType : PluginType}
    (types : before.Types source pluginType) : after.Types source pluginType := by
  obtain ⟨ref, discovered, own⟩ := types
  exact ⟨ref, later.discovered discovered, own⟩

/-- Catalogs that were there since a time stay. -/
theorem Later.catalogsSince (later : before.Later after) (base : Site codec) :
    before.catalogsSince base ⊆ after.catalogsSince base :=
  (later.published.drop _).subset

/-- Catalogs that were there since a time have been published. -/
theorem catalogsSince_subset (site base : Site codec) : site.catalogsSince base ⊆ site.published :=
  List.drop_subset _ _

variable {complete : Catalog → Prop}

/-- The catalog in place is one of those since any earlier state. -/
theorem Sound.catalog_mem (sound : after.Sound complete) (later : base.Later after) :
    after.service.catalog ∈ after.catalogsSince base := by
  obtain ⟨earlier, published⟩ := List.getLast?_eq_some_iff.mp sound.catalog
  have longer := later.published.length_le
  rw [published, List.length_append, List.length_singleton] at longer
  rw [Site.catalogsSince, published, List.drop_append_of_le_length (by omega)]
  exact List.mem_append_right _ (List.mem_singleton_self _)

/-- A report of a source was made of a plugin discovered as that source. -/
theorem Sound.reported (sound : before.Sound complete) {source : SourceKey}
    {report : CheckReport PyValue String} (member : report ∈ before.reportsOf source) :
    report.now ≤ before.clock ∧ ∃ ref, before.Discovered ref ∧ ref.source = source ∧
      ref.pluginType = report.pluginType := by
  obtain ⟨⟨key, report⟩, listed, rfl⟩ := List.mem_map.mp member
  obtain ⟨listed, same⟩ := List.mem_filter.mp listed
  exact of_decide_eq_true same ▸ sound.reports _ listed

/-- A sound state stays sound when neither the catalog nor the store nor the reports
change. -/
theorem Sound.of_same (sound : before.Sound complete) (clock : before.clock ≤ after.clock)
    (settings : after.service.settings = before.service.settings)
    (catalog : after.service.catalog = before.service.catalog)
    (store : after.service.store = before.service.store)
    (reports : after.reports = before.reports) (published : after.published = before.published) :
    before.Later after ∧ after.Sound complete := by
  refine ⟨⟨settings, clock, reports ▸ List.prefix_rfl, published ▸ List.prefix_rfl⟩, ?_⟩
  refine ⟨?_, ?_, ?_, ?_⟩
  · rw [published, catalog]
    exact sound.catalog
  · rw [published]
    exact sound.complete
  · rw [reports]
    intro entry member
    obtain ⟨past, ref, discovered, same⟩ := sound.reports entry member
    refine ⟨Int.le_trans past clock, ref, ?_, same⟩
    rw [Discovered, published]
    exact discovered
  · intro source state stored
    rw [store] at stored
    rw [Site.reportsOf, reports]
    exact sound.records source state stored

end Later

/-- The discipline that the threads of the process keep. -/
def discipline (complete : Catalog → Prop) : Discipline (Site codec) where
  holds := Sound complete
  later := Later
  refl := Later.refl
  trans := Later.trans

end Site

/-- Only the clock moves. -/
def Passes (before after : Site codec) : Prop :=
  ∃ now, before.clock ≤ now ∧ after = { before with clock := now }

namespace Threaded

section Keeps

open Site (discipline)

variable {complete : Catalog → Prop} {known : Site codec}

/-- Time may pass. -/
theorem passes_allows (before after : Site codec) (sound : before.Sound complete)
    (passed : Passes before after) : (discipline complete).Allows before after := by
  obtain ⟨now, forward, rfl⟩ := passed
  exact sound.of_same forward rfl rfl rfl rfl rfl

private theorem note_keeps (activities : List Activity) :
    (discipline complete).Keeps (fun _ _ => True) (note activities) known :=
  Discipline.Keeps.change fun _ _ sound =>
    ⟨sound.of_same (Int.le_refl _) rfl rfl rfl rfl rfl, trivial⟩

/-- A listing is that of a catalog in place since any earlier state. -/
theorem listCatalog_keeps {base : Site codec} (later : base.Later known) :
    (discipline complete).Keeps
      (fun refs site => ∃ catalog ∈ site.catalogsSince base, refs = catalog.list)
      listCatalog known :=
  Discipline.Keeps.read fun _ after sound =>
    ⟨_, sound.catalog_mem (later.trans after), rfl⟩

/-- A source is looked up in one of the catalogs there have been. -/
theorem getRef_keeps {base : Site codec} (later : base.Later known) (repo plugin : String) :
    (discipline complete).Keeps
      (fun found site => ∃ catalog ∈ site.catalogsSince base,
        found = catalog.get? (repo ++ "/" ++ plugin))
      (getRef repo plugin) known :=
  Discipline.Keeps.read fun _ after sound =>
    ⟨_, sound.catalog_mem (later.trans after), rfl⟩

/-- The settings stay. -/
theorem settings_keeps :
    (discipline complete).Keeps
      (fun settings site => settings = site.service.settings ∧ known.Later site)
      settings known :=
  Discipline.Keeps.read fun _ after _ => ⟨rfl, after⟩

private theorem storedState_keeps (source : SourceKey) :
    (discipline complete).Keeps
      (fun stored site => ∀ state ∈ stored, Attested (site.reportsOf source) state.untyped ∧
        (⟨state.repo, state.plugin⟩ : SourceKey) = source)
      (storedState source) known :=
  Discipline.Keeps.read fun _ _ sound state stored =>
    ⟨sound.records source state stored, DocStore.get_key stored⟩

/-- A record that is shown for a source: one that the reports attest, or a placeholder
made for a discovered plugin at a time that has come. -/
structure Vouched (site : Site codec) (source : SourceKey) (state : SourceState String) :
    Prop where
  key : (⟨state.repo, state.plugin⟩ : SourceKey) = source
  record : Attested (site.reportsOf source) state.untyped ∨ ∃ pluginType now,
    site.Types source pluginType ∧ now ≤ site.clock ∧
      state = SourceState.initial source.repo source.plugin pluginType now

/-- What the reports vouch for, they go on to vouch for. -/
theorem Vouched.of_later {site after : Site codec} {source : SourceKey}
    {state : SourceState String} (vouched : Vouched site source state) (later : site.Later after) :
    Vouched after source state := by
  refine ⟨vouched.key, vouched.record.imp (·.mono (later.reportsOf _)) ?_⟩
  rintro ⟨pluginType, now, types, past, own⟩
  exact ⟨pluginType, now, later.types types, Int.le_trans past later.clock, own⟩

/-- The state of a source is vouched for by the reports. -/
theorem cachedState_keeps (repo plugin : String) {pluginType : PluginType}
    (types : known.Types ⟨repo, plugin⟩ pluginType) :
    (discipline complete).Keeps (fun state site => Vouched site ⟨repo, plugin⟩ state)
      (cachedState repo plugin pluginType) known := by
  refine (storedState_keeps _).bind ?_
  intro stored site after attested
  cases stored with
  | none =>
      refine Discipline.Keeps.map (Discipline.Keeps.read ?_)
      intro state follows _
      exact ⟨rfl, .inr ⟨pluginType, state.clock, (after.trans follows).types types,
        Int.le_refl _, rfl⟩⟩
  | some state =>
      obtain ⟨attested, source⟩ := attested state rfl
      exact ⟨source, .inl attested⟩

/-- A complete catalog is published. -/
theorem publish_allows {catalog : Catalog} {site : Site codec} (sound : site.Sound complete)
    (rebuilt : complete catalog) : (discipline complete).Allows site (site.publish catalog) := by
  have longer : site.published <+: (site.publish catalog).published := List.prefix_append _ _
  have later : site.Later (site.publish catalog) :=
    ⟨rfl, Int.le_refl _, List.prefix_rfl, longer⟩
  refine ⟨later, List.getLast?_concat, ?_, ?_, sound.records⟩
  · intro other member
    rcases List.mem_append.mp member with earlier | own
    · exact sound.complete other earlier
    · exact List.mem_singleton.mp own ▸ rebuilt
  · intro entry member
    obtain ⟨past, ref, discovered, same⟩ := sound.reports entry member
    exact ⟨past, ref, later.discovered discovered, same⟩

section Checks

variable (world : World)

/-- A report is noted for a discovered source, with a time that has come. -/
theorem noteReport_allows {ref : PluginRef} {result : CheckResult} {site : Site codec}
    (sound : site.Sound complete) (discovered : site.Discovered ref) :
    (discipline complete).Allows site (site.noteReport ref result) := by
  have longer : site.reports <+: (site.noteReport ref result).reports := List.prefix_append _ _
  have later : site.Later (site.noteReport ref result) :=
    ⟨rfl, Int.le_refl _, longer, List.prefix_rfl⟩
  refine ⟨later, sound.catalog, sound.complete, ?_, ?_⟩
  · intro entry member
    rcases List.mem_append.mp member with earlier | own
    · exact sound.reports entry earlier
    · obtain rfl := List.mem_singleton.mp own
      exact ⟨Int.le_refl _, ref, discovered, rfl, rfl⟩
  · intro source state stored
    exact (sound.records source state stored).mono (later.reportsOf source)

/-- A record is put that the reports of its source attest. -/
theorem put_allows {state : SourceState PyValue} {site : Site codec}
    (sound : site.Sound complete)
    (attested : Attested (site.reportsOf ⟨state.repo, state.plugin⟩) state) :
    (discipline complete).Allows site (site.put state).2 := by
  unfold Site.put
  cases put : site.service.store.put state with
  | error exc => exact ⟨Site.Later.refl site, sound⟩
  | ok written =>
      refine ⟨⟨rfl, Int.le_refl _, List.prefix_rfl, List.prefix_rfl⟩, sound.catalog,
        sound.complete, sound.reports, ?_⟩
      intro source found stored
      by_cases same : source = ⟨state.repo, state.plugin⟩
      · subst same
        have reads := DocStore.get_put put
        dsimp only at stored
        rw [stored, Option.map_some] at reads
        by_cases wellTyped : PyValue.optionalStr state.schedule = true
        · rw [if_pos wellTyped] at reads
          rw [Option.some.inj reads]
          exact attested
        · rw [if_neg wellTyped] at reads
          cases reads
      · obtain ⟨doc, _, rows⟩ := DocStore.put_rows put
        have kept : written.get source = site.service.store.get source := by
          rw [DocStore.get, DocStore.get, rows, Function.update_of_ne same]
        exact sound.records source found (kept ▸ stored)

/-- What a recording that returned comes to: a record of the source that the reports
attest, with the outcome of the recorded check. -/
structure Recorded (site base : Site codec) (ref : PluginRef) (result : CheckResult)
    (state : SourceState PyValue) : Prop where
  source : (⟨state.repo, state.plugin⟩ : SourceKey) = ref.source
  attested : Attested (site.reportsOf ref.source) state
  status : state.status = result.status
  error : state.error = result.error
  checkedAt : ∃ now, state.checkedAt = some now ∧ base.clock ≤ now ∧ now ≤ site.clock ∧
    result.report ref now ∈ site.reportsOf ref.source

/-- What was recorded stays so. -/
theorem Recorded.of_later {site after base : Site codec} {ref : PluginRef} {result : CheckResult}
    {state : SourceState PyValue} (recorded : Recorded site base ref result state)
    (later : site.Later after) : Recorded after base ref result state where
  source := recorded.source
  attested := recorded.attested.mono (later.reportsOf _)
  status := recorded.status
  error := recorded.error
  checkedAt := by
    obtain ⟨now, checked, started, come, member⟩ := recorded.checkedAt
    exact ⟨now, checked, started, Int.le_trans come later.clock, later.reportsOf _ member⟩

/-- What the clock reading of a recording leaves: the outcome of the check is reported
with a time since the base. -/
structure Noted (site base : Site codec) (ref : PluginRef) (result : CheckResult)
    (report : CheckReport PyValue String) : Prop where
  own : report = result.report ref report.now
  started : base.clock ≤ report.now
  come : report.now ≤ site.clock
  listed : report ∈ site.reportsOf ref.source

namespace Noted

variable {site after base : Site codec} {ref : PluginRef} {result : CheckResult}
  {report : CheckReport PyValue String}

private theorem of_later (noted : Noted site base ref result report) (later : site.Later after) :
    Noted after base ref result report where
  own := noted.own
  started := noted.started
  come := Int.le_trans noted.come later.clock
  listed := later.reportsOf _ noted.listed

/-- A record made on top of an attested one, or of none. -/
theorem recorded (noted : Noted site base ref result report)
    {stored : Option (SourceState PyValue)}
    (prior : ∀ state ∈ stored, Attested (site.reportsOf ref.source) state ∧
      (⟨state.repo, state.plugin⟩ : SourceKey) = ref.source) :
    Recorded site base ref result (SourceState.recordCheck stored ref.repo ref.name report) := by
  obtain ⟨repo, plugin⟩ := SourceState.recordCheck_key stored ref.repo ref.name report
  obtain ⟨status, error, checkedAt⟩ :=
    SourceState.recordCheck_attempt stored ref.repo ref.name report
  have attested := Attested.recordCheck ref.repo ref.name
    (fun state present => (prior state present).1) noted.listed
  refine ⟨?_, attested, ?_, ?_, report.now, checkedAt, noted.started, noted.come,
    noted.own ▸ noted.listed⟩
  · rw [repo, plugin]
    cases found : stored with
    | none => rfl
    | some state => exact (prior state found).2
  · rw [status, noted.own]
    rfl
  · rw [error, noted.own]
    rfl

end Noted

private theorem report_keeps {base : Site codec} (later : base.Later known) {ref : PluginRef}
    (discovered : known.Discovered ref) (result : CheckResult) :
    (discipline complete).Keeps (fun report site => Noted site base ref result report)
      (.atomic fun site => (result.report ref site.clock, site.noteReport ref result)) known := by
  refine Discipline.Keeps.atomic ?_
  intro site after sound
  refine ⟨noteReport_allows sound (after.discovered discovered), rfl,
    (later.trans after).clock, Int.le_refl _, ?_⟩
  exact List.mem_map.mpr ⟨_, List.mem_filter.mpr ⟨List.mem_append_right _
    (List.mem_singleton_self _), decide_eq_true rfl⟩, rfl⟩

private theorem record_keeps {base : Site codec} (later : base.Later known) {ref : PluginRef}
    (discovered : known.Discovered ref) (result : CheckResult) :
    (discipline complete).Keeps
      (Discipline.Returns fun state site => Recorded site base ref result state)
      (record world ref result) known := by
  refine (report_keeps later discovered result).bind ?_
  intro report site after noted
  cases world.storeFault ref.source with
  | some exc => trivial
  | none =>
      refine (storedState_keeps ref.source).bind ?_
      intro stored read follows attested
      refine Discipline.Keeps.atomic ?_
      intro site goesOn sound
      have prior : ∀ state ∈ stored.map SourceState.untyped,
          Attested (site.reportsOf ref.source) state ∧
            (⟨state.repo, state.plugin⟩ : SourceKey) = ref.source := by
        intro state present
        obtain ⟨typed, found, rfl⟩ := Option.map_eq_some_iff.mp present
        exact ⟨(attested typed found).1.mono (goesOn.reportsOf _), (attested typed found).2⟩
      have recorded := (noted.of_later (follows.trans goesOn)).recorded prior
      have allowed := put_allows sound (recorded.source ▸ recorded.attested)
      refine ⟨allowed, ?_⟩
      have written := recorded.of_later allowed.1
      unfold Site.put at written ⊢
      cases put : site.service.store.put _ with
      | error exc => trivial
      | ok store =>
          rw [put] at written
          exact written

private theorem collectOne_keeps {refs : List PluginRef} {ref : PluginRef}
    (discovered : known.Discovered ref) :
    (discipline complete).Keeps (Discipline.Returns fun _ _ => True)
      (collectOne world refs ref) known := by
  unfold collectOne
  cases PulseService.future world refs ref.key with
  | none => trivial
  | some outcome =>
      dsimp only
      cases outcome.collect "check timed out" with
      | error exc => trivial
      | ok result =>
          have recorded : (discipline complete).Keeps _ _ _ :=
            record_keeps world (Site.Later.refl known) discovered result
          exact recorded.andThen fun _ _ _ _ => trivial

private theorem checkRefs_keeps {refs : List PluginRef}
    (discovered : ∀ ref ∈ refs, known.Discovered ref) :
    (discipline complete).Keeps (Discipline.Returns fun count _ => count = refs.length)
      (checkRefs world refs) known := by
  refine (note_keeps _).bind ?_
  intro _ site after _
  have swept : (discipline complete).Keeps (Discipline.Returns fun _ _ => True)
      (Program.forEach (collectOne world refs) refs) site :=
    Discipline.Keeps.forEach fun ref member _ follows =>
      collectOne_keeps world ((after.trans follows).discovered (discovered ref member))
  exact swept.andThen fun _ _ _ _ => rfl

/-- What a forced check that returned comes to: the source is unknown to a catalog, or
the check that one asks for is recorded. -/
def Forced (world : World) (site base : Site codec) (repo plugin : String) :
    Option (SourceState PyValue) → Prop
  | none => ∃ catalog ∈ site.catalogsSince base, catalog.get? (repo ++ "/" ++ plugin) = none
  | some state => ∃ catalog ∈ site.catalogsSince base, ∃ ref,
      catalog.get? (repo ++ "/" ++ plugin) = some ref ∧
        ∃ result, (world.check ref).Admits result ∧ Recorded site base ref result state

/-- A status is of a source that was looked up, and vouched for by its reports. -/
theorem getStatus_keeps {base : Site codec} (later : base.Later known) (repo plugin : String) :
    (discipline complete).Keeps
      (fun found site => ∃ catalog ∈ site.catalogsSince base,
        found.isSome = (catalog.get? (repo ++ "/" ++ plugin)).isSome ∧
          ∀ state ∈ found, Vouched site ⟨repo, plugin⟩ state)
      (getStatus repo plugin) known := by
  refine (getRef_keeps later repo plugin).bind ?_
  rintro found site after ⟨catalog, since, own⟩
  cases found with
  | none =>
      refine ⟨catalog, since, congrArg Option.isSome own, ?_⟩
      intro state absent
      cases absent
  | some ref =>
      obtain ⟨listed, keyed⟩ := Catalog.get?_eq_some_iff.mp own.symm
      have types : site.Types ⟨repo, plugin⟩ ref.pluginType :=
        ⟨ref, ⟨catalog, Site.catalogsSince_subset _ _ since, listed⟩, keyed, rfl⟩
      have cached : (discipline complete).Keeps _ _ _ :=
        (cachedState_keeps repo plugin types).since (Site.Later.refl site)
      refine Discipline.Keeps.map (cached.mono ?_)
      rintro state last ⟨follows, vouched⟩
      refine ⟨catalog, follows.catalogsSince base since, congrArg Option.isSome own, ?_⟩
      intro other same
      exact Option.mem_some_iff.mp same ▸ vouched

/-- A forced check yields what has been recorded of the source. -/
theorem checkSource_keeps {base : Site codec} (later : base.Later known) (repo plugin : String) :
    (discipline complete).Keeps
      (Discipline.Returns fun found site => Forced world site base repo plugin found)
      (checkSource world repo plugin) known := by
  refine (getRef_keeps later repo plugin).bind ?_
  rintro found site after ⟨catalog, since, own⟩
  cases found with
  | none => exact ⟨catalog, since, own.symm⟩
  | some ref =>
      have discovered : site.Discovered ref :=
        ⟨catalog, Site.catalogsSince_subset _ _ since, (Catalog.get?_eq_some_iff.mp own.symm).1⟩
      refine (note_keeps _).bind ?_
      intro _ noted follows _
      refine settings_keeps.bind ?_
      rintro settings read goesOn -
      cases collected : (world.check ref).collect _ with
      | error exc => trivial
      | ok result =>
          have reached := follows.trans goesOn
          have recorded : (discipline complete).Keeps _ _ _ := record_keeps world
            ((later.trans after).trans reached) (reached.discovered discovered) result
          refine recorded.andThen ?_
          intro state last final recorded
          exact ⟨catalog, (reached.trans final).catalogsSince base since, ref, own.symm, result,
            CheckOutcome.collect_admits collected, recorded⟩

/-- A refresh counts the sources of one of the catalogs there have been. -/
theorem refreshAll_keeps {base : Site codec} (later : base.Later known) :
    (discipline complete).Keeps
      (Discipline.Returns fun count site =>
        ∃ catalog ∈ site.catalogsSince base, count = catalog.refs.length)
      (refreshAll world) known := by
  refine (listCatalog_keeps later).bind ?_
  rintro refs site after ⟨catalog, since, rfl⟩
  have discovered : ∀ ref ∈ catalog.list, site.Discovered ref := fun ref member =>
    ⟨catalog, Site.catalogsSince_subset _ _ since, catalog.list_perm.mem_iff.mp member⟩
  refine (checkRefs_keeps world discovered).since (Site.Later.refl site) |>.mono ?_
  rintro (_ | count) last
  · exact fun _ => trivial
  · rintro ⟨follows, rfl⟩
    exact ⟨catalog, follows.catalogsSince base since, catalog.list_perm.length_eq⟩

variable (croniter : Croniter)

/-- The checks of a tick keep what the site vouches for. -/
theorem runDueChecks_keeps :
    (discipline complete).Keeps (Discipline.Returns fun _ _ => True)
      (runDueChecks world croniter) known := by
  refine (listCatalog_keeps (Site.Later.refl known)).bind ?_
  rintro refs site after ⟨catalog, since, rfl⟩
  have selected : (discipline complete).Keeps
      (Discipline.Returns fun due _ => due.Sublist catalog.list)
      (Program.select (isDue croniter) catalog.list) site := by
    refine Discipline.Keeps.select fun ref _ last _ => ?_
    refine (storedState_keeps ref.source).bind fun stored _ _ _ => ?_
    refine Discipline.Keeps.read fun state _ _ => ?_
    cases croniter.isDue _ _ _ state.clock <;> trivial
  refine selected.andThen ?_
  intro due last follows listed
  cases due with
  | nil => trivial
  | cons ref rest =>
      have discovered : ∀ other ∈ ref :: rest, last.Discovered other := fun other member =>
        follows.discovered ⟨catalog, Site.catalogsSince_subset _ _ since,
          catalog.list_perm.mem_iff.mp (listed.subset member)⟩
      exact (checkRefs_keeps world discovered).andThen fun _ _ _ _ => trivial

/-- A sync counts the sources of one of the catalogs there have been. -/
theorem syncAndDiscover_keeps {base : Site codec} (later : base.Later known)
    (rebuilt : ∀ catalog, PulseService.rebuild world = .ok catalog → complete catalog) :
    (discipline complete).Keeps
      (Discipline.Returns fun count site =>
        ∃ catalog ∈ site.catalogsSince base, count = catalog.refs.length)
      (syncAndDiscover world) known := by
  unfold syncAndDiscover
  unfold PulseService.rebuild at rebuilt
  cases read : world.registry with
  | error exc => trivial
  | ok registry =>
      rw [read] at rebuilt
      dsimp only at rebuilt ⊢
      refine (note_keeps _).bind ?_
      intro _ site after _
      cases synced : PulseService.syncRegistry world registry.resolvedRepos with
      | error exc => trivial
      | ok localPaths =>
          rw [synced] at rebuilt
          dsimp only at rebuilt ⊢
          cases discovered :
              PulseService.discover world localPaths registry.resolvedRepos .empty with
          | error exc => trivial
          | ok catalog =>
              refine Discipline.Keeps.atomic ?_
              intro state follows sound
              have allowed := publish_allows sound (rebuilt catalog discovered)
              have since := allowed.2.catalog_mem ((later.trans after).trans
                (Site.Later.trans follows allowed.1))
              exact ⟨allowed, catalog, since, rfl⟩

end Checks

end Keeps

end Threaded

end BiothingsPulse
