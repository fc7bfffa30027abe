import BiothingsPulse.Api.Turns

/-!
# What the jobs poll

The startup job and the ticks of the scheduler go through a catalog and check what is due.
Where the store is the history of the checks, what is due can be told from that history, and a
job adds to it at most one report of each source that is.
-/

namespace BiothingsPulse

open Foundation Foundation.Threads

variable {codec : StateCodec}

/-- The sources that a due-check goes through, none of them if it cannot choose. -/
def dueList (croniter : Croniter) (world : World) (service : PulseService codec) :
    List PluginRef :=
  (service.dueRefs croniter world).toOption.getD []

namespace Threaded

section Reporting

variable {ρ τ ι : Type} {sources others : List SourceKey}

/-- Alone, a program reports on the sources in order, at the time it finds, and on all of them
if it does not raise. -/
def Reports (program : Threaded codec (Except PyExc ρ)) (sources : List SourceKey) : Prop :=
  ∀ site, ∃ added, (program.alone site).2.reports = site.reports ++ added ∧
    (program.alone site).2.clock = site.clock ∧ added.map Prod.fst <+: sources ∧
    (∀ entry ∈ added, entry.2.now = site.clock) ∧
    ((program.alone site).1.isOk = true → added.map Prod.fst = sources)

private theorem Reports.error (exc : PyExc) :
    Reports (.done (.error exc) : Threaded codec (Except PyExc ρ)) sources :=
  fun _ => ⟨[], (List.append_nil _).symm, rfl, List.nil_prefix, by simp,
    fun ended => absurd ended Bool.false_ne_true⟩

private theorem Reports.done (result : Except PyExc ρ) :
    Reports (.done result : Threaded codec (Except PyExc ρ)) [] :=
  fun _ => ⟨[], (List.append_nil _).symm, rfl, List.nil_prefix, by simp, fun _ => rfl⟩

private theorem Reports.andThen {first : Threaded codec (Except PyExc ρ)}
    {rest : ρ → Threaded codec (Except PyExc τ)} (reports : Reports first sources)
    (goesOn : ∀ value, Reports (rest value) others) :
    Reports (first.andThen rest) (sources ++ others) := by
  intro site
  obtain ⟨early, early_reports, early_clock, early_sources, early_times, early_all⟩ := reports site
  rw [Program.andThen, Program.alone_bind]
  cases returned : (first.alone site).1 with
  | error exc =>
      exact ⟨early, early_reports, early_clock,
        early_sources.trans (List.prefix_append _ _), early_times,
        fun ended => absurd ended Bool.false_ne_true⟩
  | ok value =>
      obtain ⟨late, late_reports, late_clock, late_sources, late_times, late_all⟩ :=
        goesOn value (first.alone site).2
      have all := early_all (by rw [returned]; rfl)
      refine ⟨early ++ late, ?_, late_clock.trans early_clock, ?_, ?_, fun ends => ?_⟩
      · rw [late_reports, early_reports, List.append_assoc]
      · rw [List.map_append, all]
        exact (List.prefix_append_right_inj _).mpr late_sources
      · intro entry member
        obtain own | own := List.mem_append.mp member
        · exact early_times entry own
        · exact (late_times entry own).trans early_clock
      · rw [List.map_append, all, late_all ends]

private theorem Reports.forEach {body : ι → Threaded codec (Except PyExc Unit)}
    {source : ι → SourceKey} (elements : List ι)
    (each : ∀ element, Reports (body element) [source element]) :
    Reports (Program.forEach body elements) (elements.map source) := by
  induction elements with
  | nil => exact .done _
  | cons element rest ih => exact (each element).andThen fun _ => ih

/-- A reading or a note before a program does not change what it reports. -/
theorem Reports.after {program : Threaded codec ρ} {rest : ρ → Threaded codec (Except PyExc τ)}
    (silent : ∀ site, (program.alone site).2.reports = site.reports ∧
      (program.alone site).2.clock = site.clock)
    (reports : ∀ value, Reports (rest value) sources) : Reports (program.bind rest) sources := by
  intro site
  rw [Program.alone_bind]
  obtain ⟨added, later, clock, inside, times, all⟩ :=
    reports (program.alone site).1 (program.alone site).2
  obtain ⟨same, still⟩ := silent site
  exact ⟨added, same ▸ later, clock.trans still, inside, still ▸ times, all⟩

variable (world : World)

private theorem record_reports (ref : PluginRef) (result : CheckResult) :
    Reports (record world ref result : Threaded codec _) [ref.source] := by
  intro site
  have left : ((record world ref result).alone site).2.reports =
      (site.noteReport ref result).reports ∧
        ((record world ref result).alone site).2.clock = site.clock := by
    obtain same | ⟨written, _, same⟩ := record_leaves world ref result site
    · rw [same]
      exact ⟨rfl, rfl⟩
    · rw [same]
      exact ⟨rfl, rfl⟩
  exact ⟨[(ref.source, result.report ref site.clock)], left.1, left.2, List.prefix_rfl,
    List.forall_mem_singleton.mpr rfl, fun _ => rfl⟩

private theorem checkRefs_reports (refs : List PluginRef) :
    Reports (checkRefs world refs : Threaded codec _) (refs.map PluginRef.source) := by
  have each (ref : PluginRef) : Reports (collectOne world refs ref : Threaded codec _)
      [ref.source] := by
    unfold collectOne
    cases PulseService.future world refs ref.key with
    | none => exact .error _
    | some outcome =>
        dsimp only
        cases outcome.collect "check timed out" with
        | error exc => exact .error _
        | ok result => exact (record_reports world ref result).andThen fun _ => .done _
  have swept := (Reports.forEach refs each).andThen fun _ => Reports.done (.ok refs.length)
  rw [List.append_nil] at swept
  exact .after (fun _ => ⟨rfl, rfl⟩) fun _ => swept

end Reporting

section Due

variable (croniter : Croniter) (world : World) (site : Site codec)

/-- The due sources are chosen without any change. -/
theorem select_isDue_alone :
    (Program.select (isDue croniter) site.service.listCatalog).alone site =
      (site.service.dueRefs croniter (world.at site.clock), site) := by
  obtain ⟨chosen, _, _⟩ := Program.Implements.select site.service.listCatalog
    (@isDue_does codec site.clock world croniter) site rfl
  have unchanged : Program.Preserves (fun other : Site codec => other = site)
      (Program.select (isDue croniter) site.service.listCatalog) :=
    .select _ fun _ => (Program.Preserves.read _).bind fun _ => .read _
  exact Prod.ext chosen (unchanged site rfl)

/-- A due-check reports on the due sources, in order. -/
theorem runDueChecks_reports : ∃ added,
    ((runDueChecks world croniter).alone site).2.reports = site.reports ++ added ∧
      added.map Prod.fst <+:
        (dueList croniter (world.at site.clock) site.service).map PluginRef.source ∧
      (∀ entry ∈ added, entry.2.now = site.clock) ∧
      (((runDueChecks world croniter).alone site).1.isOk = true → added.map Prod.fst =
        (dueList croniter (world.at site.clock) site.service).map PluginRef.source) := by
  rw [runDueChecks, listCatalog, Program.alone_bind, Program.alone_read, Program.andThen,
    Program.alone_bind, select_isDue_alone croniter world site, dueList]
  cases site.service.dueRefs croniter (world.at site.clock) with
  | error exc => exact ⟨[], (List.append_nil _).symm, List.nil_prefix, by simp,
    fun ended => absurd ended Bool.false_ne_true⟩
  | ok due =>
      cases due with
      | nil => exact ⟨[], (List.append_nil _).symm, List.nil_prefix, by simp, fun _ => rfl⟩
      | cons ref rest =>
          have checked := (@checkRefs_reports codec world (ref :: rest)).andThen
            fun _ => Reports.done (.ok (ref :: rest).length)
          rw [List.append_nil] at checked
          obtain ⟨added, later, _, inside, times, all⟩ := checked site
          exact ⟨added, later, inside, times, all⟩

end Due

end Threaded

section Polling

/-- The text of a value that is a string. -/
def PyValue.text? : PyValue → Option String
  | .str text => some text
  | .other _ => none

/-- The schedule that the last check in which the plugin loaded reported. -/
def lastSchedule (history : List (CheckReport PyValue String)) : Option String :=
  ((history.filter CheckReport.loaded).getLast?.bind CheckReport.schedule).bind PyValue.text?

/-- Whether a source is to be checked, by the reports of its checks. -/
def dueBy (croniter : Croniter) (interval : Int) (history : List (CheckReport PyValue String))
    (now : Time) : Except PyExc Bool :=
  croniter.isDue (lastSchedule history) (history.getLast?.map CheckReport.now) interval now

/-- The record of a history has the time of its last check and the last schedule. -/
theorem storedAfter_due (repo plugin : String) (history : List (CheckReport PyValue String)) :
    (storedAfter repo plugin history).bind SourceState.checkedAt =
        history.getLast?.map CheckReport.now ∧
      (storedAfter repo plugin history).bind SourceState.schedule =
        (history.filter CheckReport.loaded).getLast?.bind CheckReport.schedule := by
  obtain rfl | ⟨earlier, last, rfl⟩ := List.eq_nil_or_concat history
  · exact ⟨rfl, rfl⟩
  · rw [List.concat_eq_append, ← schedule_priorState repo plugin last, priorState_schedule]
    refine ⟨?_, rfl⟩
    rw [storedAfter_append, List.getLast?_concat]
    exact (SourceState.recordCheck_attempt _ repo plugin last).2.2

/-- A source is due when its history says so. -/
theorem isDue_eq_dueBy {site : Site codec} (summarised : site.Summarised) (croniter : Croniter)
    (world : World) (ref : PluginRef) :
    site.service.isDue croniter (world.at site.clock) ref =
      dueBy croniter site.service.settings.schedulerInterval (site.reportsOf ref.source)
        site.clock := by
  obtain ⟨checked, scheduled⟩ :=
    storedAfter_due ref.source.repo ref.source.plugin (site.reportsOf ref.source)
  rw [← summarised ref.source] at checked scheduled
  have schedule : (site.service.store.get ref.source).bind SourceState.schedule =
      lastSchedule (site.reportsOf ref.source) := by
    rw [lastSchedule, ← scheduled]
    cases site.service.store.get ref.source with
    | none => rfl
    | some state =>
        change state.schedule = (state.schedule.map PyValue.str).bind PyValue.text?
        cases state.schedule <;> rfl
  have last : (site.service.store.get ref.source).bind SourceState.checkedAt =
      (site.reportsOf ref.source).getLast?.map CheckReport.now := by
    rw [← checked]
    cases site.service.store.get ref.source <;> rfl
  rw [PulseService.isDue, dueBy, ← schedule, ← last]
  rfl

/-- What a job that goes through a catalog does to the histories: a source gets at most one
report more, and only if it is in the catalog and due. -/
def PollsDue (croniter : Croniter) (catalog : Catalog) (before after : Site codec) : Prop :=
  ∀ source, after.reportsOf source = before.reportsOf source ∨ ∃ report,
    after.reportsOf source = before.reportsOf source ++ [report] ∧ report.now = before.clock ∧
      dueBy croniter before.service.settings.schedulerInterval (before.reportsOf source)
        before.clock = .ok true ∧
      ∃ ref ∈ catalog.refs, ref.source = source

/-- Nothing keeps a job from going through the catalog to its end. -/
def Goes (croniter : Croniter) (world : World) (catalog : Catalog) (before : Site codec) : Prop :=
  ∀ ref ∈ catalog.refs, world.stops ref = false ∧
    (dueBy croniter before.service.settings.schedulerInterval (before.reportsOf ref.source)
      before.clock).isOk = true

/-- Reports on distinct sources add at most one to the history of each. -/
theorem reportsOf_added {before after : Site codec}
    {added : List (SourceKey × CheckReport PyValue String)}
    (later : after.reports = before.reports ++ added) (distinct : (added.map Prod.fst).Nodup)
    (source : SourceKey) :
    source ∉ added.map Prod.fst ∧ after.reportsOf source = before.reportsOf source ∨
      ∃ report, (source, report) ∈ added ∧
        after.reportsOf source = before.reportsOf source ++ [report] := by
  have appended : after.reportsOf source = before.reportsOf source ++
      (added.filter fun entry => entry.1 = source).map Prod.snd := by
    rw [Site.reportsOf, Site.reportsOf, later, List.filter_append, List.map_append]
  rw [appended]
  clear appended later
  induction added with
  | nil => exact .inl ⟨List.not_mem_nil, List.append_nil _⟩
  | cons entry rest ih =>
      rw [List.map_cons, List.nodup_cons] at distinct
      obtain ⟨own, report⟩ := entry
      by_cases same : own = source
      · subst same
        have others : rest.filter (fun entry => entry.1 = own) = [] :=
          List.filter_eq_nil_iff.mpr fun other member equal =>
            distinct.1 (List.mem_map.mpr ⟨other, member, of_decide_eq_true equal⟩)
        exact .inr ⟨report, List.mem_cons_self, by
          rw [List.filter_cons_of_pos (by simp), others]; rfl⟩
      · rw [List.filter_cons_of_neg (by simpa using same)]
        obtain ⟨absent, unchanged⟩ | ⟨report, member, grown⟩ := ih distinct.2
        · refine .inl ⟨?_, unchanged⟩
          rw [List.map_cons, List.mem_cons, not_or]
          exact ⟨Ne.symm same, absent⟩
        · exact .inr ⟨report, List.mem_cons_of_mem _ member, grown⟩

section Sweep

variable {croniter : Croniter} {world : World} {service : PulseService codec}

private theorem mem_dueList {ref : PluginRef} (member : ref ∈ dueList croniter world service) :
    ref ∈ service.catalog.refs ∧ service.isDue croniter world ref = .ok true := by
  unfold dueList at member
  cases chosen : service.dueRefs croniter world with
  | error exc =>
      rw [chosen] at member
      exact absurd member List.not_mem_nil
  | ok due =>
      rw [chosen] at member
      rw [Except.toOption, Option.getD_some, Loop.select_eq_ok chosen, List.mem_filter] at member
      refine ⟨service.catalog.list_perm.mem_iff.mp member.1, ?_⟩
      cases tested : service.isDue croniter world ref with
      | error exc => rw [tested] at member; cases member.2
      | ok passes => rw [tested] at member; exact congrArg Except.ok member.2

private theorem dueList_sources_nodup :
    ((dueList croniter world service).map PluginRef.source).Nodup := by
  have keys : ((dueList croniter world service).map PluginRef.key).Nodup := by
    unfold dueList
    cases chosen : service.dueRefs croniter world with
    | error exc => exact List.nodup_nil
    | ok due =>
        exact ((Loop.select_sublist chosen).map _).nodup service.catalog.list_nodup
  have named : (dueList croniter world service).map PluginRef.key =
      ((dueList croniter world service).map PluginRef.source).map fun source =>
        source.repo ++ "/" ++ source.plugin := by
    rw [List.map_map]
    rfl
  rw [named] at keys
  exact keys.of_map _

variable {site after : Site codec}

/-- A due-check polls what is due, and all of it if nothing stops it. -/
theorem runDueChecks_polls (summarised : site.Summarised)
    (ran : after = ((Threaded.runDueChecks world croniter).alone site).2) :
    PollsDue croniter site.service.catalog site after ∧
      (Goes croniter world site.service.catalog site → ∀ ref ∈ site.service.catalog.refs,
        dueBy croniter site.service.settings.schedulerInterval (site.reportsOf ref.source)
            site.clock = .ok true →
          ∃ report, after.reportsOf ref.source = site.reportsOf ref.source ++ [report]) := by
  obtain ⟨added, later, inside, times, all⟩ := Threaded.runDueChecks_reports croniter world site
  rw [← ran] at later
  have distinct : (added.map Prod.fst).Nodup :=
    inside.sublist.nodup dueList_sources_nodup
  have told := reportsOf_added later distinct
  constructor
  · intro source
    obtain ⟨_, same⟩ | ⟨report, member, grown⟩ := told source
    · exact .inl same
    · obtain ⟨ref, due, rfl⟩ :=
        List.mem_map.mp (inside.subset (List.mem_map_of_mem (f := Prod.fst) member))
      obtain ⟨listed, isDue⟩ := mem_dueList due
      rw [isDue_eq_dueBy summarised] at isDue
      exact .inr ⟨report, grown, times _ member, isDue, ref, listed, rfl⟩
  · intro goes ref listed isDue
    have each : ∀ other ∈ site.service.listCatalog,
        site.service.isDue croniter (world.at site.clock) other =
          .ok ((site.service.isDue croniter (world.at site.clock) other).toOption.getD false) := by
      intro other member
      have answers := (goes other (site.service.catalog.list_perm.mem_iff.mp member)).2
      rw [← isDue_eq_dueBy summarised croniter world other] at answers
      cases tested : site.service.isDue croniter (world.at site.clock) other with
      | error exc => rw [tested] at answers; cases answers
      | ok passes => rfl
    have chosen : site.service.dueRefs croniter (world.at site.clock) = _ :=
      Loop.select_eq_filter each
    have ended : ((Threaded.runDueChecks world croniter).alone site).1.isOk = true := by
      rw [(Threaded.runDueChecks_does world croniter site rfl).1,
        PulseService.runDueChecks_of_due chosen
          ((List.filter_sublist.map _).nodup site.service.catalog.list_nodup)
          fun other member => (goes other (site.service.catalog.list_perm.mem_iff.mp
            (List.mem_filter.mp member).1)).1]
      rfl
    have due : ref ∈ dueList croniter (world.at site.clock) site.service := by
      rw [dueList, chosen]
      refine List.mem_filter.mpr ⟨site.service.catalog.list_perm.mem_iff.mpr listed, ?_⟩
      rw [isDue_eq_dueBy summarised, isDue]
      rfl
    obtain ⟨absent, _⟩ | ⟨report, _, grown⟩ := told ref.source
    · have reached : ref.source ∈ added.map Prod.fst := by
        rw [all ended]
        exact List.mem_map_of_mem due
      exact absurd reached absent
    · exact ⟨report, grown⟩

end Sweep

end Polling

section Jobs

/-- What a sync leaves as it is. -/
structure Site.SameHistory (before after : Site codec) : Prop where
  store : after.service.store = before.service.store
  settings : after.service.settings = before.service.settings
  reports : after.reports = before.reports
  clock : after.clock = before.clock

private theorem Site.SameHistory.reportsOf {before after : Site codec}
    (same : before.SameHistory after) (source : SourceKey) :
    after.reportsOf source = before.reportsOf source := by
  rw [Site.reportsOf, Site.reportsOf, same.reports]

private theorem Site.SameHistory.summarised {before after : Site codec}
    (same : before.SameHistory after) (summarised : before.Summarised) : after.Summarised := by
  intro source
  rw [same.store, same.reportsOf]
  exact summarised source

/-- A sync raises what the rebuild raises, or publishes the rebuilt catalog. -/
theorem Threaded.syncAndDiscover_cases (world : World) (site : Site codec) :
    ∃ synced, site.SameHistory synced ∧
      ((∃ exc, PulseService.rebuild world = .error exc ∧
          (syncAndDiscover world).alone site = (.error exc, synced)) ∨
        ∃ catalog, PulseService.rebuild world = .ok catalog ∧ synced.service.catalog = catalog ∧
          (syncAndDiscover world).alone site = (.ok catalog.refs.length, synced)) := by
  unfold PulseService.rebuild syncAndDiscover
  cases world.registry with
  | error exc => exact ⟨site, ⟨rfl, rfl, rfl, rfl⟩, .inl ⟨exc, rfl, rfl⟩⟩
  | ok registry =>
      let noted := site.note [.sync registry.resolvedRepos]
      dsimp only
      cases PulseService.syncRegistry world registry.resolvedRepos with
      | error exc => exact ⟨noted, ⟨rfl, rfl, rfl, rfl⟩, .inl ⟨exc, rfl, rfl⟩⟩
      | ok localPaths =>
          dsimp only
          cases PulseService.discover world localPaths registry.resolvedRepos .empty with
          | error exc => exact ⟨noted, ⟨rfl, rfl, rfl, rfl⟩, .inl ⟨exc, rfl, rfl⟩⟩
          | ok catalog =>
              exact ⟨noted.publish catalog, ⟨rfl, rfl, rfl, rfl⟩, .inr ⟨catalog, rfl, rfl, rfl⟩⟩

/-- The startup job and the scheduler's ticks. -/
def Duty.IsJob : Duty → Prop
  | .startup _ | .tick _ => True
  | .answer _ _ => False

/-- The catalog that a job goes through. -/
def Duty.goesThrough (service : PulseService codec) : Duty → Option Catalog
  | .startup world => (PulseService.rebuild world).toOption
  | .tick _ => some service.catalog
  | .answer _ _ => none

/-- A job does nothing without a catalog, and polls what is due in the one it has. -/
theorem Duty.program_polls (app : App) {before after : Site codec}
    (summarised : before.Summarised) {duty : Duty} (job : duty.IsJob)
    (ran : after = ((duty.program app).alone before).2) :
    (duty.goesThrough before.service = none →
        ∀ source, after.reportsOf source = before.reportsOf source) ∧
      ∀ catalog, duty.goesThrough before.service = some catalog →
        PollsDue app.croniter catalog before after ∧
          (Goes app.croniter duty.world catalog before → ∀ ref ∈ catalog.refs,
            dueBy app.croniter before.service.settings.schedulerInterval
                (before.reportsOf ref.source) before.clock = .ok true →
              ∃ report, after.reportsOf ref.source = before.reportsOf ref.source ++ [report]) := by
  cases duty with
  | startup world =>
      obtain ⟨synced, same, ⟨exc, raised, left⟩ | ⟨catalog, rebuilt, published, left⟩⟩ :=
        Threaded.syncAndDiscover_cases world before
      · have stopped : ((Threaded.initialSync app.croniter world).alone before).2 = synced := by
          rw [Threaded.initialSync, Program.alone_bind, left]
          rfl
        rw [Duty.goesThrough, raised]
        refine ⟨fun _ source => ?_, fun catalog through => ?_⟩
        · rw [ran.trans stopped, same.reportsOf]
        · cases through
      · have swept : ((Threaded.initialSync app.croniter world).alone before).2 =
            ((Threaded.runDueChecks world app.croniter).alone synced).2 := by
          rw [Threaded.initialSync, Program.alone_bind, left]
          dsimp only
          rw [Program.map, Program.alone_bind]
          rfl
        have polls := runDueChecks_polls (same.summarised summarised) (ran.trans swept)
        simp only [PollsDue, Goes, published, same.reportsOf, same.settings, same.clock] at polls
        rw [Duty.goesThrough, rebuilt]
        refine ⟨fun absent => ?_, fun own through => ?_⟩
        · cases absent
        · obtain rfl := Option.some.inj through
          exact polls
  | tick world =>
      have swept : ((Threaded.scheduledRun app.croniter world).alone before).2 =
          ((Threaded.runDueChecks world app.croniter).alone before).2 := by
        rw [Threaded.scheduledRun, Program.map, Program.alone_bind]
        rfl
      refine ⟨fun absent => ?_, fun own through => ?_⟩
      · cases absent
      · obtain rfl := Option.some.inj through
        exact runDueChecks_polls summarised (ran.trans swept)
  | answer world request => exact job.elim

end Jobs

section Pace

variable {croniter : Croniter} {interval : Int}

/-- Each check of a source was made when its history said that it was due. -/
def Paced (croniter : Croniter) (interval : Int) (history : List (CheckReport PyValue String)) :
    Prop :=
  ∀ earlier report later, history = earlier ++ report :: later →
    dueBy croniter interval earlier report.now = .ok true

/-- Without checks there is nothing to pace. -/
theorem Paced.nil : Paced croniter interval [] := by
  intro earlier report later split
  exact absurd split.symm (List.append_ne_nil_of_right_ne_nil _ (List.cons_ne_nil _ _))

/-- A check that was due keeps the pace. -/
theorem Paced.append {history : List (CheckReport PyValue String)}
    {report : CheckReport PyValue String} (paced : Paced croniter interval history)
    (due : dueBy croniter interval history report.now = .ok true) :
    Paced croniter interval (history ++ [report]) := by
  intro earlier other later split
  obtain rfl | ⟨rest, last, rfl⟩ := List.eq_nil_or_concat later
  · obtain ⟨rfl, same⟩ := List.append_inj' split rfl
    obtain rfl := List.singleton_inj.mp same
    exact due
  · rw [List.concat_eq_append, ← List.cons_append, ← List.append_assoc] at split
    exact paced earlier other rest (List.append_inj' split rfl).1

end Pace

end BiothingsPulse
