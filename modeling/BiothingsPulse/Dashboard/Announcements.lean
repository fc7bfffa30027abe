import BiothingsPulse.Api.Turns
import BiothingsPulse.Dashboard.Session
import BiothingsPulse.Service.Rebuild

/-!
# What the dashboard announces

A row of the dashboard is what has come of the checks of its source, by way of the record, the
listing, its JSON and the page. In a service that works in turns it tells the whole history of
the checks, and a source is marked as changed exactly when they have come to a new version
within the last week. Whatever interleaves, nothing is told that no check has reported.
-/

namespace BiothingsPulse.Dashboard

open Foundation Foundation.Threads Foundation.Transition

section Times

/-- The text of a time is a date, which the browser reads to the millisecond. -/
structure ReadsTime (browser : Browser) (isoformat : Time → String) (time : Time) : Prop where
  filled : isoformat time ≠ ""
  reads : browser.parseDate (isoformat time) = some (time / 1000)

/-- Within the last seven days, by the clock of the browser. -/
def Recent (browser : Browser) (time : Time) : Prop := browser.now - time / 1000 < 7 * 86400 * 1000

instance (browser : Browser) (time : Time) : Decidable (Recent browser time) :=
  inferInstanceAs (Decidable (_ < _))

variable {browser : Browser} {isoformat : Time → String} {d : SourcePayload}

private theorem isRecent_isoformat {time : Time} (date : ReadsTime browser isoformat time) :
    isRecent browser (some (isoformat time)) = true ↔ Recent browser time := by
  have own : truthy (some (isoformat time)) = some (isoformat time) :=
    Option.filter_eq_some_iff.mpr ⟨rfl, decide_eq_true date.filled⟩
  unfold isRecent
  rw [own, Option.bind_some, date.reads]
  exact decide_eq_true_iff

/-- A source is marked as changed when it has a last version, and its current one is recent. -/
theorem isChanged_iff {seenAt : Option Time}
    (current : d.currentVersionAt = seenAt.map isoformat)
    (dates : ∀ time, seenAt = some time → ReadsTime browser isoformat time) :
    isChanged browser d = true ↔ (∃ version, d.lastVersion = some version ∧ version ≠ "") ∧
      ∃ time, seenAt = some time ∧ Recent browser time := by
  have previous : (truthy d.lastVersion).isSome = true ↔
      ∃ version, d.lastVersion = some version ∧ version ≠ "" := by
    simp only [truthy, Option.isSome_iff_exists, Option.filter_eq_some_iff, decide_eq_true_eq]
  rw [isChanged, Bool.and_eq_true, previous, current]
  refine and_congr_right fun _ => ?_
  cases seenAt with
  | none => exact iff_of_false Bool.false_ne_true nofun
  | some time =>
      rw [Option.map_some, isRecent_isoformat (dates time rfl)]
      exact ⟨fun recent => ⟨time, rfl, recent⟩, fun ⟨_, same, recent⟩ =>
        Option.some.inj same ▸ recent⟩

/-- A sighting was made at the time of a report. -/
theorem exists_report {history : List (CheckReport PyValue String)} {sighting : Sighting}
    (member : sighting ∈ sightings history) : ∃ report ∈ history, report.now = sighting.seenAt := by
  obtain ⟨report, listed, seen⟩ := List.mem_filterMap.mp member
  exact ⟨report, listed, (CheckReport.seenAt_of_sighting seen).symm⟩

variable {codec : StateCodec} in
private theorem readsTime_of_reportsOf {site : Site codec}
    (dates : ∀ entry ∈ site.reports, ReadsTime browser isoformat entry.2.now)
    (source : SourceKey) :
    ∀ report ∈ site.reportsOf source, ReadsTime browser isoformat report.now := by
  intro report member
  obtain ⟨entry, listed, rfl⟩ := List.mem_map.mp member
  exact dates entry (List.mem_filter.mp listed).1

end Times

section Turns

variable {codec : StateCodec} {isoformat : Time → String} {browser : Browser}

/-- A record tells the history of the checks of its source. -/
structure Tells (history : List (CheckReport PyValue String)) (state : SourceState PyValue) :
    Prop where
  versions : state.versions = versionsOf (sightings history)
  status : state.status = (history.getLast?.map CheckReport.status).getD .pending
  error : state.error = history.getLast?.bind CheckReport.error
  checkedAt : state.checkedAt = history.getLast?.map CheckReport.now

/-- What is stored after a history tells it, and so does the placeholder for nothing. -/
theorem tells_storedAfter (history : List (CheckReport PyValue String)) (repo plugin : String)
    (pluginType : PluginType) (now : Time) :
    Tells history ((storedAfter repo plugin history).getD
      (SourceState.initial repo plugin pluginType now)) := by
  obtain rfl | ⟨earlier, last, rfl⟩ := List.eq_nil_or_concat history
  · exact ⟨rfl, rfl, rfl, rfl⟩
  · rw [List.concat_eq_append]
    have versions := versions_priorState repo plugin last (earlier ++ [last])
    have ends : (earlier ++ [last]).getLast? = some last := List.getLast?_concat
    rw [storedAfter_append] at versions ⊢
    obtain ⟨status, error, checkedAt⟩ := SourceState.recordCheck_attempt
      (storedAfter repo plugin earlier) repo plugin last
    refine ⟨versions, ?_, ?_, ?_⟩
    · rw [ends]
      exact status
    · rw [ends]
      exact error
    · rw [ends]
      exact checkedAt

private theorem tells_cached {site : Site codec} (summarised : site.Summarised) (now : Time)
    (ref : PluginRef) :
    Tells (site.reportsOf ref.source) (site.service.cached now ref).untyped := by
  have own : (site.service.cached now ref).untyped =
      (storedAfter ref.repo ref.name (site.reportsOf ref.source)).getD
        (SourceState.initial ref.repo ref.name ref.pluginType now) := by
    have stored := summarised ref.source
    unfold PulseService.cached
    rw [← show _ = storedAfter ref.repo ref.name _ from stored]
    cases site.service.store.get ref.source with
    | none => rfl
    | some state => rfl
  rw [own]
  exact tells_storedAfter _ _ _ _ _

/-- The payload of a source tells the history of its checks. -/
structure Announces (browser : Browser) (isoformat : Time → String)
    (history : List (CheckReport PyValue String)) (ref : PluginRef) (d : SourcePayload) :
    Prop where
  repo : d.repo = ref.repo
  plugin : d.plugin = ref.name
  sourceUrl : d.sourceUrl = ref.sourceUrl
  currentVersion : d.currentVersion = (currentSighting history).map Sighting.version
  currentVersionAt : d.currentVersionAt =
    ((currentSighting history).map Sighting.seenAt).map isoformat
  lastVersion : d.lastVersion = (previousSighting history).map Sighting.version
  lastVersionAt : d.lastVersionAt = ((previousSighting history).map Sighting.seenAt).map isoformat
  status : d.status = ((history.getLast?.map CheckReport.status).getD .pending).text
  error : d.error = history.getLast?.bind CheckReport.error
  checkedAt : d.checkedAt = (history.getLast?.map CheckReport.now).map isoformat
  changed : isChanged browser d = true ↔ ∃ older newer,
    previousSighting history = some older ∧ currentSighting history = some newer ∧
      older.version ≠ "" ∧ Recent browser newer.seenAt

/-- The sources of a successful listing are those of the catalog, each with its status. -/
theorem listed_of_result {app : App} {world : World} {now : Time} {service : PulseService codec}
    {body : Body} (isoformat : Time → String)
    (read : (Answer.response (app.serve world now sourcesRequest service).1).result
      "/api/sources" = .ok body) :
    List.Forall₂ (fun ref d => ref ∈ service.listCatalog ∧ ∃ status,
        service.status app.croniter now (service.cached now ref).untyped = .ok status ∧
          d = SourcePayload.ofStatus isoformat status)
      service.listCatalog (sourcesOf isoformat body) := by
  have served : (app.serve world now sourcesRequest service).1 =
      respond (service.sourcesBody app.croniter now) := rfl
  rw [served, PulseService.sourcesBody] at read
  cases listed : service.listSources app.croniter now with
  | error exc =>
      rw [listed] at read
      cases read
  | ok statuses =>
      rw [listed] at read
      obtain rfl : Body.sources statuses.length statuses = body := Except.ok.inj read
      refine (List.forall₂_and_left _ _).mpr ⟨fun _ member => member, ?_⟩
      exact List.forall₂_map_right_iff.mpr
        ((Loop.collect_forall₂ listed).imp fun _ status shown => ⟨status, shown, rfl⟩)

/-- The status of a source whose record tells its history announces it. -/
theorem announces_ofStatus {croniter : Croniter} {site : Site codec} (summarised : site.Summarised)
    {now : Time} {ref : PluginRef} (listed : ref ∈ site.service.listCatalog)
    (dates : ∀ report ∈ site.reportsOf ref.source, ReadsTime browser isoformat report.now)
    {status : SourceStatus}
    (shown : site.service.status croniter now (site.service.cached now ref).untyped = .ok status) :
    Announces browser isoformat (site.reportsOf ref.source) ref
      (SourcePayload.ofStatus isoformat status) := by
  have tells := tells_cached summarised now ref
  have shows := PulseService.status_eq_ok shown
  obtain ⟨repo, plugin⟩ := Prod.mk.inj (PulseService.status_cached_source shown)
  have keyed : site.service.getRef ref.repo ref.name = some ref :=
    Catalog.get?_eq_some_iff.mpr ⟨site.service.catalog.list_perm.mem_iff.mp listed, rfl⟩
  obtain ⟨version, seenAt⟩ := Prod.mk.inj (congrArg Prod.fst tells.versions)
  obtain ⟨lastVersion, lastSeenAt⟩ := Prod.mk.inj (congrArg Prod.snd tells.versions)
  have currentVersionAt := (congrArg SourceStatus.currentVersionAt shows).trans seenAt
  have previous := (congrArg SourceStatus.lastVersion shows).trans lastVersion
  refine {
    repo := repo
    plugin := plugin
    sourceUrl := ?_
    currentVersion := (congrArg SourceStatus.currentVersion shows).trans version
    currentVersionAt := congrArg (Option.map isoformat) currentVersionAt
    lastVersion := previous
    lastVersionAt := congrArg (Option.map isoformat)
      ((congrArg SourceStatus.lastVersionAt shows).trans lastSeenAt)
    status := congrArg Status.text ((congrArg SourceStatus.status shows).trans tells.status)
    error := (congrArg SourceStatus.error shows).trans tells.error
    checkedAt := congrArg (Option.map isoformat)
      ((congrArg SourceStatus.checkedAt shows).trans tells.checkedAt)
    changed := ?_ }
  · have link := congrArg SourceStatus.sourceUrl shows
    have named : (site.service.cached now ref).repo = ref.repo ∧
        (site.service.cached now ref).plugin = ref.name :=
      ⟨(congrArg SourceStatus.repo shows).symm.trans repo,
        (congrArg SourceStatus.plugin shows).symm.trans plugin⟩
    dsimp only at link
    rw [named.1, named.2, keyed] at link
    exact link
  · have read : ∀ time, (currentSighting (site.reportsOf ref.source)).map Sighting.seenAt =
        some time → ReadsTime browser isoformat time := by
      intro time known
      obtain ⟨sighting, opens, rfl⟩ := Option.map_eq_some_iff.mp known
      obtain ⟨report, member, same⟩ := exists_report (Runs.mem_of_opening _ opens)
      exact same ▸ dates report member
    rw [isChanged_iff (congrArg (Option.map isoformat) currentVersionAt) read]
    have last : (SourcePayload.ofStatus isoformat status).lastVersion =
        (previousSighting (site.reportsOf ref.source)).map Sighting.version := previous
    rw [last]
    constructor
    · rintro ⟨⟨_, isLast, filled⟩, time, isCurrent, recent⟩
      obtain ⟨older, before, rfl⟩ := Option.map_eq_some_iff.mp isLast
      obtain ⟨newer, opens, rfl⟩ := Option.map_eq_some_iff.mp isCurrent
      exact ⟨older, newer, before, opens, filled, recent⟩
    · rintro ⟨older, newer, before, opens, filled, recent⟩
      exact ⟨⟨older.version, congrArg (Option.map Sighting.version) before, filled⟩,
        newer.seenAt, congrArg (Option.map Sighting.seenAt) opens, recent⟩

/-- **The dashboard announces the history.** After any turns of jobs and requests on a fresh
deployment, whose checks report strings as schedules and whose database accepts every write,
a page that loads the listing has the catalog as its data, each source with what the reports of
its checks come to, and draws its rows from them; and a source counts as changed if and only if
its sightings have come from a version that is not empty to another one in the last seven days. -/
theorem turns_announced (app : App) (settings : Settings) (clock : Time)
    (taken : List (Duty × Time)) (regular : ∀ turn ∈ taken, turn.1.world.Regular)
    {site : Site codec} (reached : site = Duty.turns app taken (Site.opening settings clock))
    (dates : ∀ entry ∈ site.reports, ReadsTime browser isoformat entry.2.now)
    (world : World) (now : Time) {body : Body}
    (read : (Answer.response (app.serve world now sourcesRequest site.service).1).result
      "/api/sources" = .ok body) (page : Page) (health : Answer) :
    let shown := page.load browser isoformat
      (.response (app.serve world now sourcesRequest site.service).1) health
    shown.rows = renderRows browser shown.view ∧
      List.Forall₂ (fun ref d => Announces browser isoformat (site.reportsOf ref.source) ref d)
        site.service.listCatalog shown.view.data := by
  have summarised : site.Summarised := reached ▸ turns_summarised app settings clock taken regular
  refine ⟨Page.rows_load_of_ok read browser page isoformat health, ?_⟩
  rw [(Page.load_of_ok read browser page isoformat health).1]
  refine (listed_of_result isoformat read).imp ?_
  rintro ref _ ⟨listed, status, shown, rfl⟩
  exact announces_ofStatus summarised listed (readsTime_of_reportsOf dates ref.source) shown

/-- The texts of the first microseconds, and a browser that reads two of them. -/
def epochText (time : Time) : String := "1970-01-01T00:00:00.00000" ++ toString time ++ "Z"

def epochBrowser : Browser :=
  { (default : Browser) with
    parseDate := fun text => if text = epochText 5 ∨ text = epochText 9 then some 0 else none }

private theorem readsTime_epoch {time : Time} (known : time ∈ [(5 : Time), 9]) :
    ReadsTime epochBrowser epochText time := by
  revert time
  simp only [List.forall_mem_cons, List.not_mem_nil, false_implies, implies_true, and_true]
  exact ⟨⟨by decide, rfl⟩, ⟨by decide, rfl⟩⟩

private theorem nextRelease_regular : nextRelease.Regular where
  accepts _ := rfl
  wellTyped ref result returned := by
    obtain rfl := CheckOutcome.returned.inj returned
    rfl

def releaseTurns : List (Duty × Time) :=
  [(syncDuty, 2), (checkDuty, 5), (.answer nextRelease checkRequest, 9)]

/-- A deployment in which a source was checked, and checked again after a release. -/
def releasedSite : Site plainCodec := Duty.turns plainApp releaseTurns (Site.opening {} 1)

/-- A release that has just been reported is announced. -/
theorem turns_announced_release : ∃ d,
    (Page.load epochBrowser (.opening true none) epochText
      (.response (plainApp.serve firstStart 11 sourcesRequest releasedSite.service).1)
      (.failed "")).view.data = [d] ∧ isChanged epochBrowser d = true := by
  have regular : ∀ turn ∈ releaseTurns, turn.1.world.Regular := by
    simp only [releaseTurns, List.forall_mem_cons, List.not_mem_nil, false_implies, implies_true,
      and_true]
    exact ⟨firstStart_regular, firstStart_regular, nextRelease_regular⟩
  have dates : ∀ entry ∈ releasedSite.reports, ReadsTime epochBrowser epochText entry.2.now := by
    have times : releasedSite.reports.map (fun entry => entry.2.now) = [5, 9] := rfl
    exact fun entry member => readsTime_epoch (times ▸ List.mem_map_of_mem member)
  obtain ⟨status, served⟩ : ∃ status,
      (plainApp.serve firstStart 11 sourcesRequest releasedSite.service).1 =
        { statusCode := 200, body := .sources 1 [status] } :=
    ⟨_, serve_single plainApp rfl rfl firstStart⟩
  have read : (Answer.response (plainApp.serve firstStart 11 sourcesRequest
      releasedSite.service).1).result "/api/sources" = .ok (.sources 1 [status]) := by
    rw [served]
    rfl
  have reached : releasedSite = Duty.turns plainApp releaseTurns (Site.opening {} 1) := rfl
  obtain ⟨_, announced⟩ := turns_announced plainApp {} 1 releaseTurns regular reached dates
    firstStart 11 read (.opening true none) (.failed "")
  rw [listCatalog_single (show releasedSite.service.catalog.refs = [newSource] from rfl),
    List.forall₂_cons_left_iff] at announced
  obtain ⟨d, rest, announces, others, shown⟩ := announced
  obtain rfl := List.forall₂_nil_left_iff.mp others
  have versions : previousSighting (releasedSite.reportsOf newSource.source) = some ⟨"2024-10", 5⟩ ∧
      currentSighting (releasedSite.reportsOf newSource.source) = some ⟨"2024-11", 9⟩ :=
    ⟨rfl, rfl⟩
  exact ⟨d, shown, announces.changed.mpr ⟨_, _, versions.1, versions.2, by decide, by decide⟩⟩

end Turns

section Interleaving

variable {codec : StateCodec} {isoformat : Time → String} {browser : Browser}

/-- What the payload of a source says has been reported by its checks, its type and its link
are those of plugins that were discovered under its key, and it has a next check exactly when
it has been checked. -/
structure Vouches (browser : Browser) (isoformat : Time → String) (site base : Site codec)
    (ref : PluginRef) (d : SourcePayload) : Prop where
  repo : d.repo = ref.repo
  plugin : d.plugin = ref.name
  pluginType : ∃ pluginType, site.Types ref.source pluginType ∧ d.pluginType = pluginType.text
  sourceUrl : ∃ catalog ∈ site.catalogsSince base,
    d.sourceUrl = (catalog.get? ref.key).bind PluginRef.sourceUrl
  current : ∃ seenAt, Sighted (site.reportsOf ref.source) d.currentVersion seenAt ∧
    d.currentVersionAt = seenAt.map isoformat
  last : ∃ seenAt, Sighted (site.reportsOf ref.source) d.lastVersion seenAt ∧
    d.lastVersionAt = seenAt.map isoformat
  downloadUrls : d.downloadUrls = some [] ∨ ∃ report ∈ site.reportsOf ref.source,
    report.status = .ok ∧ d.downloadUrls = some (report.downloadUrls.getD [])
  schedule : d.schedule = none ∨ ∃ report ∈ site.reportsOf ref.source,
    report.loaded = true ∧ d.schedule.map PyValue.str = report.schedule
  attempt : d.checkedAt = none ∧ d.status = "pending" ∧ d.error = none ∨
    ∃ report ∈ site.reportsOf ref.source, d.checkedAt = some (isoformat report.now) ∧
      d.status = report.status.text ∧ d.error = report.error
  nextCheckAt : d.nextCheckAt.isSome = d.checkedAt.isSome
  changed : isChanged browser d = true → ∃ older ∈ sightings (site.reportsOf ref.source),
    ∃ newer ∈ sightings (site.reportsOf ref.source), d.lastVersion = some older.version ∧
      d.currentVersion = some newer.version ∧ older.version ≠ newer.version ∧
        Recent browser newer.seenAt

private theorem exists_sighting {reports : List (CheckReport PyValue String)}
    {present : Option String} {seenAt : Option Time} (sighted : Sighted reports present seenAt)
    {version : String} (known : present = some version) :
    ∃ sighting ∈ sightings reports, sighting.version = version ∧
      seenAt = some sighting.seenAt := by
  obtain ⟨absent, _⟩ | ⟨report, member, sighting, seen, same, time⟩ := sighted
  · rw [absent] at known
    cases known
  · exact ⟨sighting, List.mem_filterMap.mpr ⟨report, member, seen⟩,
      Option.some.inj (same.symm.trans known), time⟩

/-- The versions of a source that is marked as changed are of two sightings. -/
theorem changed_of_attested {reports : List (CheckReport PyValue String)}
    (dates : ∀ report ∈ reports, ReadsTime browser isoformat report.now)
    {state : SourceState PyValue} (attested : Attested reports state) {d : SourcePayload}
    (current : d.currentVersion = state.currentVersion)
    (currentAt : d.currentVersionAt = state.currentVersionAt.map isoformat)
    (last : d.lastVersion = state.lastVersion) (changed : isChanged browser d = true) :
    ∃ older ∈ sightings reports, ∃ newer ∈ sightings reports,
      d.lastVersion = some older.version ∧ d.currentVersion = some newer.version ∧
        older.version ≠ newer.version ∧ Recent browser newer.seenAt := by
  have read : ∀ time, state.currentVersionAt = some time → ReadsTime browser isoformat time := by
    intro time known
    obtain ⟨_, absent⟩ | ⟨report, member, sighting, seen, _, opened⟩ := attested.current
    · rw [absent] at known
      cases known
    · obtain rfl := Option.some.inj (opened.symm.trans known)
      exact CheckReport.seenAt_of_sighting seen ▸ dates report member
  obtain ⟨⟨version, isLast, _⟩, time, seenAt, recent⟩ := (isChanged_iff currentAt read).mp changed
  have known := last.symm.trans isLast
  obtain ⟨newest, isCurrent, differs⟩ := attested.rotated version known
  obtain ⟨older, before, rfl, _⟩ := exists_sighting attested.last known
  obtain ⟨newer, after, rfl, opened⟩ := exists_sighting attested.current isCurrent
  obtain rfl := Option.some.inj (seenAt.symm.trans opened)
  exact ⟨older, before, newer, after, isLast, current.trans isCurrent, differs.symm, recent⟩

/-- A status that shows a record vouches for what the payload says. -/
theorem vouches_ofStatus {complete : Catalog → Prop} {site base : Site codec}
    (sound : site.Sound complete) {ref : PluginRef} {status : SourceStatus}
    (dates : ∀ report ∈ site.reportsOf ref.source, ReadsTime browser isoformat report.now)
    (shown : Shown site base ref.source status) :
    Vouches browser isoformat site base ref (SourcePayload.ofStatus isoformat status) := by
  obtain ⟨⟨state, vouched, own⟩, next, link⟩ := shown
  generalize status.nextCheckAt = nextCheckAt at own next
  generalize status.sourceUrl = sourceUrl at own link
  subst own
  obtain ⟨repo, plugin⟩ := SourceKey.mk.inj vouched.key
  have times : (nextCheckAt.map isoformat).isSome = (state.checkedAt.map isoformat).isSome := by
    rw [Option.isSome_map, Option.isSome_map]
    exact next
  obtain attested | ⟨pluginType, now, types, _, rfl⟩ := vouched.record
  · obtain ⟨report, member, status, error, checkedAt, _⟩ := attested.attempt
    obtain ⟨typing, made, sameType⟩ := attested.pluginType
    obtain ⟨_, other, discovered, source, otherType⟩ := sound.reported made
    have keyed : other.key = ref.source.repo ++ "/" ++ ref.source.plugin := by
      rw [← source]
      rfl
    exact {
      repo := repo
      plugin := plugin
      pluginType := ⟨_, ⟨other, discovered, keyed, otherType.trans sameType.symm⟩, rfl⟩
      sourceUrl := link
      current := ⟨_, attested.current, rfl⟩
      last := ⟨_, attested.last, rfl⟩
      downloadUrls := attested.downloadUrls.imp (congrArg some) fun ⟨told, listed, ok, urls⟩ =>
        ⟨told, listed, ok, congrArg some (urls.trans (List.map_id _))⟩
      schedule := attested.schedule.imp Option.map_eq_none_iff.mp id
      attempt := .inr ⟨report, member, congrArg (Option.map isoformat) checkedAt,
        congrArg Status.text status, error⟩
      nextCheckAt := times
      changed := changed_of_attested dates attested rfl rfl rfl }
  · exact {
      repo := repo
      plugin := plugin
      pluginType := ⟨pluginType, types, rfl⟩
      sourceUrl := link
      current := ⟨none, .inl ⟨rfl, rfl⟩, rfl⟩
      last := ⟨none, .inl ⟨rfl, rfl⟩, rfl⟩
      downloadUrls := .inl rfl
      schedule := .inl rfl
      attempt := .inl ⟨rfl, rfl, rfl⟩
      nextCheckAt := times
      changed := fun changed => absurd changed Bool.false_ne_true }

variable {Thread : Type} [DecidableEq Thread]

/-- The threads of a process, and one that lists the sources for the page. -/
def listingAmong (world : World) (duties : Thread → Duty) : Option Thread → Duty
  | none => .answer world sourcesRequest
  | some thread => duties thread

/-- **The dashboard announces nothing that was not reported.** However the startup job, the
scheduler and requests interleave with the listing for a page, the page has the sources of a
catalog that was in place since the request; the versions, URLs, schedule, status and error that
it has for a source have been reported by checks of that source, its type and its link are
those of discovered plugins, and a source that it marks as changed has had two different
versions reported. -/
theorem interleaving_announced (app : App) (duties : Thread → Duty) (world : World)
    {site : Site codec} (sound : site.Sound (· ∈ site.published))
    {middle final : Pool (Site codec) fun thread => (listingAmong world duties thread).Result}
    {earlier later : List (Option (Option Thread))}
    (run : Run (Pool.Moves Passes) (Duty.launch app (listingAmong world duties) site) earlier
      middle)
    (idle : some none ∉ earlier) (goesOn : Run (Pool.Moves Passes) middle later final)
    {response : Response} (returned : final.program none = .done response)
    (listed : response.statusCode = 200)
    (dates : ∀ entry ∈ final.shared.reports, ReadsTime browser isoformat entry.2.now)
    (page : Page) (health : Answer) :
    ∃ catalog ∈ final.shared.catalogsSince middle.shared,
      List.Forall₂ (Vouches browser isoformat final.shared middle.shared) catalog.list
        (page.load browser isoformat (.response response) health).view.data := by
  have allowed := @Threaded.passes_allows codec (Duty.Complete (listingAmong world duties) site)
  obtain ⟨known, _, before, holds⟩ := Pool.interleaving_since allowed (launch_sound sound)
    (fun other => (launch_keeps other site).mono fun _ _ _ => trivial)
    (launch_keeps none) run idle goesOn returned
  have truthful : Truthful world final.shared middle.shared sourcesRequest .sources response :=
    Duty.Holds.of_later before holds .sources rfl
  have told := truthful.ok listed
  obtain ⟨soundly, _⟩ := interleaving_sound sound (run.append goesOn)
  have read : (Answer.response response).result "/api/sources" = .ok response.body :=
    if_pos (by rw [listed]; decide)
  rw [(Page.load_of_ok read browser page isoformat health).1]
  cases answered : response.body with
  | sources count statuses =>
      rw [answered] at told
      obtain ⟨_, catalog, since, shown⟩ := told
      exact ⟨catalog, since, List.forall₂_map_right_iff.mpr
        (shown.imp fun ref _ own =>
          vouches_ofStatus soundly (readsTime_of_reportsOf dates ref.source) own)⟩
  | _ =>
      rw [answered] at told
      cases told

/-- The threads of two checks and of a listing. -/
private abbrev ListingPool : Type :=
  Pool (Site plainCodec) fun thread : Option Bool =>
    (listingAmong firstStart rivalChecks thread).Result

private def passTo (now : Time) (pool : ListingPool) : ListingPool :=
  { pool with shared := { pool.shared with clock := now } }

private def listingStart : ListingPool := Duty.launch plainApp _ discoveredSite

private def onceChecked : Option ListingPool :=
  (List.replicate 9 (some false)).foldlM Pool.advance (passTo 5 listingStart)

/-- The second check has come to another version, which is not put yet. -/
private def beforeListing : Option ListingPool :=
  onceChecked.bind fun pool => (List.replicate 6 (some true)).foldlM Pool.advance (passTo 9 pool)

/-- The second check goes on between the steps of the listing. -/
private def afterListing : Option ListingPool :=
  beforeListing.bind
    ([none, some true, none, some true, none, some true, none].foldlM Pool.advance)

/-- A page that loads what the listing returned. -/
private def listedPage (response : Response) : Page :=
  Page.load epochBrowser (.opening true none) epochText (.response response) (.failed "")

private def marks (d : SourcePayload) : Option String × Option String × Bool :=
  (d.currentVersion, d.lastVersion, isChanged epochBrowser d)

/-- A listing that a check interrupts shows what the checks of the source have reported. -/
theorem interleaving_announced_whileChecked :
    ∃ (earlier : List (Option (Option Bool))) (middle final : ListingPool) (response : Response),
      Run (Pool.Moves Passes) listingStart earlier middle ∧ some none ∉ earlier ∧
      Run (Pool.Moves Passes) middle
        ([none, some true, none, some true, none, some true, none].map some) final ∧
      final.program none = .done response ∧
      (listedPage response).view.data.map marks = [(some "2024-11", some "2024-10", true)] ∧
      ∃ catalog ∈ final.shared.catalogsSince middle.shared,
        List.Forall₂ (Vouches epochBrowser epochText final.shared middle.shared) catalog.list
          (listedPage response).view.data := by
  obtain ⟨checked, once⟩ : ∃ checked, onceChecked = some checked := ⟨_, rfl⟩
  obtain ⟨middle, begun⟩ : ∃ middle, beforeListing = some middle := ⟨_, rfl⟩
  obtain ⟨final, ended⟩ : ∃ final, afterListing = some final :=
    Option.isSome_iff_exists.mp (by decide +kernel)
  have clock : onceChecked.map (fun pool => pool.shared.clock) = some 5 := rfl
  have reported : afterListing.map (fun pool => pool.shared.reports.map fun entry =>
      entry.2.now) = some [5, 9] := by decide +kernel
  have answered : (afterListing.bind fun pool => (pool.program none).result?).map
      (fun response : Response =>
        (response.statusCode, (listedPage response).view.data.map marks)) =
      some (200, [(some "2024-11", some "2024-10", true)]) := by decide +kernel
  rw [ended] at reported answered
  obtain ⟨response, returned, shows⟩ := Option.map_eq_some_iff.mp answered
  obtain ⟨ok, marked⟩ := Prod.mk.inj shows
  replace returned := Program.result?_eq_some.mp returned
  rw [once] at clock
  replace clock : checked.shared.clock = 5 := Option.some.inj clock
  rw [afterListing, begun] at ended
  rw [beforeListing, once] at begun
  have opened : Run (Pool.Moves Passes) listingStart [none] (passTo 5 listingStart) :=
    .snoc .nil (.outside ⟨5, by decide, rfl⟩)
  have passed : Pool.Moves Passes checked none (passTo 9 checked) :=
    .outside ⟨9, clock ▸ by decide, rfl⟩
  have run := ((opened.append (Pool.run_of_schedule Passes once)).snoc passed).append
    (Pool.run_of_schedule Passes begun)
  have goesOn := Pool.run_of_schedule Passes ended
  have dates : ∀ entry ∈ final.shared.reports, ReadsTime epochBrowser epochText entry.2.now := by
    intro entry member
    have time : entry.2.now ∈ [(5 : Time), 9] :=
      Option.some.inj reported ▸ List.mem_map_of_mem member
    exact readsTime_epoch time
  exact ⟨_, middle, final, response, run, by decide, goesOn, returned, marked,
    interleaving_announced plainApp rivalChecks firstStart discoveredSite_sound run (by decide)
      goesOn returned ok dates _ _⟩

end Interleaving

end BiothingsPulse.Dashboard
