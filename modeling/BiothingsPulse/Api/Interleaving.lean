import BiothingsPulse.Api.Threads
import BiothingsPulse.Service.Interleaving

/-!
# Answers while the service changes

A request is answered while a sync replaces the catalog and checks write records. What
its answer says is nevertheless so: a listing is one published catalog, never a mixture
of two or a part of one, each status is of a record whose fields were reported by checks
of that source, and a forced check answers with its own outcome.
-/

namespace BiothingsPulse

open Foundation Foundation.Threads Foundation.Transition

variable {codec : StateCodec}

/-- What a thread of the process is started for. -/
inductive Duty where
  /-- `_initial_sync`. -/
  | startup (world : World)
  /-- `RefreshScheduler._run`. -/
  | tick (world : World)
  | answer (world : World) (request : Request)

/-- A fresh deployment: nothing discovered, nothing recorded. -/
def Site.opening (settings : Settings) (clock : Time) : Site codec where
  service := { settings := settings }
  clock := clock
  published := [.empty]

private theorem Site.opening_sound (settings : Settings) (clock : Time) :
    (Site.opening settings clock : Site codec).Sound
      (· ∈ (Site.opening settings clock : Site codec).published) where
  catalog := rfl
  complete _ published := published
  reports _ listed := absurd listed List.not_mem_nil
  records source state stored := by
    have absent : (Site.opening settings clock : Site codec).service.store.get source = none := rfl
    rw [absent] at stored
    cases stored

namespace Duty

def world : Duty → World
  | .startup world | .tick world | .answer world _ => world

def Result : Duty → Type
  | .startup _ | .tick _ => Except PyExc Unit
  | .answer _ _ => Response

/-- The program of the thread. -/
def program (app : App) : (duty : Duty) → Threaded codec duty.Result
  | .startup world => Threaded.initialSync app.croniter world
  | .tick world => Threaded.scheduledRun app.croniter world
  | .answer world request => Threaded.serve app world request

/-- What the thread does when it runs alone at a given time. -/
def perform (app : App) (now : Time) :
    (duty : Duty) → PulseService codec → duty.Result × PulseService codec
  | .startup world => PulseService.initialSync app.croniter (world.at now)
  | .tick world => PulseService.scheduledRun app.croniter (world.at now)
  | .answer world request => app.serve (world.at now) now request

/-- Run alone, the steps of a duty come to the duty done in one go. -/
theorem program_does (app : App) (now : Time) (duty : Duty) :
    Threaded.Does codec now (duty.program app) (duty.perform app now) := by
  cases duty with
  | startup world => exact Threaded.initialSync_does app.croniter world
  | tick world => exact Threaded.scheduledRun_does app.croniter world
  | answer world request => exact Threaded.serve_does world app request

end Duty

/-- A status that shows a record of a source, with the link of a catalog in place since
the base. -/
structure Shown (site base : Site codec) (source : SourceKey) (status : SourceStatus) :
    Prop where
  record : ∃ state, Threaded.Vouched site source state ∧
    status = { SourceStatus.fromState state with
      nextCheckAt := status.nextCheckAt
      sourceUrl := status.sourceUrl }
  next : status.nextCheckAt.isSome = status.checkedAt.isSome
  link : ∃ catalog ∈ site.catalogsSince base, status.sourceUrl =
    (catalog.get? (source.repo ++ "/" ++ source.plugin)).bind PluginRef.sourceUrl

/-- A status that shows the outcome of a check of the plugin made since the base. -/
structure Checked (world : World) (site base : Site codec) (ref : PluginRef)
    (status : SourceStatus) : Prop where
  shown : Shown site base ref.source status
  outcome : ∃ result, (world.check ref).Admits result ∧ status.status = result.status ∧
    status.error = result.error ∧ ∃ now, status.checkedAt = some now ∧ base.clock ≤ now ∧
      now ≤ site.clock ∧ result.report ref now ∈ site.reportsOf ref.source

/-- What the payload for a source says. -/
def SourceTold (world : World) (site base : Site codec) (forced : Bool) (repo plugin : String)
    (status : SourceStatus) : Prop :=
  ∃ catalog ∈ site.catalogsSince base, ∃ ref,
    catalog.get? (repo ++ "/" ++ plugin) = some ref ∧
      if forced then Checked world site base ref status else Shown site base ⟨repo, plugin⟩ status

/-- What the body of a successful answer says of the service since the base. -/
def Told (world : World) (site base : Site codec) (forced : Bool) : Route → Body → Prop
  | .health, .health _ size _ => ∃ catalog ∈ site.catalogsSince base, size = catalog.refs.length
  | .sources, .sources count statuses => count = statuses.length ∧
      ∃ catalog ∈ site.catalogsSince base,
        List.Forall₂ (fun ref status => Shown site base ref.source status) catalog.list statuses
  | .catalog, .catalog count items => count = items.length ∧
      ∃ catalog ∈ site.catalogsSince base, items = catalog.list.map fun ref =>
        { repo := ref.repo, plugin := ref.name, pluginType := ref.pluginType,
          sourceUrl := ref.sourceUrl }
  | .source repo plugin, .source status => SourceTold world site base forced repo plugin status
  | .check repo plugin, .source status => SourceTold world site base true repo plugin status
  | .adminSync, .message _ (some count) | .adminRefresh, .message _ (some count) =>
      ∃ catalog ∈ site.catalogsSince base, count = catalog.refs.length
  | _, _ => False

/-- What an answer that a source is unknown says. -/
def Missing (site base : Site codec) : Route → Prop
  | .source repo plugin | .check repo plugin =>
      ∃ catalog ∈ site.catalogsSince base, catalog.get? (repo ++ "/" ++ plugin) = none
  | _ => False

/-- What the answer to a request for a route says is so. -/
structure Truthful (world : World) (site base : Site codec) (request : Request) (route : Route)
    (response : Response) : Prop where
  ok : response.statusCode = 200 →
    Told world site base (request.refresh = some true) route response.body
  notFound : response.statusCode = 404 → Missing site base route

section Stable

variable {world : World} {site after base : Site codec}

private theorem Shown.of_later {source : SourceKey} {status : SourceStatus}
    (shown : Shown site base source status) (later : site.Later after) :
    Shown after base source status := by
  obtain ⟨⟨state, vouched, own⟩, next, catalog, since, link⟩ := shown
  exact ⟨⟨state, vouched.of_later later, own⟩, next, catalog, later.catalogsSince base since, link⟩

private theorem SourceTold.of_later {forced : Bool} {repo plugin : String} {status : SourceStatus}
    (told : SourceTold world site base forced repo plugin status) (later : site.Later after) :
    SourceTold world after base forced repo plugin status := by
  obtain ⟨catalog, since, ref, got, own⟩ := told
  refine ⟨catalog, later.catalogsSince base since, ref, got, ?_⟩
  cases forced with
  | false => exact Shown.of_later own later
  | true =>
      obtain ⟨shown, result, admitted, status, error, now, checked, started, come, listed⟩ :=
        (show Checked world site base ref _ from own)
      exact ⟨shown.of_later later, result, admitted, status, error, now, checked, started,
        Int.le_trans come later.clock, later.reportsOf _ listed⟩

private theorem Missing.of_later {route : Route} (missing : Missing site base route)
    (later : site.Later after) : Missing after base route := by
  cases route with
  | source repo plugin | check repo plugin =>
      obtain ⟨catalog, since, absent⟩ := missing
      exact ⟨catalog, later.catalogsSince base since, absent⟩
  | _ => exact missing

private theorem Told.of_later {forced : Bool} {route : Route} {body : Body}
    (told : Told world site base forced route body) (later : site.Later after) :
    Told world after base forced route body := by
  have kept {described : Catalog → Prop}
      (known : ∃ catalog ∈ site.catalogsSince base, described catalog) :
      ∃ catalog ∈ after.catalogsSince base, described catalog := by
    obtain ⟨catalog, since, own⟩ := known
    exact ⟨catalog, later.catalogsSince base since, own⟩
  cases route with
  | health =>
      cases body with
      | health version size enabled => exact kept told
      | _ => exact told
  | sources =>
      cases body with
      | sources count statuses =>
          obtain ⟨counted, catalog, since, listed⟩ := told
          exact ⟨counted, catalog, later.catalogsSince base since,
            listed.imp fun _ _ shown => shown.of_later later⟩
      | _ => exact told
  | catalog =>
      cases body with
      | catalog count items => exact told.imp_right kept
      | _ => exact told
  | source repo plugin | check repo plugin =>
      cases body with
      | source status => exact SourceTold.of_later told later
      | _ => exact told
  | adminSync | adminRefresh =>
      cases body with
      | message text count =>
          cases count with
          | none => exact told
          | some count => exact kept told
      | _ => exact told

private theorem Truthful.of_later {request : Request} {route : Route} {response : Response}
    (truthful : Truthful world site base request route response) (later : site.Later after) :
    Truthful world after base request route response :=
  ⟨fun ok => (truthful.ok ok).of_later later, fun missing =>
    (truthful.notFound missing).of_later later⟩

end Stable

namespace Threaded

open Site (discipline)

variable {complete : Catalog → Prop} {known base : Site codec} (croniter : Croniter)

/-- A validated record is the record it was validated from. -/
theorem untyped_of_typed? {state : SourceState PyValue} {typed : SourceState String}
    (valid : state.typed? = some typed) : typed.untyped = state := by
  have wellTyped : PyValue.optionalStr state.schedule = true := by
    unfold SourceState.typed? at valid
    split at valid
    · simp [*, PyValue.optionalStr]
    · simp [*, PyValue.optionalStr]
    · cases valid
  obtain ⟨other, rfl⟩ := SourceState.exists_untyped wellTyped
  rw [SourceState.typed?_untyped] at valid
  rw [Option.some.inj valid]

/-- The link of a record's source is that of a catalog in place meanwhile. -/
theorem link_keeps (later : base.Later known) {source : SourceKey} {state : SourceState String}
    (vouched : Vouched known source state) (status : SourceStatus)
    (own : status = { SourceStatus.fromState state with nextCheckAt := status.nextCheckAt })
    (next : status.nextCheckAt.isSome = state.checkedAt.isSome) :
    (discipline complete).Keeps
      (Discipline.Returns (ε := PyExc) fun status site => Shown site base source status ∧
        status.status = state.status ∧ status.error = state.error ∧
        status.checkedAt = state.checkedAt)
      ((getRef state.repo state.plugin).map fun ref =>
        .ok { status with sourceUrl := ref.bind PluginRef.sourceUrl }) known := by
  refine Discipline.Keeps.map (((getRef_keeps later state.repo state.plugin).since
    (Site.Later.refl known)).mono ?_)
  rintro found site ⟨follows, catalog, since, rfl⟩
  rw [own]
  obtain rfl := vouched.key
  exact ⟨⟨⟨state, vouched.of_later follows, rfl⟩, next, catalog, since, rfl⟩, rfl, rfl, rfl⟩

/-- The answer for a record is that record, with the link of the catalog that is then
in place. -/
theorem status_keeps (later : base.Later known) {state : SourceState PyValue} {source : SourceKey}
    (vouched : ∀ typed, state.typed? = some typed → Vouched known source typed) :
    (discipline complete).Keeps
      (Discipline.Returns fun status site => Shown site base source status ∧
        status.status = state.status ∧ status.error = state.error ∧
        status.checkedAt = state.checkedAt)
      (status croniter state) known := by
  unfold status
  cases valid : state.typed? with
  | none => trivial
  | some typed =>
      have own := vouched typed valid
      obtain rfl := untyped_of_typed? valid
      dsimp only
      cases checked : typed.checkedAt with
      | none => exact link_keeps later own _ rfl (by rw [checked]; rfl)
      | some last =>
          have read : (discipline complete).Keeps
              (Discipline.Returns fun _ site => known.Later site)
              (Program.read fun site => croniter.nextCheckAt typed.schedule (some last)
                site.service.settings.schedulerInterval site.clock) known := by
            refine Discipline.Keeps.read fun site after _ => ?_
            cases croniter.nextCheckAt _ _ _ _ with
            | error exc => trivial
            | ok next => exact after
          refine read.andThen ?_
          intro next site _ after
          exact link_keeps (later.trans after) (own.of_later after)
            { SourceStatus.fromState typed with nextCheckAt := some next } rfl
            (by rw [checked]; rfl)

/-- Every discovered source is listed with its record. -/
theorem listSources_keeps (later : base.Later known) :
    (discipline complete).Keeps
      (Discipline.Returns fun statuses site => ∃ catalog ∈ site.catalogsSince base,
        List.Forall₂ (fun ref status => Shown site base ref.source status) catalog.list statuses)
      (listSources croniter) known := by
  refine (listCatalog_keeps later).bind ?_
  rintro refs site after ⟨catalog, since, rfl⟩
  have shown (ref : PluginRef) (member : ref ∈ catalog.list) (state : Site codec)
      (follows : site.Later state) :
      (discipline complete).Keeps
        (Discipline.Returns fun status site => Shown site base ref.source status)
        ((cachedState ref.repo ref.name ref.pluginType).bind fun found =>
          status croniter found.untyped) state := by
    have types : site.Types ⟨ref.repo, ref.name⟩ ref.pluginType :=
      ⟨ref, ⟨catalog, Site.catalogsSince_subset _ _ since,
        catalog.list_perm.mem_iff.mp member⟩, rfl, rfl⟩
    refine (cachedState_keeps ref.repo ref.name (follows.types types)).bind ?_
    intro found next goesOn vouched
    have own : ∀ typed, found.untyped.typed? = some typed → Vouched next ref.source typed := by
      intro typed valid
      rw [SourceState.typed?_untyped] at valid
      exact Option.some.inj valid ▸ vouched
    have since := later.trans (after.trans (follows.trans goesOn))
    refine (status_keeps croniter since own).mono ?_
    rintro (_ | status) last
    · exact id
    · exact And.left
  have collected : (discipline complete).Keeps
      (Discipline.Returns fun statuses state =>
        List.Forall₂ (fun ref status => Shown state base ref.source status) catalog.list statuses)
      (Program.collect _ catalog.list) site :=
    Discipline.Keeps.collect (fun _ _ _ _ follows shown => shown.of_later follows)
      shown
  refine (collected.since (Site.Later.refl site)).mono ?_
  rintro (_ | statuses) last ⟨follows, shown⟩
  · trivial
  · exact ⟨catalog, follows.catalogsSince base since, shown⟩

/-- What a handler's outcome says, as a body or as an unknown source. -/
def Outcome (told : Body → Prop) (missing : Prop) : Except RouteExc Body → Prop
  | .ok body => told body
  | .error (.http statusCode _ _) => statusCode = 404 ∧ missing
  | .error (.unhandled _) => True

/-- The answer for a record, in the cached and in the forced case. -/
theorem answerSource_keeps (later : base.Later known) (source : SourceKey) (repo plugin : String)
    {found : Option (SourceState PyValue)} {told : SourceStatus → Site codec → Prop}
    {missing : Site codec → Prop} (absent : found = none → missing known)
    (vouched : ∀ state ∈ found, ∀ typed, state.typed? = some typed → Vouched known source typed)
    (tells : ∀ state ∈ found, ∀ status site, known.Later site → Shown site base source status →
      status.status = state.status → status.error = state.error →
      status.checkedAt = state.checkedAt → told status site) :
    (discipline complete).Keeps
      (fun outcome site => Outcome (fun body => ∃ status, body = .source status ∧ told status site)
        (missing site) outcome)
      (answerSource croniter repo plugin found) known := by
  cases found with
  | none => exact ⟨rfl, absent rfl⟩
  | some state =>
      have answered : (discipline complete).Keeps _ _ _ :=
        (status_keeps croniter later (vouched state rfl)).since (Site.Later.refl known)
      refine Discipline.Keeps.map (answered.mono ?_)
      rintro (_ | status) site ⟨follows, shown⟩
      · trivial
      · exact ⟨status, rfl, tells state rfl status site follows shown.1 shown.2.1 shown.2.2.1
          shown.2.2.2⟩

/-- What the outcome of a source handler says. -/
def SourceOutcome (world : World) (site base : Site codec) (forced : Bool) (repo plugin : String) :
    Except RouteExc Body → Prop :=
  Outcome (fun body => ∃ status, body = .source status ∧
    SourceTold world site base forced repo plugin status) (Missing site base (.source repo plugin))

private theorem cachedSource_keeps (later : base.Later known) (world : World)
    (repo plugin : String) : (discipline complete).Keeps
      (fun outcome site => SourceOutcome world site base false repo plugin outcome)
      (cachedSource croniter repo plugin) known := by
  refine (getStatus_keeps later repo plugin).bind ?_
  rintro found site after ⟨catalog, since, present, vouched⟩
  refine answerSource_keeps croniter (later.trans after) ⟨repo, plugin⟩ repo plugin ?_ ?_ ?_
  · intro absent
    rw [Option.map_eq_none_iff.mp absent, Option.isSome_none, eq_comm] at present
    exact ⟨catalog, since, Option.not_isSome_iff_eq_none.mp (by rw [present]; exact nofun)⟩
  · intro state shown typed valid
    obtain ⟨own, isFound, rfl⟩ := Option.map_eq_some_iff.mp shown
    rw [SourceState.typed?_untyped] at valid
    exact Option.some.inj valid ▸ vouched own isFound
  · intro state shown status last follows shows _ _ _
    obtain ⟨own, isFound, rfl⟩ := Option.map_eq_some_iff.mp shown
    rw [isFound, Option.isSome_some] at present
    obtain ⟨ref, got⟩ := Option.isSome_iff_exists.mp present.symm
    exact ⟨catalog, follows.catalogsSince base since, ref, got, shows⟩

private theorem forcedSource_keeps (later : base.Later known) (world : World)
    (repo plugin : String) : (discipline complete).Keeps
      (fun outcome site => SourceOutcome world site base true repo plugin outcome)
      (forcedSource croniter world repo plugin) known := by
  refine (checkSource_keeps world later repo plugin).bind ?_
  rintro (exc | found) site after forced
  · trivial
  · cases found with
    | none => exact ⟨rfl, forced⟩
    | some state =>
        obtain ⟨catalog, since, ref, got, result, admitted, recorded⟩ := forced
        refine answerSource_keeps croniter (later.trans after) ref.source repo plugin nofun ?_ ?_
        · rintro own isState typed valid
          obtain rfl := Option.mem_some_iff.mp isState
          obtain rfl := untyped_of_typed? valid
          exact ⟨recorded.source, .inl recorded.attested⟩
        · intro own isState status last follows shows sameStatus sameError sameTime
          obtain rfl := Option.mem_some_iff.mp isState
          have recorded := recorded.of_later follows
          refine ⟨catalog, follows.catalogsSince base since, ref, got, shows, result, admitted, ?_⟩
          rw [sameStatus, sameError, sameTime]
          exact ⟨recorded.status, recorded.error, recorded.checkedAt⟩

private theorem SourceOutcome.outcome {world : World} {site base : Site codec} {forced : Bool}
    {repo plugin : String} {told : Body → Prop} {missing : Prop} {outcome : Except RouteExc Body}
    (described : SourceOutcome world site base forced repo plugin outcome)
    (tells : ∀ status, SourceTold world site base forced repo plugin status →
      told (.source status))
    (misses : Missing site base (.source repo plugin) → missing) :
    Outcome told missing outcome := by
  rcases outcome with (_ | _) | body
  · exact described.imp_right misses
  · trivial
  · obtain ⟨status, rfl, own⟩ := described
    exact tells status own

/-- The admin operations answer with the size of a catalog in place meanwhile. -/
theorem answerCount_keeps {operation : Threaded codec (Except PyExc Nat)} {route : Route}
    (admin : route = .adminSync ∨ route = .adminRefresh) (world : World) (forced : Bool)
    (message : String)
    (keeps : (discipline complete).Keeps
      (Discipline.Returns fun count site =>
        ∃ catalog ∈ site.catalogsSince base, count = catalog.refs.length)
      operation known) :
    (discipline complete).Keeps
      (fun outcome site => Outcome (Told world site base forced route) (Missing site base route)
        outcome)
      (answerCount message operation) known := by
  refine Discipline.Keeps.map (keeps.mono ?_)
  rintro (exc | count) site counted
  · trivial
  · obtain rfl | rfl := admin <;> exact counted

/-- What the guard raises is an answer of its own. -/
theorem verifyAdmin_statusCode {settings : Settings} {request : Request} {exc : RouteExc}
    (refused : verifyAdmin settings request = .error exc) :
    (respond (.error exc)).statusCode ∈ [401, 403, 500] := by
  unfold verifyAdmin at refused
  split at refused
  · cases refused; decide
  · split at refused
    · cases refused; decide
    · split at refused
      · cases refused; decide
      · split at refused
        · cases refused; decide
        · split at refused
          · cases refused
            exact List.mem_of_elem_eq_true rfl
          · cases refused; decide
          · cases refused

private theorem truthful_respond {world : World} {site : Site codec} {request : Request}
    {route : Route} {outcome : Except RouteExc Body}
    (told : Outcome (Told world site base (request.refresh = some true) route)
      (Missing site base route) outcome) :
    Truthful world site base request route (respond outcome) := by
  cases outcome with
  | ok body => exact ⟨fun _ => told, nofun⟩
  | error exc =>
      cases exc with
      | http statusCode detail headers =>
          obtain ⟨rfl, missing⟩ := told
          exact ⟨nofun, fun _ => missing⟩
      | unhandled exc => exact ⟨nofun, nofun⟩

private theorem guarded_keeps {world : World} {request : Request} {route : Route}
    {operation : Threaded codec (Except RouteExc Body)}
    (keeps : ∀ state, known.Later state → (discipline complete).Keeps
      (fun outcome site => Outcome (Told world site base (request.refresh = some true) route)
        (Missing site base route) outcome)
      operation state) :
    (discipline complete).Keeps
      (fun response site => Truthful world site base request route response)
      (guarded request operation) known := by
  refine settings_keeps.bind ?_
  rintro settings site - ⟨-, after⟩
  cases verified : verifyAdmin settings request with
  | error exc =>
      have code := verifyAdmin_statusCode verified
      refine ⟨fun ok => ?_, fun missing => ?_⟩
      · rw [ok] at code
        cases List.elem_eq_true_of_mem code
      · rw [missing] at code
        cases List.elem_eq_true_of_mem code
  | ok _ => exact Discipline.Keeps.map ((keeps site after).mono fun _ _ => truthful_respond)

variable (app : App) (world : World) (request : Request)

private theorem run_keeps (later : base.Later known) (route : Route)
    (rebuilt : ∀ catalog, PulseService.rebuild world = .ok catalog → complete catalog) :
    (discipline complete).Keeps
      (fun response site => Truthful world site base request route response)
      (run app world request route) known := by
  cases route with
  | health =>
      refine Discipline.Keeps.map (Discipline.Keeps.read fun site after sound => ?_)
      refine ⟨fun _ => ?_, nofun⟩
      exact ⟨_, sound.catalog_mem (later.trans after), site.service.catalog.list_perm.length_eq⟩
  | sources =>
      refine Discipline.Keeps.map
        (Discipline.Keeps.map ((listSources_keeps app.croniter later).mono ?_))
      rintro (exc | statuses) site listed
      · exact ⟨nofun, nofun⟩
      · exact ⟨fun _ => ⟨rfl, listed⟩, nofun⟩
  | catalog =>
      refine Discipline.Keeps.map (Discipline.Keeps.read fun site after sound => ?_)
      refine ⟨fun _ => ⟨rfl, ?_⟩, nofun⟩
      exact ⟨_, sound.catalog_mem (later.trans after), rfl⟩
  | source repo plugin =>
      unfold run
      dsimp only
      cases asked : request.refresh with
      | none => exact ⟨nofun, nofun⟩
      | some forced =>
          cases forced with
          | false =>
              refine Discipline.Keeps.map
                ((cachedSource_keeps app.croniter later world repo plugin).mono ?_)
              intro outcome site described
              refine truthful_respond (described.outcome (fun status own => ?_) id)
              rw [asked]
              exact own
          | true =>
              refine guarded_keeps fun state after => ?_
              refine (forcedSource_keeps app.croniter (later.trans after) world repo plugin).mono ?_
              intro outcome site described
              refine described.outcome (fun status own => ?_) id
              rw [asked]
              exact own
  | check repo plugin =>
      refine guarded_keeps fun state after => ?_
      refine (forcedSource_keeps app.croniter (later.trans after) world repo plugin).mono ?_
      intro outcome site described
      exact described.outcome (fun status own => own) id
  | adminSync =>
      refine guarded_keeps fun state after => ?_
      exact answerCount_keeps (.inl rfl) world _ _
        (syncAndDiscover_keeps world (later.trans after) rebuilt)
  | adminRefresh =>
      refine guarded_keeps fun state after => ?_
      exact answerCount_keeps (.inr rfl) world _ _ (refreshAll_keeps world (later.trans after))

private theorem serve_keeps (later : base.Later known)
    (rebuilt : ∀ catalog, PulseService.rebuild world = .ok catalog → complete catalog) :
    (discipline complete).Keeps
      (fun response site => ∀ route, Route.ofPath request.path = some route →
        Truthful world site base request route response)
      (serve app world request) known := by
  unfold serve
  cases routed : Route.ofPath request.path with
  | none => exact nofun
  | some route =>
      dsimp only
      by_cases allowed : request.method = route.method
      · rw [if_pos allowed]
        refine (run_keeps app world request later route rebuilt).mono ?_
        intro response site truthful other same
        exact Option.some.inj same ▸ truthful
      · rw [if_neg allowed]
        exact fun _ _ => ⟨nofun, nofun⟩

end Threaded

/-- A background job raises only what is no `Exception`. -/
theorem swallowed_error {α : Type} {result : Except PyExc α} {exc : PyExc}
    (raised : swallowed result = .error exc) : exc.isException = false := by
  cases result with
  | ok value => cases raised
  | error cause =>
      by_cases caught : cause.isException = true
      · rw [swallowed, if_pos caught] at raised
        cases raised
      · rw [swallowed, if_neg caught] at raised
        exact Except.error.inj raised ▸ Bool.eq_false_of_not_eq_true caught

namespace Duty

/-- What is so when a thread has returned: an answer is truthful, and a background job
has let no `Exception` out. -/
def Holds (site base : Site codec) : (duty : Duty) → duty.Result → Prop
  | .startup _, result | .tick _, result => ∀ exc, result = .error exc → exc.isException = false
  | .answer world request, response => ∀ route, Route.ofPath request.path = some route →
      Truthful world site base request route response

/-- What holds of the answer of a duty goes on to hold. -/
theorem Holds.of_later {site after base : Site codec} (later : site.Later after) :
    {duty : Duty} → {result : duty.Result} → duty.Holds site base result →
      duty.Holds after base result
  | .startup _, _, contained | .tick _, _, contained => contained
  | .answer _ _, _, truthful => fun route routed => (truthful route routed).of_later later

private theorem program_keeps {complete : Catalog → Prop} (app : App) (duty : Duty)
    (rebuilt : ∀ catalog, PulseService.rebuild duty.world = .ok catalog → complete catalog)
    (base : Site codec) :
    (Site.discipline complete).Keeps (fun result site => duty.Holds site base result)
      (duty.program app) base := by
  cases duty with
  | startup world =>
      refine (Threaded.syncAndDiscover_keeps world (Site.Later.refl base) rebuilt).bind ?_
      rintro (exc | count) site _ _
      · exact fun _ => swallowed_error
      · exact Discipline.Keeps.map ((Threaded.runDueChecks_keeps world app.croniter).mono
          fun _ _ _ _ => swallowed_error)
  | tick world =>
      exact Discipline.Keeps.map ((Threaded.runDueChecks_keeps world app.croniter).mono
        fun _ _ _ _ => swallowed_error)
  | answer world request =>
      exact Threaded.serve_keeps app world request (Site.Later.refl base) rebuilt

variable {Thread : Type} (app : App) (duties : Thread → Duty)

/-- The threads at their start. -/
def launch (site : Site codec) : Pool (Site codec) fun thread => (duties thread).Result where
  shared := site
  program thread := (duties thread).program app

/-- A catalog that was published before, or that one thread's discovery comes to. -/
def Complete (site : Site codec) (catalog : Catalog) : Prop :=
  catalog ∈ site.published ∨ ∃ thread, PulseService.rebuild (duties thread).world = .ok catalog

end Duty

section Runs

open Site (discipline)

variable {Thread : Type} [DecidableEq Thread] {app : App} {duties : Thread → Duty}
  {site : Site codec} {middle final : Pool (Site codec) fun thread => (duties thread).Result}
  {earlier later movers : List (Option Thread)}

omit [DecidableEq Thread] in
/-- The processes start on a site that vouches for its store. -/
theorem launch_sound (sound : site.Sound (· ∈ site.published)) :
    (Duty.launch app duties site).shared.Sound (Duty.Complete duties site) :=
  { sound with complete := fun _ published => .inl published }

omit [DecidableEq Thread] in
/-- Every thread keeps what the site vouches for and ends with a result that holds. -/
theorem launch_keeps (thread : Thread) (base : Site codec) :
    (discipline (Duty.Complete duties site)).Keeps
      (fun result state => (duties thread).Holds state base result)
      ((Duty.launch app duties site).program thread) base :=
  (duties thread).program_keeps app (fun _ rebuilt => .inr ⟨thread, rebuilt⟩) base

/-- What every interleaving keeps. -/
theorem interleaving_sound (sound : site.Sound (· ∈ site.published))
    (run : Run (Pool.Moves Passes) (Duty.launch app duties site) movers final) :
    final.shared.Sound (Duty.Complete duties site) ∧ site.Later final.shared := by
  have allowed := @Threaded.passes_allows codec (Duty.Complete duties site)
  obtain ⟨holds, since, _⟩ := Pool.interleaving allowed (launch_sound sound)
    (fun thread => launch_keeps thread site) run
  exact ⟨holds, since⟩

/-- **Records are attested in every interleaving.** However the startup job, the
scheduler and the requests interleave, each record that can be read is of a discovered
source; its versions, its URLs and its schedule were all reported by checks of that
source, its status, its error and its time by one of them, and none of them at a time
that has not come; and its last version is not its current one. -/
theorem interleaving_attests (sound : site.Sound (· ∈ site.published))
    (run : Run (Pool.Moves Passes) (Duty.launch app duties site) movers final)
    (source : SourceKey) (state : SourceState String)
    (stored : final.shared.service.store.get source = some state) :
    Attested (final.shared.reportsOf source) state.untyped ∧
      (∀ report ∈ final.shared.reportsOf source, report.now ≤ final.shared.clock) ∧
      ∃ ref, final.shared.Discovered ref ∧ ref.source = source := by
  obtain ⟨holds, _⟩ := interleaving_sound sound run
  have attested := holds.records source state stored
  obtain ⟨report, member, _⟩ := attested.attempt
  obtain ⟨_, ref, discovered, own, _⟩ := holds.reported member
  exact ⟨attested, fun report member => (holds.reported member).1, ref, discovered, own⟩

/-- An application whose framework knows no other paths. -/
def plainApp : App where
  croniter := neverCron
  version := "0.1.0"
  unrouted _ := { statusCode := 404, body := .framework }

/-- A deployment that has discovered one source, and an admin who has it checked. -/
def discoveredSite : Site plainCodec where
  service := { settings := {}, catalog := Catalog.empty.insert newSource }
  clock := 3
  published := [Catalog.empty.insert newSource]

def checkRequest : Request :=
  ⟨"POST", ["sources", "hub", "clinvar", "check"], [], [("X-Admin-Token", "changeme")]⟩

def checkDuty : Duty := .answer firstStart checkRequest

/-- A site that has discovered its sources and has no reports vouches for its store. -/
theorem discoveredSite_sound : discoveredSite.Sound (· ∈ discoveredSite.published) where
  catalog := rfl
  complete _ published := published
  reports _ listed := absurd listed List.not_mem_nil
  records source state stored := by
    have absent : discoveredSite.service.store.get source = none := rfl
    rw [absent] at stored
    cases stored

/-- What is found once the source has been released again. -/
def nextRelease : World :=
  { firstStart with
    check := fun _ => .returned { status := .ok, latestVersion := some "2024-11" } }

/-- The steps of two threads in turns. -/
private def alternately (count : Nat) : List Bool := (List.replicate count [false, true]).flatten

/-- A source is checked twice at once, by one of the checks after a release. -/
def rivalChecks (second : Bool) : Duty :=
  if second then .answer nextRelease checkRequest else checkDuty

private def afterRivalChecks :
    Option (Pool (Site plainCodec) fun second => (rivalChecks second).Result) :=
  (alternately 9).foldlM Pool.advance (Duty.launch plainApp rivalChecks discoveredSite)

/-- Step by step, the second check overwrites the record of the first: what is stored tells
of one version only, and a check has reported it. -/
theorem interleaving_attests_check :
    ∃ final : Pool (Site plainCodec) fun second => (rivalChecks second).Result,
      Run (Pool.Moves Passes) (Duty.launch plainApp rivalChecks discoveredSite)
        ((alternately 9).map some) final ∧
      (final.shared.reportsOf newSource.source).map CheckReport.detectedVersion =
        [some "2024-10", some "2024-11"] ∧
      ∃ state, final.shared.service.store.get newSource.source = some state ∧
        state.currentVersion = some "2024-11" ∧ state.lastVersion = none ∧
        Attested (final.shared.reportsOf newSource.source) state.untyped := by
  obtain ⟨final, computed⟩ : ∃ final, afterRivalChecks = some final := ⟨_, rfl⟩
  have run := Pool.run_of_schedule Passes computed
  have versions : afterRivalChecks.bind (fun final =>
      (final.shared.service.store.get newSource.source).map fun state =>
        (state.currentVersion, state.lastVersion)) = some (some "2024-11", none) := rfl
  have reports : afterRivalChecks.map (fun final =>
      (final.shared.reportsOf newSource.source).map CheckReport.detectedVersion) =
        some [some "2024-10", some "2024-11"] := rfl
  rw [computed] at versions reports
  obtain ⟨state, stored, found⟩ := Option.map_eq_some_iff.mp versions
  obtain ⟨current, last⟩ := Prod.mk.inj found
  exact ⟨final, run, Option.some.inj reports, state, stored, current, last,
    (interleaving_attests discoveredSite_sound run _ state stored).1⟩

/-- **Catalogs are never partial.** In every interleaving the catalog in place is one
that was there at the start or the complete result of one thread's discovery. -/
theorem interleaving_catalog (sound : site.Sound (· ∈ site.published))
    (run : Run (Pool.Moves Passes) (Duty.launch app duties site) movers final) :
    final.shared.service.catalog ∈ site.published ∨
      ∃ thread, PulseService.rebuild (duties thread).world = .ok final.shared.service.catalog := by
  obtain ⟨holds, _⟩ := interleaving_sound sound run
  exact holds.complete _ (List.mem_of_getLast? holds.catalog)

def syncRequest : Request :=
  ⟨"POST", ["admin", "sync"], [], [("X-Admin-Token", "changeme")]⟩

def syncDuty : Duty := .answer firstStart syncRequest

/-- Two syncs at once, one of them after another plugin was added to the repository. -/
private def rivalSyncs (second : Bool) : Duty :=
  if second then
    .answer
      { firstStart with
        discoverPlugins := fun _ _ _ => .ok [newSource, { newSource with name := "dbsnp" }] }
      syncRequest
  else syncDuty

private def afterRivalSyncs :
    Option (Pool (Site plainCodec) fun second => (rivalSyncs second).Result) :=
  (alternately 3).foldlM Pool.advance (Duty.launch plainApp rivalSyncs (Site.opening {} 3))

/-- Two syncs take turns step by step, and each catalog is published in one piece. -/
theorem interleaving_catalog_sync :
    ∃ final : Pool (Site plainCodec) fun second => (rivalSyncs second).Result,
      Run (Pool.Moves Passes) (Duty.launch plainApp rivalSyncs (Site.opening {} 3))
        ((alternately 3).map some) final ∧
      final.shared.published.map (fun catalog => catalog.refs.map PluginRef.name) =
        [[], ["clinvar"], ["clinvar", "dbsnp"]] ∧
      (final.shared.service.catalog ∈ (Site.opening {} 3 : Site plainCodec).published ∨
        ∃ second, PulseService.rebuild (rivalSyncs second).world =
          .ok final.shared.service.catalog) := by
  obtain ⟨final, computed⟩ : ∃ final, afterRivalSyncs = some final := ⟨_, rfl⟩
  have run := Pool.run_of_schedule Passes computed
  have published : afterRivalSyncs.map (fun final => final.shared.published.map fun catalog =>
      catalog.refs.map PluginRef.name) = some [[], ["clinvar"], ["clinvar", "dbsnp"]] := rfl
  rw [computed] at published
  exact ⟨final, run, Option.some.inj published,
    interleaving_catalog (Site.opening_sound {} 3) run⟩

/-- **Answers are truthful in every interleaving.** What a thread returns that had not
moved when the service stood at `middle` is so of the service between then and its
return. -/
theorem interleaving_answers (sound : site.Sound (· ∈ site.published))
    (run : Run (Pool.Moves Passes) (Duty.launch app duties site) earlier middle) {thread : Thread}
    (idle : some thread ∉ earlier) (goesOn : Run (Pool.Moves Passes) middle later final)
    (result : (duties thread).Result) (returned : final.program thread = .done result) :
    (duties thread).Holds final.shared middle.shared result := by
  have allowed := @Threaded.passes_allows codec (Duty.Complete duties site)
  obtain ⟨known, _, before, holds⟩ := Pool.interleaving_since allowed (launch_sound sound)
    (fun other => (launch_keeps other site).mono fun _ _ _ => trivial)
    (launch_keeps thread) run idle goesOn returned
  exact holds.of_later before

/-- One thread checks a source and another reads it. -/
private def checkThenRead (second : Bool) : Duty :=
  if second then .answer firstStart ⟨"GET", ["sources", "hub", "clinvar"], [], []⟩ else checkDuty

private def whileChecked : Option (Pool (Site plainCodec) fun second =>
    (checkThenRead second).Result) :=
  (List.replicate 6 false).foldlM Pool.advance
    (Duty.launch plainApp checkThenRead discoveredSite)

private def afterChecked : Option (Pool (Site plainCodec) fun second =>
    (checkThenRead second).Result) :=
  whileChecked.bind ([true, false, true, false, true, false, true].foldlM Pool.advance)

/-- A request that comes while a check goes on shows the record that the check writes
before the answer is made. -/
theorem interleaving_answers_check :
    ∃ (middle final : Pool (Site plainCodec) fun second => (checkThenRead second).Result)
      (response : Response),
      Run (Pool.Moves Passes) (Duty.launch plainApp checkThenRead discoveredSite)
        ((List.replicate 6 false).map some) middle ∧
      middle.shared.service.store.get newSource.source = none ∧
      Run (Pool.Moves Passes) middle
        ([true, false, true, false, true, false, true].map some) final ∧
      final.program true = .done response ∧ response.statusCode = 200 ∧
      (∃ status, response.body = .source status ∧ status.currentVersion = some "2024-10") ∧
      (checkThenRead true).Holds final.shared middle.shared response := by
  obtain ⟨middle, started⟩ : ∃ middle, whileChecked = some middle := ⟨_, rfl⟩
  obtain ⟨final, ended⟩ : ∃ final, afterChecked = some final := ⟨_, rfl⟩
  obtain ⟨response, answered, ok, shows⟩ : ∃ response : Response,
      afterChecked.map (fun final => final.program true) = some (.done response) ∧
      response.statusCode = 200 ∧
      ∃ status, response.body = .source status ∧ status.currentVersion = some "2024-10" :=
    ⟨_, rfl, rfl, _, rfl, rfl⟩
  have absent : whileChecked.map (fun middle =>
      middle.shared.service.store.get newSource.source) = some none := rfl
  rw [started] at absent
  have before := Pool.run_of_schedule Passes started
  rw [ended] at answered
  rw [afterChecked, started] at ended
  have after := Pool.run_of_schedule Passes ended
  have returned := Option.some.inj answered
  exact ⟨middle, final, response, before, Option.some.inj absent, after, returned, ok, shows,
    interleaving_answers discoveredSite_sound before (by decide) after _ returned⟩

end Runs

section Turns

variable {Thread : Type} (app : App) (duties : Thread → Duty)

/-- The service after the threads have taken turns, each at its time. -/
def Duty.performAll (turns : List (Thread × Time)) (service : PulseService codec) :
    PulseService codec :=
  turns.foldl (fun service turn => ((duties turn.1).perform app turn.2 service).2) service

/-- The threads of the turns have returned what they do in their turns. -/
def Duty.Returned (program : (thread : Thread) → Threaded codec (duties thread).Result) :
    List (Thread × Time) → PulseService codec → Prop
  | [], _ => True
  | (thread, now) :: rest, service =>
      program thread = .done ((duties thread).perform app now service).1 ∧
        Returned program rest ((duties thread).perform app now service).2

variable [DecidableEq Thread]

/-- **Turns are interleavings.** What jobs and requests do one after the other, at times
that do not go back, is what their threads do in some interleaving. -/
theorem interleaving_of_turns (turns : List (Thread × Time))
    (start : Pool (Site codec) fun thread => (duties thread).Result)
    (unstarted : ∀ turn ∈ turns, start.program turn.1 = (duties turn.1).program app)
    (distinct : (turns.map Prod.fst).Nodup)
    (forward : (start.shared.clock :: turns.map Prod.snd).Pairwise (· ≤ ·)) :
    ∃ movers final, Run (Pool.Moves Passes) start movers final ∧
      final.shared.service = Duty.performAll app duties turns start.shared.service ∧
      Duty.Returned app duties final.program turns start.shared.service ∧
      ∀ thread ∉ turns.map Prod.fst, final.program thread = start.program thread := by
  induction turns generalizing start with
  | nil => exact ⟨[], start, .nil, rfl, trivial, fun _ _ => rfl⟩
  | cons turn rest ih =>
      obtain ⟨thread, now⟩ := turn
      rw [List.map_cons, List.nodup_cons] at distinct
      rw [List.map_cons, List.pairwise_cons] at forward
      rw [List.forall_mem_cons] at unstarted
      have passed : Pool.Moves Passes start none
          { start with shared := { start.shared with clock := now } } :=
        .outside ⟨now, forward.1 now (List.mem_cons_self ..), rfl⟩
      obtain ⟨own, middle, _, run, shared, program⟩ := Pool.run_alone Passes
        { start with shared := { start.shared with clock := now } } thread
      dsimp only at shared program
      rw [unstarted.1] at shared program
      obtain ⟨returned, reached, stopped⟩ := (duties thread).program_does app now
        { start.shared with clock := now } rfl
      rw [← shared] at reached stopped
      rw [returned] at program
      have others : ∀ other, other ≠ thread → middle.program other = start.program other := by
        intro other different
        rw [program]
        exact Function.update_of_ne different _ _
      obtain ⟨movers, final, goesOn, service, rests, kept⟩ := ih middle
        (fun turn member => (others turn.1 fun same =>
          distinct.1 (List.mem_map.mpr ⟨turn, member, same⟩)).trans (unstarted.2 turn member))
        distinct.2 (stopped ▸ forward.2)
      rw [reached] at service rests
      refine ⟨[none] ++ own ++ movers, final, ((Run.snoc .nil passed).append run).append goesOn,
        service, ⟨?_, rests⟩, ?_⟩
      · rw [kept thread distinct.1, program, Function.update_self]
      · intro other absent
        rw [List.map_cons, List.mem_cons, not_or] at absent
        rw [kept other absent.2, others other absent.1]

end Turns

/-- A forced check and then a request for the source have an interleaving of their own. -/
theorem interleaving_of_turns_checkThenRead :
    ∃ movers final, Run (Pool.Moves Passes)
        (Duty.launch plainApp checkThenRead discoveredSite) movers final ∧
      final.shared.service = Duty.performAll plainApp checkThenRead [(false, 5), (true, 8)]
        discoveredSite.service ∧
      Duty.Returned plainApp checkThenRead final.program [(false, 5), (true, 8)]
        discoveredSite.service := by
  obtain ⟨movers, final, run, service, returned, _⟩ := interleaving_of_turns plainApp checkThenRead
    [(false, 5), (true, 8)] (Duty.launch plainApp checkThenRead discoveredSite)
    (fun _ _ => rfl) (by decide) (by decide)
  exact ⟨movers, final, run, service, returned⟩

end BiothingsPulse
