import BiothingsPulse.Api.AdminGuard
import BiothingsPulse.Api.Interleaving
import BiothingsPulse.Dashboard.Page
import BiothingsPulse.Foundation.Transition
import BiothingsPulse.Service.Sweep

/-!
# A session of the dashboard

One page and the server. Loads and admin operations are under way at the same time, the
server answers their requests one by one in any order, answers are lost, and the turns of
the page that follow come at any time. The server serves others too, who may change
everything but its settings.
-/

namespace BiothingsPulse.Dashboard

open Foundation

section Requests

def sourcesRequest : Request := { method := "GET", path := ["sources"] }

def healthRequest : Request := { method := "GET", path := ["health"] }

/-- The white space that a header value is sent without. -/
def isHttpSpace (c : Char) : Bool := c = '\t' || c = '\n' || c = '\r' || c = ' '

def normalizedValue (value : List Char) : List Char :=
  ((value.dropWhile isHttpSpace).reverse.dropWhile isHttpSpace).reverse

/-- What a header can be sent with; anything else is an error of the script. -/
def isHeaderValue (value : List Char) : Bool :=
  value.all fun c => c.toNat < 256 && c ≠ '\x00' && c ≠ '\n' && c ≠ '\r'

/-- The headers of an admin operation, if they can be sent. -/
def adminHeaders (token : String) : Option (List (String × String)) :=
  if token = "" then some []
  else
    let value := normalizedValue ("Bearer " ++ token).toList
    if isHeaderValue value then some [("Authorization", String.ofList value)] else none

inductive AdminCall where
  | check (repo plugin : String)
  | sync
  | refresh

/-- The path below the root of the API, unless the address leads elsewhere. -/
def AdminCall.path : AdminCall → Option (List String)
  | .check repo plugin => routedPath (requestTarget (checkAddress repo plugin))
  | .sync => some ["admin", "sync"]
  | .refresh => some ["admin", "refresh"]

/-- An admin operation that waits for its answer. -/
structure Operation where
  call : AdminCall
  headers : List (String × String)
  answer : Option Answer := none

/-- The request of an operation, where its path is the given one. -/
def Operation.request (operation : Operation) (path : List String) : Request :=
  { method := "POST", path := path, headers := operation.headers }

/-- A load that waits for its answers. -/
structure Load where
  sources : Option Answer := none
  health : Option Answer := none

/-- A load goes on once the sources have failed, or everything is there. -/
def Load.Done (load : Load) (sources health : Answer) : Prop :=
  load.sources = some sources ∧
    (load.health = some health ∨ ∃ message, sources.result "/api/sources" = .error message)

end Requests

structure Session (codec : StateCodec) where
  page : Page
  service : PulseService codec
  loads : List Load
  operations : List Operation

/-- What happens in one step. -/
inductive Act where
  /-- The user changes what is shown, which is drawn at the given time. -/
  | draw (now : Int)
  /-- The user loads again, or the time for it has come. -/
  | reload
  | clickAdmin (entered : Option String)
  | operate (call : AdminCall)
  /-- The server answers a request of the page. -/
  | serve (request : Request) (response : Response)
  /-- The page goes on with the answers to a load, at the given time. -/
  | loaded (now : Int) (sources health : Answer)
  /-- The page goes on with the answer to an operation. -/
  | receive
  /-- An answer comes from elsewhere, or is lost. -/
  | other
  /-- The server does something else. -/
  | others

/-- The end of a load. -/
def Act.endsLoad : Act → Bool
  | .loaded .. => true
  | _ => false

section Steps

variable {codec : StateCodec} (app : App) (browser : Browser) (isoformat : Time → String)

/-- A step of the session. -/
inductive Step (session : Session codec) : Act → Session codec → Prop where
  | setFilter (now : Int) (text : String) :
      Step session (.draw now)
        { session with page := session.page.setFilter (browser.at now) text }
  | setOnlyChanged (now : Int) (checked : Bool) :
      Step session (.draw now)
        { session with page := session.page.setOnlyChanged (browser.at now) checked }
  | toggleRepo (now : Int) (r : String) :
      Step session (.draw now)
        { session with page := session.page.toggleRepo (browser.at now) r }
  | selectRepos (now : Int) (all : Bool) :
      Step session (.draw now)
        { session with page := session.page.selectRepos (browser.at now) all }
  | load : Step session .reload { session with loads := session.loads ++ [{}] }
  | clickAdmin (entered : Option String) :
      Step session (.clickAdmin entered)
        { session with page := session.page.clickAdmin browser entered }
  | operate {call : AdminCall} {headers : List (String × String)}
      (allowed : adminHeaders session.page.adminToken = some headers) :
      Step session (.operate call)
        { session with operations := session.operations ++ [{ call := call, headers := headers }] }
  | operateRefused {call : AdminCall} (forbidden : adminHeaders session.page.adminToken = none) :
      Step session (.operate call) session
  | serveSources {index : ℕ} {load : Load} (world : World) (now : Time)
      (waiting : session.loads[index]? = some load) (unanswered : load.sources = none) :
      Step session
        (.serve sourcesRequest (app.serve world now sourcesRequest session.service).1)
        { session with
          service := (app.serve world now sourcesRequest session.service).2
          loads := session.loads.set index { load with
            sources := some (.response (app.serve world now sourcesRequest session.service).1) } }
  | serveHealth {index : ℕ} {load : Load} (world : World) (now : Time)
      (waiting : session.loads[index]? = some load) (unanswered : load.health = none) :
      Step session
        (.serve healthRequest (app.serve world now healthRequest session.service).1)
        { session with
          service := (app.serve world now healthRequest session.service).2
          loads := session.loads.set index { load with
            health := some (.response (app.serve world now healthRequest session.service).1) } }
  | serveOperation {index : ℕ} {operation : Operation} {path : List String} (world : World)
      (now : Time) (waiting : session.operations[index]? = some operation)
      (unanswered : operation.answer = none) (routed : operation.call.path = some path) :
      Step session
        (.serve (operation.request path)
          (app.serve world now (operation.request path) session.service).1)
        { session with
          service := (app.serve world now (operation.request path) session.service).2
          operations := session.operations.set index { operation with
            answer := some (.response
              (app.serve world now (operation.request path) session.service).1) } }
  /-- The address leads out of the API, where somebody answers. -/
  | answerElsewhere {index : ℕ} {operation : Operation} (response : Response)
      (waiting : session.operations[index]? = some operation)
      (unanswered : operation.answer = none) (outside : operation.call.path = none) :
      Step session .other
        { session with
          operations :=
            session.operations.set index { operation with answer := some (.response response) } }
  /-- No answer comes, or it is lost on its way. -/
  | loseSources {index : ℕ} {load : Load} (message : String)
      (waiting : session.loads[index]? = some load) :
      Step session .other
        { session with
          loads := session.loads.set index { load with sources := some (.failed message) } }
  | loseHealth {index : ℕ} {load : Load} (message : String)
      (waiting : session.loads[index]? = some load) :
      Step session .other
        { session with
          loads := session.loads.set index { load with health := some (.failed message) } }
  | loseOperation {index : ℕ} {operation : Operation} (message : String)
      (waiting : session.operations[index]? = some operation) :
      Step session .other
        { session with
          operations :=
            session.operations.set index { operation with answer := some (.failed message) } }
  | loaded {index : ℕ} {load : Load} {sources health : Answer} (now : Int)
      (waiting : session.loads[index]? = some load) (done : load.Done sources health) :
      Step session (.loaded now sources health)
        { session with
          page := session.page.load (browser.at now) isoformat sources health
          loads := session.loads.eraseIdx index }
  /-- A successful operation is followed by a load. -/
  | operated {index : ℕ} {operation : Operation} {answer : Answer} {body : Body}
      (waiting : session.operations[index]? = some operation)
      (answered : operation.answer = some answer) (succeeded : answer.result "" = .ok body) :
      Step session .receive
        { session with
          loads := session.loads ++ [{}]
          operations := session.operations.eraseIdx index }
  | failed {index : ℕ} {operation : Operation} {answer : Answer} {message : String}
      (waiting : session.operations[index]? = some operation)
      (answered : operation.answer = some answer) (raised : answer.result "" = .error message) :
      Step session .receive
        { session with
          page := session.page.relock answer
          operations := session.operations.eraseIdx index }
  | others {service : PulseService codec} (settings : service.settings = session.service.settings) :
      Step session .others { session with service := service }

end Steps

/-- A page that has just been opened, with its first load. -/
def Session.opening {codec : StateCodec} (storage : Bool) (stored : Option String)
    (service : PulseService codec) : Session codec :=
  { page := .opening storage stored, service := service, loads := [{}], operations := [] }

section Server

variable {codec : StateCodec} (app : App) (world : World) (now : Time)

private theorem record_settings (ref : PluginRef) (result : CheckResult)
    (service : PulseService codec) :
    (service.record world ref result).2.settings = service.settings :=
  PulseService.record_cases world ref result service
    (motive := fun recorded => recorded.2.settings = service.settings)
    (fun _ _ => rfl) (fun _ _ _ => rfl) fun _ _ _ _ => rfl

private theorem collectOne_settings (refs : List PluginRef) (ref : PluginRef)
    (service : PulseService codec) :
    (PulseService.collectOne world refs ref service).2.settings = service.settings := by
  unfold PulseService.collectOne
  split
  · rfl
  · split
    · rfl
    · rename_i result _
      have recorded := record_settings world ref result service
      split <;> rename_i recording <;> rw [recording] at recorded <;> exact recorded

private theorem checkRefs_settings (refs : List PluginRef) (service : PulseService codec) :
    (service.checkRefs world refs).2.settings = service.settings := by
  rw [PulseService.checkRefs_snd]
  exact Loop.forEach_frame PulseService.settings refs
    (fun ref _ => collectOne_settings world refs ref) _

private theorem checkSource_settings (repo plugin : String) (service : PulseService codec) :
    (service.checkSource world repo plugin).2.settings = service.settings := by
  unfold PulseService.checkSource
  split
  · rfl
  · rename_i ref _
    dsimp only
    split
    · rfl
    · rename_i result _
      have recorded := record_settings world ref result (service.note [.check ref])
      split <;> rename_i recording <;> rw [recording] at recorded <;> exact recorded

private theorem syncAndDiscover_settings (service : PulseService codec) :
    (service.syncAndDiscover world).2.settings = service.settings := by
  unfold PulseService.syncAndDiscover
  split
  · rfl
  · dsimp only
    split
    · rfl
    · split <;> rfl

private theorem guarded_settings (request : Request)
    {operation : PulseService codec → Except RouteExc Body × PulseService codec}
    (kept : ∀ service, (operation service).2.settings = service.settings)
    (service : PulseService codec) :
    (App.guarded request operation service).2.settings = service.settings := by
  unfold App.guarded
  split
  · rfl
  · exact kept service

/-- No request changes the settings of the server. -/
theorem serve_settings (request : Request) (service : PulseService codec) :
    (app.serve world now request service).2.settings = service.settings := by
  have forced (repo plugin : String) (service : PulseService codec) :
      (service.forcedSource app.croniter world now repo plugin).2.settings = service.settings := by
    have checked := checkSource_settings world repo plugin service
    unfold PulseService.forcedSource
    split <;> rename_i ran <;> rw [ran] at checked <;> exact checked
  have synced (service : PulseService codec) :
      (service.adminSync world).2.settings = service.settings := by
    have ended := syncAndDiscover_settings world service
    unfold PulseService.adminSync
    split <;> rename_i ran <;> rw [ran] at ended <;> exact ended
  have refreshed (service : PulseService codec) :
      (service.adminRefresh world).2.settings = service.settings := by
    have ended := checkRefs_settings world service.listCatalog service
    unfold PulseService.adminRefresh PulseService.refreshAll
    split <;> rename_i ran <;> rw [ran] at ended <;> exact ended
  unfold App.serve
  split
  · rfl
  · split
    · unfold App.run
      split
      · rfl
      · rfl
      · rfl
      · split
        · rfl
        · exact guarded_settings request (forced _ _) service
        · rfl
      · exact guarded_settings request (forced _ _) service
      · exact guarded_settings request synced service
      · exact guarded_settings request refreshed service
    · rfl

/-- The server reports admin operations as enabled only where they are. -/
theorem adminEnabled_of_health {service : PulseService codec}
    (enables : (Answer.response (app.serve world now healthRequest service).1).enables = true) :
    service.settings.AdminEnabled := by
  have answered : (Answer.response (app.serve world now healthRequest service).1).enables =
      (service.settings.adminToken.map fun token => decide (token ≠ "")).getD false := rfl
  rw [answered] at enables
  cases configured : service.settings.adminToken with
  | none =>
      rw [configured] at enables
      cases enables
  | some token =>
      rw [configured] at enables
      exact ⟨token, configured, of_decide_eq_true enables⟩

end Server

section Shows

variable {codec : StateCodec} {app : App} {browser : Browser} {isoformat : Time → String}

/-- What the page is to show by what has happened: the data and whether admin operations are
enabled, both from the last load that brought sources, and what was drawn last. -/
structure Screen where
  data : List SourcePayload := []
  enabled : Bool := false
  drawn : Page.Drawn := .loading

/-- What an act does to it. -/
def Screen.after (isoformat : Time → String) (screen : Screen) : Act → Screen
  | .draw now => { screen with drawn := .rows now }
  | .loaded now sources health =>
      match sources.result "/api/sources" with
      | .error message => { screen with drawn := .failed message }
      | .ok body =>
          { data := sourcesOf isoformat body, enabled := health.enables, drawn := .rows now }
  | _ => screen

/-- What the page is to show after all that has happened. -/
def screen (isoformat : Time → String) (acts : List Act) : Screen :=
  acts.foldl (Screen.after isoformat) {}

private theorem screen_append (acts : List Act) (act : Act) :
    screen isoformat (acts ++ [act]) = (screen isoformat acts).after isoformat act :=
  List.foldl_append

/-- The page shows what it is to show. -/
structure Page.Shows (browser : Browser) (screen : Screen) (page : Page) : Prop where
  admin : page.ShowsAdmin
  sources : page.ShowsSources browser screen.drawn
  enabled : page.adminEnabled = screen.enabled
  data : page.view.data = screen.data

/-- The responses that a load has ended with are the server's. The one about the health
counts only where there are sources. -/
def Given (acts : List Act) (sources health : Answer) : Prop :=
  (∀ response, sources = .response response → .serve sourcesRequest response ∈ acts) ∧
    ∀ body, sources.result "/api/sources" = .ok body →
      ∀ response, health = .response response → .serve healthRequest response ∈ acts

/-- The page shows what it is to show, and the answers are the server's. -/
structure Session.Sound (browser : Browser) (isoformat : Time → String) (settings : Settings)
    (acts : List Act) (session : Session codec) : Prop where
  shows : session.page.Shows browser (screen isoformat acts)
  configured : session.service.settings = settings
  enabled : session.page.adminEnabled = true → settings.AdminEnabled
  powers : ∀ load ∈ session.loads, ∀ answer, load.health = some answer →
    answer.enables = true → settings.AdminEnabled
  health : ∀ load ∈ session.loads, ∀ response, load.health = some (.response response) →
    .serve healthRequest response ∈ acts
  answers : ∀ load ∈ session.loads, ∀ response, load.sources = some (.response response) →
    .serve sourcesRequest response ∈ acts
  given : ∀ now sources health, .loaded now sources health ∈ acts → Given acts sources health

variable {settings : Settings} {acts : List Act} {session after : Session codec} {act : Act}

private theorem sound_opening (storage : Bool) (stored : Option String)
    (service : PulseService codec) :
    (Session.opening storage stored service).Sound browser isoformat service.settings [] where
  shows := ⟨Page.showsAdmin_renderAdmin _, Page.showsSources_opening browser storage stored, rfl,
    rfl⟩
  configured := rfl
  enabled := nofun
  powers := by simp [Session.opening]
  health := by simp [Session.opening]
  answers := by simp [Session.opening]
  given := by simp

private theorem Given.later {sources health : Answer} (given : Given acts sources health)
    (act : Act) : Given (acts ++ [act]) sources health :=
  ⟨fun response same => List.mem_append_left _ (given.1 response same),
    fun body read response same => List.mem_append_left _ (given.2 body read response same)⟩

namespace Session.Sound

/-- A turn of the page in which no load ends. -/
theorem turn (sound : session.Sound browser isoformat settings acts) {page : Page} {act : Act}
    (shows : page.Shows browser (screen isoformat (acts ++ [act])))
    (enabled : page.adminEnabled = session.page.adminEnabled)
    (other : act.endsLoad = false) :
    { session with page := page }.Sound browser isoformat settings (acts ++ [act]) where
  shows := shows
  configured := sound.configured
  enabled set := sound.enabled (enabled ▸ set)
  powers := sound.powers
  health load member response answered :=
    List.mem_append_left _ (sound.health load member response answered)
  answers load member response answered :=
    List.mem_append_left _ (sound.answers load member response answered)
  given now sources health ended := by
    obtain before | last := List.mem_append.mp ended
    · exact (sound.given now sources health before).later act
    · rw [← List.mem_singleton.mp last] at other
      cases other

/-- An act in which nothing is drawn and no load ends. -/
theorem later (sound : session.Sound browser isoformat settings acts) {act : Act}
    (same : (screen isoformat acts).after isoformat act = screen isoformat acts)
    (other : act.endsLoad = false) :
    session.Sound browser isoformat settings (acts ++ [act]) :=
  sound.turn (by rw [screen_append, same]; exact sound.shows) rfl other

/-- Loads that are begun, or that are done, leave what is known of the others. -/
theorem withLoads (sound : session.Sound browser isoformat settings acts) {loads : List Load}
    (among : ∀ load ∈ loads, load ∈ session.loads ∨ load = {}) :
    { session with loads := loads }.Sound browser isoformat settings acts where
  shows := sound.shows
  configured := sound.configured
  enabled := sound.enabled
  powers load member answer answered enables := by
    obtain known | rfl := among load member
    · exact sound.powers load known answer answered enables
    · cases answered
  health load member response answered := by
    obtain known | rfl := among load member
    · exact sound.health load known response answered
    · cases answered
  answers load member response answered := by
    obtain known | rfl := among load member
    · exact sound.answers load known response answered
    · cases answered
  given := sound.given

/-- An answer that a load has waited for. -/
theorem answered (sound : session.Sound browser isoformat settings acts) {index : ℕ}
    {load next : Load} (waiting : session.loads[index]? = some load)
    (health : next.health = load.health ∨ ∀ answer, next.health = some answer →
      (answer.enables = true → settings.AdminEnabled) ∧
        ∀ response, answer = .response response → .serve healthRequest response ∈ acts)
    (sources : next.sources = load.sources ∨ ∀ response,
      next.sources = some (.response response) → .serve sourcesRequest response ∈ acts) :
    { session with loads := session.loads.set index next }.Sound browser isoformat settings
      acts where
  shows := sound.shows
  configured := sound.configured
  enabled := sound.enabled
  powers other member answer answered enables := by
    obtain known | rfl := List.mem_or_eq_of_mem_set member
    · exact sound.powers other known answer answered enables
    · obtain same | tells := health
      · exact sound.powers load (List.mem_of_getElem? waiting) answer (same ▸ answered) enables
      · exact (tells answer answered).1 enables
  health other member response answered := by
    obtain known | rfl := List.mem_or_eq_of_mem_set member
    · exact sound.health other known response answered
    · obtain same | tells := health
      · exact sound.health load (List.mem_of_getElem? waiting) response (same ▸ answered)
      · exact (tells _ answered).2 response rfl
  answers other member response answered := by
    obtain known | rfl := List.mem_or_eq_of_mem_set member
    · exact sound.answers other known response answered
    · obtain same | tells := sources
      · exact sound.answers load (List.mem_of_getElem? waiting) response (same ▸ answered)
      · exact tells response answered
  given := sound.given

/-- The server answers, which leaves its settings. -/
theorem served (sound : session.Sound browser isoformat settings acts)
    {service : PulseService codec} (configured : service.settings = session.service.settings) :
    { session with service := service }.Sound browser isoformat settings acts where
  shows := sound.shows
  configured := configured.trans sound.configured
  enabled := sound.enabled
  powers := sound.powers
  health := sound.health
  answers := sound.answers
  given := sound.given

private theorem withOperations (sound : session.Sound browser isoformat settings acts)
    (operations : List Operation) :
    { session with operations := operations }.Sound browser isoformat settings acts where
  shows := sound.shows
  configured := sound.configured
  enabled := sound.enabled
  powers := sound.powers
  health := sound.health
  answers := sound.answers
  given := sound.given

/-- A load that is done has its answers from the server. -/
theorem given_of_done (sound : session.Sound browser isoformat settings acts) {load : Load}
    (member : load ∈ session.loads) {sources health : Answer} (done : load.Done sources health) :
    Given acts sources health := by
  obtain ⟨listed, waited⟩ := done
  refine ⟨fun response same => sound.answers load member response (same ▸ listed), ?_⟩
  intro body read response same
  obtain answered | ⟨message, failed⟩ := waited
  · exact sound.health load member response (same ▸ answered)
  · rw [read] at failed
    cases failed

/-- The page after a load. -/
theorem shows_load (sound : session.Sound browser isoformat settings acts) (now : Int)
    (sources health : Answer) :
    (session.page.load (browser.at now) isoformat sources health).Shows browser
      (screen isoformat (acts ++ [Act.loaded now sources health])) := by
  have admin := sound.shows.admin.load (browser.at now) isoformat sources health
  rw [screen_append, Screen.after]
  cases read : sources.result "/api/sources" with
  | error message =>
      rw [Page.load_of_error read] at admin ⊢
      exact ⟨admin, ⟨sound.shows.sources.repos, rfl⟩, sound.shows.enabled, sound.shows.data⟩
  | ok body =>
      obtain ⟨data, enabled⟩ :=
        Page.load_of_ok read (browser.at now) session.page isoformat health
      exact ⟨admin, Page.showsSources_load_of_ok read browser now _ isoformat health, enabled,
        data⟩

/-- The end of a load. -/
theorem loaded (sound : session.Sound browser isoformat settings acts) {load : Load}
    (member : load ∈ session.loads) {sources health : Answer} (done : load.Done sources health)
    (now : Int) :
    { session with page := session.page.load (browser.at now) isoformat sources health }.Sound
      browser isoformat settings (acts ++ [Act.loaded now sources health]) where
  shows := sound.shows_load now sources health
  configured := sound.configured
  enabled set := by
    cases read : sources.result "/api/sources" with
    | error message =>
        dsimp only at set
        rw [Page.load_of_error read] at set
        exact sound.enabled set
    | ok body =>
        obtain answered | ⟨message, failed⟩ := done.2
        · have enables :=
            (Page.load_of_ok read (browser.at now) session.page isoformat health).2
          exact sound.powers load member health answered (enables ▸ set)
        · rw [read] at failed
          cases failed
  powers := sound.powers
  health load member response answered :=
    List.mem_append_left _ (sound.health load member response answered)
  answers load member response answered :=
    List.mem_append_left _ (sound.answers load member response answered)
  given time first second ended := by
    obtain before | last := List.mem_append.mp ended
    · exact (sound.given time first second before).later _
    · obtain ⟨_, rfl, rfl⟩ := Act.loaded.inj (List.mem_singleton.mp last)
      exact (sound.given_of_done member done).later _

/-- Every step keeps to what is known. -/
theorem step (sound : session.Sound browser isoformat settings acts)
    (stepped : Step app browser isoformat session act after) :
    after.Sound browser isoformat settings (acts ++ [act]) := by
  have shows := sound.shows
  have known : (screen isoformat acts).after isoformat act = screen isoformat acts →
      act.endsLoad = false → session.Sound browser isoformat settings (acts ++ [act]) :=
    sound.later
  have drawn {page : Page} (now : Int) (admin : page.ShowsAdmin)
      (sources : page.ShowsSources browser (.rows now))
      (enabled : page.adminEnabled = session.page.adminEnabled)
      (data : page.view.data = session.page.view.data) :
      { session with page := page }.Sound browser isoformat settings (acts ++ [Act.draw now]) := by
    refine sound.turn ?_ enabled rfl
    rw [screen_append]
    exact ⟨admin, sources, enabled.trans shows.enabled, data.trans shows.data⟩
  cases stepped with
  | setFilter now text =>
      exact drawn now (shows.admin.setFilter _ text) (shows.sources.setFilter now text) rfl rfl
  | setOnlyChanged now checked =>
      exact drawn now (shows.admin.setOnlyChanged _ checked)
        (shows.sources.setOnlyChanged now checked) rfl rfl
  | toggleRepo now r =>
      exact drawn now (shows.admin.hide _ _) (Page.showsSources_render _ now _) rfl rfl
  | selectRepos now all =>
      exact drawn now (shows.admin.hide _ _) (Page.showsSources_render _ now _) rfl rfl
  | load =>
      refine (known rfl rfl).withLoads fun load member => ?_
      exact (List.mem_append.mp member).imp id List.mem_singleton.mp
  | clickAdmin entered =>
      obtain ⟨view, enabled⟩ := Page.clickAdmin_kept browser session.page entered
      refine sound.turn ?_ enabled rfl
      rw [screen_append]
      exact ⟨shows.admin.clickAdmin browser entered, shows.sources.clickAdmin entered,
        enabled.trans shows.enabled, (congrArg View.data view).trans shows.data⟩
  | operate _ => exact (known rfl rfl).withOperations _
  | operateRefused _ => exact known rfl rfl
  | serveSources world now waiting _ =>
      have served := (known rfl rfl).served
        (serve_settings app world now sourcesRequest session.service)
      refine served.answered waiting (.inl rfl) (.inr ?_)
      intro response given
      cases given
      exact List.mem_append_right _ List.mem_cons_self
  | serveHealth world now waiting _ =>
      have served := (known rfl rfl).served
        (serve_settings app world now healthRequest session.service)
      refine served.answered waiting (.inr ?_) (.inl rfl)
      intro answer given
      cases given
      refine ⟨fun enables => sound.configured ▸ adminEnabled_of_health app world now enables, ?_⟩
      intro response same
      cases same
      exact List.mem_append_right _ List.mem_cons_self
  | serveOperation world now _ _ _ =>
      exact ((known rfl rfl).served (serve_settings app world now _ _)).withOperations _
  | answerElsewhere _ _ _ _ => exact (known rfl rfl).withOperations _
  | loseSources message waiting =>
      refine (known rfl rfl).answered waiting (.inl rfl) (.inr ?_)
      intro response given
      cases given
  | loseHealth message waiting =>
      refine (known rfl rfl).answered waiting (.inr ?_) (.inl rfl)
      intro answer given
      cases given
      refine ⟨fun enables => absurd enables Bool.false_ne_true, ?_⟩
      intro response same
      cases same
  | loseOperation _ _ => exact (known rfl rfl).withOperations _
  | loaded now waiting done =>
      have ended := sound.loaded (List.mem_of_getElem? waiting) done now
      exact ended.withLoads fun load member => .inl (List.mem_of_mem_eraseIdx member)
  | operated _ _ _ =>
      have begun : ∀ load ∈ session.loads ++ [({} : Load)], load ∈ session.loads ∨ load = {} :=
        fun load member => (List.mem_append.mp member).imp id List.mem_singleton.mp
      exact ((known rfl rfl).withLoads begun).withOperations _
  | @failed _ _ answer _ _ _ _ =>
      obtain ⟨view, enabled⟩ := Page.relock_kept session.page answer
      have turned : { session with page := session.page.relock answer }.Sound browser isoformat
          settings (acts ++ [Act.receive]) := by
        refine sound.turn ?_ enabled rfl
        rw [screen_append]
        exact ⟨shows.admin.relock _, shows.sources.relock _, enabled.trans shows.enabled,
          (congrArg View.data view).trans shows.data⟩
      exact turned.withOperations _
  | others settings => exact (known rfl rfl).served settings

end Session.Sound

/-- A catalog of one source is listed as it is. -/
theorem listCatalog_single {service : PulseService codec} {ref : PluginRef}
    (single : service.catalog.refs = [ref]) : service.listCatalog = [ref] := by
  rw [PulseService.listCatalog, Catalog.list, single]
  exact List.mergeSort_singleton _

/-- The listing of a server that has discovered one source. -/
theorem serve_single (app : App) {service : PulseService codec} {ref : PluginRef}
    (single : service.catalog.refs = [ref]) {now : Time} {status : SourceStatus}
    (shown : service.status app.croniter now (service.cached now ref).untyped = .ok status)
    (world : World) : (app.serve world now sourcesRequest service).1 =
      { statusCode := 200, body := .sources 1 [status] } := by
  have served : (app.serve world now sourcesRequest service).1 =
      respond (service.sourcesBody app.croniter now) := rfl
  rw [served, PulseService.sourcesBody, PulseService.listSources, listCatalog_single single,
    Loop.collect, shown]
  rfl

/-- The answers of a server that has discovered one source. -/
def siteAnswer (request : Request) : Answer :=
  .response (plainApp.serve firstStart 7 request discoveredSite.service).1

end Shows

section Tokens

/-- The token as the server takes it from the header. -/
def strippedToken (token : String) : String := String.ofList (pyStrip token.toList)

private theorem pyStrip_append {text spaces : List Char}
    (blank : ∀ c ∈ spaces, isPySpace c = true) : pyStrip (text ++ spaces) = pyStrip text := by
  have dropped : spaces.dropWhile isPySpace = [] := List.dropWhile_eq_nil_iff.mpr blank
  have reversed : spaces.reverse.dropWhile isPySpace = [] :=
    List.dropWhile_eq_nil_iff.mpr fun c member => blank c (List.mem_reverse.mp member)
  unfold pyStrip
  rw [List.dropWhile_append]
  split
  · rename_i empty
    rw [dropped, List.isEmpty_iff.mp empty]
  · rw [List.reverse_append, List.dropWhile_append, reversed]
    rfl

private theorem isPySpace_of_isHttpSpace {c : Char} (space : isHttpSpace c = true) :
    isPySpace c = true := by
  simp only [isHttpSpace, Bool.or_eq_true, decide_eq_true_eq] at space
  obtain ((rfl | rfl) | rfl) | rfl := space <;> decide

/-- The header of a token is the token without the spaces at its end, if any of it is left. -/
theorem normalizedValue_bearer (token : String) :
    normalizedValue ("Bearer " ++ token).toList = "Bearer".toList ∨
      ∃ kept spaces, token.toList = kept ++ spaces ∧ (∀ c ∈ spaces, isPySpace c = true) ∧
        normalizedValue ("Bearer " ++ token).toList = "Bearer ".toList ++ kept := by
  have first : ("Bearer ".toList ++ token.toList).dropWhile isHttpSpace =
      "Bearer ".toList ++ token.toList := rfl
  unfold normalizedValue
  rw [String.toList_append, first, List.reverse_append, List.dropWhile_append]
  split
  · exact .inl (by decide)
  · refine .inr ⟨(token.toList.reverse.dropWhile isHttpSpace).reverse,
      (token.toList.reverse.takeWhile isHttpSpace).reverse, ?_, ?_, ?_⟩
    · rw [← List.reverse_append, List.takeWhile_append_dropWhile, List.reverse_reverse]
    · intro c member
      exact isPySpace_of_isHttpSpace
        (List.mem_takeWhile_imp (List.mem_reverse.mp member))
    · rw [List.reverse_append, List.reverse_reverse]

/-- What a request presents whose only header is an authorization. -/
theorem presentedToken_of_authorization {request : Request} {value : List Char}
    (given : request.headers = [("Authorization", String.ofList value)]) :
    request.presentedToken =
      if (value.map Char.toLower).take 7 = "bearer ".toList then
        some (String.ofList (pyStrip (value.drop 7)))
      else none := by
  have auth : request.header "Authorization" = some (String.ofList value) := by
    rw [Request.header, given]
    simp
  have other : request.header "X-Admin-Token" = none := by
    have different : lowered "Authorization" ≠ lowered "X-Admin-Token" := by decide
    unfold Request.header
    rw [given, List.find?_cons_of_neg (by simpa using different)]
    rfl
  have low : lowered (String.ofList value) = value.map Char.toLower := by
    rw [lowered, String.toList_ofList]
  unfold Request.presentedToken
  simp only [auth, other, Option.getD_some, low, String.toList_ofList]

/-- A request with the headers of a token presents nothing but that token. -/
theorem presentedToken_of_adminHeaders {token : String} {headers : List (String × String)}
    (allowed : adminHeaders token = some headers) {request : Request}
    (given : request.headers = headers) {presented : String}
    (presents : request.presentedToken = some presented) :
    token ≠ "" ∧ presented = strippedToken token := by
  unfold adminHeaders at allowed
  by_cases empty : token = ""
  · rw [if_pos empty] at allowed
    cases allowed
    have nothing : request.presentedToken = none := by
      unfold Request.presentedToken Request.header
      rw [given]
      rfl
    rw [nothing] at presents
    cases presents
  · refine ⟨empty, ?_⟩
    rw [if_neg empty] at allowed
    dsimp only at allowed
    split at allowed
    · cases allowed
      rw [presentedToken_of_authorization given] at presents
      obtain short | ⟨kept, spaces, split, blank, long⟩ := normalizedValue_bearer token
      · rw [short, if_neg (by decide)] at presents
        cases presents
      · rw [long] at presents
        split at presents
        · cases presents
          rw [strippedToken, split, pyStrip_append blank]
          rfl
        · cases presents
    · cases allowed

end Tokens

section Powerless

variable {codec : StateCodec} {app : App} {browser : Browser} {isoformat : Time → String}
  {tokens : Set String} {settings : Settings} {acts : List Act} {session after : Session codec}
  {act : Act}

/-- The tokens that the page may come to hold: what was stored, and what has been entered. -/
def heldTokens (browser : Browser) (stored : Option String) (acts : List Act) : Set String :=
  {token | stored = some token ∨
    ∃ entered, .clickAdmin (some entered) ∈ acts ∧ token = browser.trim entered}

/-- The page holds and sends none but the given tokens. -/
structure Session.Holds (tokens : Set String) (session : Session codec) : Prop where
  stored : ∀ token, session.page.stored = some token → token ∈ tokens
  sent : ∀ operation ∈ session.operations, ∃ token,
    (token ≠ "" → token ∈ tokens) ∧ adminHeaders token = some operation.headers

/-- None of the tokens is the one that the server is configured with. -/
def Powerless (settings : Settings) (tokens : Set String) : Prop :=
  ∀ token ∈ tokens, settings.adminToken ≠ some (strippedToken token)

/-- No operation that would change the server has been answered with success. -/
def Session.Refused (session : Session codec) : Prop :=
  ∀ operation ∈ session.operations, ∀ path, operation.call.path = some path →
    (operation.request path).mutating = true →
    ∀ response, operation.answer = some (.response response) → 400 ≤ response.statusCode

private theorem heldTokens_mono (stored : Option String) (acts : List Act) (act : Act) :
    heldTokens browser stored acts ⊆ heldTokens browser stored (acts ++ [act]) := by
  rintro token (initial | ⟨entered, clicked, trimmed⟩)
  · exact .inl initial
  · exact .inr ⟨entered, List.mem_append_left _ clicked, trimmed⟩

private theorem holds_opening (storage : Bool) (stored : Option String)
    (service : PulseService codec) :
    (Session.opening storage stored service).Holds (heldTokens browser stored []) where
  stored _ given := .inl given
  sent := by simp [Session.opening]

namespace Session.Holds

private theorem mono (holds : session.Holds tokens) {more : Set String} (included : tokens ⊆ more) :
    session.Holds more where
  stored token given := included (holds.stored token given)
  sent operation member := by
    obtain ⟨token, among, headers⟩ := holds.sent operation member
    exact ⟨token, fun nonempty => included (among nonempty), headers⟩

/-- No request of an operation presents the configured token. -/
theorem not_presents (holds : session.Holds tokens) (powerless : Powerless settings tokens)
    {operation : Operation} (member : operation ∈ session.operations) (path : List String) :
    ¬ (operation.request path).Presents settings := by
  rintro ⟨configured, found, _, presented⟩
  obtain ⟨token, among, headers⟩ := holds.sent operation member
  obtain ⟨nonempty, rfl⟩ := presentedToken_of_adminHeaders headers rfl presented
  exact powerless token (among nonempty) found

/-- Only a click on the admin button brings a token to the page. -/
theorem step {stored : Option String} (holds : session.Holds (heldTokens browser stored acts))
    (stepped : Step app browser isoformat session act after) :
    after.Holds (heldTokens browser stored (acts ++ [act])) := by
  have known := holds.mono (heldTokens_mono stored acts act)
  have among {index : ℕ} {operation next : Operation}
      (waiting : session.operations[index]? = some operation)
      (same : next.headers = operation.headers) :
      ∀ other ∈ session.operations.set index next, ∃ token,
        (token ≠ "" → token ∈ heldTokens browser stored (acts ++ [act])) ∧
          adminHeaders token = some other.headers := by
    intro other member
    obtain before | rfl := List.mem_or_eq_of_mem_set member
    · exact known.sent other before
    · exact same ▸ known.sent operation (List.mem_of_getElem? waiting)
  cases stepped with
  | setFilter | setOnlyChanged | toggleRepo | selectRepos | load | operateRefused | serveSources
  | serveHealth | loseSources | loseHealth | others => exact ⟨known.stored, known.sent⟩
  | clickAdmin entered =>
      refine ⟨fun token given => ?_, known.sent⟩
      obtain before | ⟨t, rfl, trimmed⟩ := Page.stored_clickAdmin given
      · exact known.stored token before
      · exact .inr ⟨t, List.mem_append_right _ List.mem_cons_self, trimmed⟩
  | operate allowed =>
      refine ⟨known.stored, fun operation member => ?_⟩
      obtain before | last := List.mem_append.mp member
      · exact known.sent operation before
      · obtain rfl := List.mem_singleton.mp last
        exact ⟨session.page.adminToken,
          fun filled => known.stored _ (Page.stored_of_adminToken filled), allowed⟩
  | serveOperation _ _ waiting _ _ => exact ⟨known.stored, among waiting rfl⟩
  | answerElsewhere _ waiting _ _ => exact ⟨known.stored, among waiting rfl⟩
  | loseOperation _ waiting => exact ⟨known.stored, among waiting rfl⟩
  | loaded => exact ⟨fun token given => known.stored token (Page.stored_load given), known.sent⟩
  | operated =>
      exact ⟨known.stored, fun operation member =>
        known.sent operation (List.mem_of_mem_eraseIdx member)⟩
  | failed =>
      exact ⟨fun token given => known.stored token (Page.stored_relock given),
        fun operation member => known.sent operation (List.mem_of_mem_eraseIdx member)⟩

end Session.Holds

/-- The loads present nothing. -/
theorem not_presents_of_no_headers {request : Request} (bare : request.headers = []) :
    ¬ request.Presents settings := by
  rintro ⟨configured, _, _, presented⟩
  have allowed : adminHeaders "" = some [] := if_pos rfl
  exact (presentedToken_of_adminHeaders allowed bare presented).1 rfl

/-- An answer that is not from the server, or is refused, leaves everything refused. -/
theorem Session.Refused.set (refused : session.Refused) {index : ℕ} {operation : Operation}
    {answer : Answer}
    (fails : ∀ path, operation.call.path = some path → (operation.request path).mutating = true →
      ∀ response, answer = .response response → 400 ≤ response.statusCode) :
    { session with
      operations :=
        session.operations.set index { operation with answer := some answer } }.Refused := by
  intro other member path routed mutating response answered
  obtain before | rfl := List.mem_or_eq_of_mem_set member
  · exact refused other before path routed mutating response answered
  · exact fails path routed mutating response (Option.some.inj answered)

/-- While no token is the configured one, the server's answers leave it as it is. -/
theorem Session.Holds.step_powerless (holds : session.Holds tokens)
    (powerless : Powerless session.service.settings tokens) (refused : session.Refused)
    (stepped : Step app browser isoformat session act after) :
    after.Refused ∧ (act ≠ .others → after.service = session.service) := by
  cases stepped with
  | setFilter | setOnlyChanged | toggleRepo | selectRepos | load | clickAdmin | operateRefused
  | loseSources | loseHealth | loaded => exact ⟨refused, fun _ => rfl⟩
  | operate _ =>
      refine ⟨fun operation member path routed mutating response answered => ?_, fun _ => rfl⟩
      obtain before | last := List.mem_append.mp member
      · exact refused operation before path routed mutating response answered
      · obtain rfl := List.mem_singleton.mp last
        cases answered
  | serveSources world now _ _ =>
      exact ⟨refused, fun _ => (serve_of_locked (not_presents_of_no_headers rfl) app world now).1⟩
  | serveHealth world now _ _ =>
      exact ⟨refused, fun _ => (serve_of_locked (not_presents_of_no_headers rfl) app world now).1⟩
  | serveOperation world now waiting _ routed =>
      have locked := holds.not_presents powerless (List.mem_of_getElem? waiting)
      refine ⟨refused.set ?_, fun _ => (serve_of_locked (locked _) app world now).1⟩
      intro path other mutating response answered
      cases answered
      obtain rfl := Option.some.inj (routed.symm.trans other)
      exact (serve_of_locked (locked _) app world now).2 mutating
  | answerElsewhere response _ _ outside =>
      refine ⟨refused.set ?_, fun _ => rfl⟩
      intro path routed
      rw [outside] at routed
      cases routed
  | loseOperation message _ =>
      refine ⟨refused.set ?_, fun _ => rfl⟩
      intro path _ _ response answered
      cases answered
  | operated | failed =>
      exact ⟨fun operation member => refused operation (List.mem_of_mem_eraseIdx member),
        fun _ => rfl⟩
  | others => exact ⟨refused, fun own => absurd rfl own⟩

/-- What every run keeps; the last part is for the runs in which the page comes to hold no
token of the server. -/
structure Session.Kept (browser : Browser) (isoformat : Time → String) (stored : Option String)
    (service : PulseService codec) (acts : List Act) (session : Session codec) : Prop where
  sound : session.Sound browser isoformat service.settings acts
  holds : session.Holds (heldTokens browser stored acts)
  refused : Powerless service.settings (heldTokens browser stored acts) →
    session.Refused ∧ (.others ∉ acts → session.service = service)

private theorem Session.Kept.step {stored : Option String} {service : PulseService codec}
    (kept : session.Kept browser isoformat stored service acts)
    (stepped : Step app browser isoformat session act after) :
    after.Kept browser isoformat stored service (acts ++ [act]) where
  sound := kept.sound.step stepped
  holds := kept.holds.step stepped
  refused powerless := by
    have before : Powerless service.settings (heldTokens browser stored acts) :=
      fun token member => powerless token (heldTokens_mono stored acts act member)
    obtain ⟨earlier, same⟩ := kept.refused before
    obtain ⟨later, still⟩ :=
      kept.holds.step_powerless (kept.sound.configured ▸ before) earlier stepped
    refine ⟨later, fun alone => ?_⟩
    rw [List.mem_append, List.mem_singleton, not_or] at alone
    exact (still (Ne.symm alone.2)).trans (same alone.1)

/-- **Without the token the dashboard is powerless.** If neither the stored token nor anything
entered is, stripped, the token of the server, then in every run, however often operations
are tried and whatever else happens: whatever request of an operation the server answers
leaves it as it is, no operation that would change it succeeds, and if nobody else has used
the server it is the one there was. -/
theorem session_powerless (storage : Bool) (stored : Option String) (service : PulseService codec)
    (run : Transition.Run (Step app browser isoformat) (.opening storage stored service) acts
      session)
    (powerless : Powerless service.settings (heldTokens browser stored acts)) :
    (∀ operation ∈ session.operations, ∀ path world now,
      (app.serve world now (operation.request path) session.service).2 = session.service) ∧
    session.Refused ∧ (.others ∉ acts → session.service = service) := by
  have initial : (Session.opening storage stored service).Kept browser isoformat stored service
      [] :=
    ⟨sound_opening storage stored service, holds_opening storage stored service,
      fun _ => ⟨by simp [Session.Refused, Session.opening], fun _ => rfl⟩⟩
  have kept : session.Kept browser isoformat stored service acts :=
    run.traceInvariant (fun acts session => session.Kept browser isoformat stored service acts)
      initial fun _ _ _ _ kept stepped => kept.step stepped
  refine ⟨fun operation member path world now => ?_, kept.refused powerless⟩
  have locked := kept.holds.not_presents powerless member path
  exact (serve_of_locked (kept.sound.configured ▸ locked) app world now).1

private theorem powerless_guess (acts : List Act)
    (unasked : ∀ entered, .clickAdmin entered ∉ acts) :
    Powerless {} (heldTokens default (some "guess") acts) := by
  rintro token (stored | ⟨entered, clicked, _⟩)
  · cases stored
    decide
  · exact absurd clicked (unasked _)

/-- A page that holds a wrong token syncs in vain. -/
theorem session_powerless_guess :
    ∃ (acts : List Act) (session : Session plainCodec),
      Transition.Run (Step plainApp default fun _ => "")
        (.opening true (some "guess") discoveredSite.service) acts session ∧
      acts.length = 2 ∧ session.Refused ∧ session.service = discoveredSite.service := by
  have opened : Transition.Run (Step plainApp default fun _ => "")
      (.opening true (some "guess") discoveredSite.service) []
      (.opening true (some "guess") discoveredSite.service) := .nil
  have allowed : adminHeaders "guess" = some [("Authorization", "Bearer guess")] := by decide
  let asked : Operation := { call := .sync, headers := [("Authorization", "Bearer guess")] }
  have waiting : [asked][0]? = some asked := rfl
  have answered := (opened.snoc (.operate allowed)).snoc
    (.serveOperation firstStart 7 waiting rfl rfl)
  obtain ⟨_, refused, same⟩ := session_powerless true (some "guess") discoveredSite.service
    answered (powerless_guess _ (by simp))
  exact ⟨_, _, answered, rfl, refused, same (by simp)⟩

end Powerless

end BiothingsPulse.Dashboard
