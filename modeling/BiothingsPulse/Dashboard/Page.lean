import BiothingsPulse.Dashboard.Addresses

/-!
# The page of the dashboard

What the script keeps and shows, and what it makes of the answers and of what the user does.
The script runs in turns, and between two of them nothing of the page changes. The token is
kept in the storage of the browser, which may not be available; no other page changes it.
-/

namespace BiothingsPulse

namespace Dashboard

/-- What comes of a request: a response, or the message of the exception that is raised. -/
inductive Answer where
  | response (response : Response)
  | failed (message : String)

namespace Answer

/-- What `api` returns, or the message of what it throws. -/
def result (path : String) : Answer → Except String Body
  | .response given =>
      if 200 ≤ given.statusCode ∧ given.statusCode < 300 then .ok given.body
      else .error (path ++ " → " ++ toString given.statusCode)
  | .failed message => .error message

/-- The response of a server that does not accept the token. -/
def denies : Answer → Bool
  | .response given => given.statusCode = 401 || given.statusCode = 403
  | .failed _ => false

/-- What the answer about the health says of the admin operations; no answer says no. -/
def enables (health : Answer) : Bool :=
  match health.result "/api/health" with
  | .ok (.health _ _ enabled) => enabled
  | _ => false

end Answer

section Payloads

variable (isoformat : Time → String)

/-- A source as it stands in the JSON of an answer. -/
def SourcePayload.ofStatus (status : SourceStatus) : SourcePayload where
  repo := status.repo
  plugin := status.plugin
  pluginType := status.pluginType.text
  sourceUrl := status.sourceUrl
  currentVersion := status.currentVersion
  currentVersionAt := status.currentVersionAt.map isoformat
  lastVersion := status.lastVersion
  lastVersionAt := status.lastVersionAt.map isoformat
  downloadUrls := some status.downloadUrls
  status := status.status.text
  error := status.error
  schedule := status.schedule
  checkedAt := status.checkedAt.map isoformat
  nextCheckAt := status.nextCheckAt.map isoformat

/-- `sources.sources || []`. -/
def sourcesOf : Body → List SourcePayload
  | .sources _ sources => sources.map (SourcePayload.ofStatus isoformat)
  | _ => []

end Payloads

/-- The browser at another time. -/
def Browser.at (browser : Browser) (now : Int) : Browser := { browser with now := now }

structure Page where
  view : View
  /-- Whether the server has admin operations enabled. -/
  adminEnabled : Bool
  /-- Whether `localStorage` can be used, and the token in it. -/
  storage : Bool
  stored : Option String
  /-- The class of the body. -/
  admin : Bool
  /-- The classes and the title of the admin button. -/
  active : Bool
  disabled : Bool
  title : String
  repos : Html
  rows : Html

namespace Page

def loadingRow : Html := [.markup "<tr><td colspan=\"6\" class=\"empty\">Loading…</td></tr>"]

def failedRow (message : String) : Html :=
  [.markup "<tr><td colspan=\"6\" class=\"empty\">Failed to load: ", escaped message,
    .markup "</td></tr>"]

section Admin

variable (page : Page)

def adminToken : String := if page.storage then page.stored.getD "" else ""

/-- Only unlocked if the server allows it. -/
def unlocked : Bool := page.adminEnabled && page.adminToken ≠ ""

def adminTitle : String :=
  if !page.adminEnabled then
    "Admin disabled on the server (set PULSE_ADMIN_TOKEN to enable)"
  else if page.unlocked then "Admin unlocked — click to lock"
  else "Enter admin token to enable admin actions"

def renderAdmin : Page :=
  { page with
    admin := page.unlocked
    active := page.unlocked
    disabled := !page.adminEnabled
    title := page.adminTitle }

def setAdmin (t : String) : Page :=
  renderAdmin
    (if page.storage then { page with stored := if t ≠ "" then some t else none } else page)

/-- Relock on an authorization failure. -/
def relock (answer : Answer) : Page := if answer.denies then page.setAdmin "" else page

/-- A click on the admin button, and what is entered when the token is asked for. -/
def clickAdmin (browser : Browser) (entered : Option String) : Page :=
  if !page.adminEnabled then page
  else if page.adminToken ≠ "" then page.setAdmin ""
  else
    match truthy entered with
    | some t => page.setAdmin (browser.trim t)
    | none => page

end Admin

section Rendering

variable (browser : Browser) (page : Page)

def drawRows : Page := { page with rows := renderRows browser page.view }

def drawRepos : Page := { page with repos := renderRepos browser page.view }

def render : Page := (page.drawRepos browser).drawRows browser

/-- Typing in the filter. -/
def setFilter (text : String) : Page :=
  { page with view := { page.view with filter := text } }.drawRows browser

def setOnlyChanged (checked : Bool) : Page :=
  { page with view := { page.view with onlyChanged := checked } }.drawRows browser

/-- Hide these repositories and show the others. -/
def hide (repos : List String) : Page :=
  { page with view := { page.view with hiddenRepos := repos } }.render browser

/-- A click on the chip of a repository. -/
def toggleRepo (r : String) : Page :=
  page.hide browser
    (if r ∈ page.view.hiddenRepos then page.view.hiddenRepos.filter (· ≠ r)
      else page.view.hiddenRepos ++ [r])

/-- The controls of the repositories: all, or none of those in the data. -/
def selectRepos (all : Bool) : Page :=
  page.hide browser (if all then [] else (page.view.data.map SourcePayload.repo).eraseDups)

/-- The end of loading, with the answers about the sources and about the health. -/
def load (isoformat : Time → String) (sources health : Answer) : Page :=
  match sources.result "/api/sources" with
  | .error message => { page with rows := failedRow message }
  | .ok body =>
      let page := { page with
        view := { page.view with data := sourcesOf isoformat body }
        adminEnabled := health.enables }
      -- A token that cannot work is dropped.
      let page :=
        if !page.adminEnabled && page.adminToken ≠ "" then page.setAdmin "" else page.renderAdmin
      page.render browser

end Rendering

/-- The page before anything is loaded. -/
def opening (storage : Bool) (stored : Option String) : Page :=
  renderAdmin
    { view := ⟨[], [], "", false⟩
      adminEnabled := false
      storage := storage
      stored := stored
      admin := false
      active := false
      disabled := false
      title := "Admin access"
      repos := []
      rows := loadingRow }

/-- The admin controls are as the token and the server's answer have it. -/
structure ShowsAdmin (page : Page) : Prop where
  admin : page.admin = page.unlocked
  active : page.active = page.unlocked
  disabled : page.disabled = !page.adminEnabled
  title : page.title = page.adminTitle

/-- What the table of the sources is to show. -/
inductive Drawn where
  | loading
  | failed (message : String)
  /-- The rows of the data and the controls, as drawn at the given time. -/
  | rows (now : Int)

def Drawn.html (browser : Browser) (view : View) : Drawn → Html
  | .loading => loadingRow
  | .failed message => failedRow message
  | .rows now => renderRows (browser.at now) view

/-- The chips are those of the data and the hidden repositories, and the table shows what it
is to show of the data and the controls. -/
structure ShowsSources (browser : Browser) (drawn : Drawn) (page : Page) : Prop where
  repos : page.repos = renderRepos browser page.view
  rows : page.rows = drawn.html browser page.view

section Admin

variable {page : Page}

/-- Rendering the admin controls shows what is enabled and unlocked. -/
theorem showsAdmin_renderAdmin (page : Page) : page.renderAdmin.ShowsAdmin := ⟨rfl, rfl, rfl, rfl⟩

private theorem showsAdmin_setAdmin (page : Page) (t : String) : (page.setAdmin t).ShowsAdmin :=
  showsAdmin_renderAdmin _

/-- The admin controls do not depend on what is shown of the sources. -/
theorem ShowsAdmin.show (shows : page.ShowsAdmin) (view : View) (repos rows : Html) :
    { page with view := view, repos := repos, rows := rows }.ShowsAdmin :=
  ⟨shows.admin, shows.active, shows.disabled, shows.title⟩

/-- Filtering leaves the admin controls as they are. -/
theorem ShowsAdmin.setFilter (shows : page.ShowsAdmin) (browser : Browser) (text : String) :
    (page.setFilter browser text).ShowsAdmin := shows.show _ _ _

/-- Showing the changed sources alone leaves the admin controls as they are. -/
theorem ShowsAdmin.setOnlyChanged (shows : page.ShowsAdmin) (browser : Browser)
    (checked : Bool) : (page.setOnlyChanged browser checked).ShowsAdmin := shows.show _ _ _

/-- Hiding repositories leaves the admin controls as they are. -/
theorem ShowsAdmin.hide (shows : page.ShowsAdmin) (browser : Browser) (repos : List String) :
    (page.hide browser repos).ShowsAdmin := shows.show _ _ _

/-- After an action the admin controls show whether the page was locked again. -/
theorem ShowsAdmin.relock (shows : page.ShowsAdmin) (answer : Answer) :
    (page.relock answer).ShowsAdmin := by
  unfold Page.relock
  split
  · exact showsAdmin_setAdmin page ""
  · exact shows

/-- After a click the admin controls show whether the page is unlocked. -/
theorem ShowsAdmin.clickAdmin (shows : page.ShowsAdmin) (browser : Browser)
    (entered : Option String) : (page.clickAdmin browser entered).ShowsAdmin := by
  unfold Page.clickAdmin
  split
  · exact shows
  · split
    · exact showsAdmin_setAdmin page ""
    · split
      · exact showsAdmin_setAdmin page _
      · exact shows

private theorem setAdmin_kept (page : Page) (t : String) :
    (page.setAdmin t).view = page.view ∧ (page.setAdmin t).adminEnabled = page.adminEnabled := by
  unfold Page.setAdmin
  split
  · exact ⟨rfl, rfl⟩
  · exact ⟨rfl, rfl⟩

/-- Neither a refused token nor a click changes the view or what is known of the server. -/
theorem relock_kept (page : Page) (answer : Answer) :
    (page.relock answer).view = page.view ∧
      (page.relock answer).adminEnabled = page.adminEnabled := by
  unfold Page.relock
  split
  · exact setAdmin_kept page ""
  · exact ⟨rfl, rfl⟩

/-- A click on the admin control concerns the token alone. -/
theorem clickAdmin_kept (browser : Browser) (page : Page) (entered : Option String) :
    (page.clickAdmin browser entered).view = page.view ∧
      (page.clickAdmin browser entered).adminEnabled = page.adminEnabled := by
  unfold Page.clickAdmin
  split
  · exact ⟨rfl, rfl⟩
  · split
    · exact setAdmin_kept page ""
    · split
      · exact setAdmin_kept page _
      · exact ⟨rfl, rfl⟩

/-- The token that the page sends is the stored one. -/
theorem stored_of_adminToken (filled : page.adminToken ≠ "") :
    page.stored = some page.adminToken := by
  unfold Page.adminToken at filled ⊢
  cases available : page.storage with
  | false =>
      rw [available] at filled
      exact absurd rfl filled
  | true =>
      cases stored : page.stored with
      | none =>
          rw [available, stored] at filled
          exact absurd rfl filled
      | some token => rfl

/-- What is stored then is the new token, or what was stored before. -/
theorem stored_setAdmin {t token : String} (stored : (page.setAdmin t).stored = some token) :
    page.stored = some token ∨ token = t ∧ t ≠ "" := by
  unfold Page.setAdmin at stored
  split at stored
  · change (if t ≠ "" then some t else none) = some token at stored
    split at stored
    · exact .inr ⟨(Option.some.inj stored).symm, ‹_›⟩
    · cases stored
  · exact .inl stored

private theorem stored_lock {token : String} (stored : (page.setAdmin "").stored = some token) :
    page.stored = some token :=
  (stored_setAdmin stored).resolve_right fun ⟨_, filled⟩ => filled rfl

/-- An action stores no token. -/
theorem stored_relock {answer : Answer} {token : String}
    (stored : (page.relock answer).stored = some token) : page.stored = some token := by
  unfold Page.relock at stored
  split at stored
  · exact stored_lock stored
  · exact stored

/-- A click stores what was entered, trimmed. -/
theorem stored_clickAdmin {browser : Browser} {entered : Option String} {token : String}
    (stored : (page.clickAdmin browser entered).stored = some token) :
    page.stored = some token ∨ ∃ t, entered = some t ∧ token = browser.trim t := by
  unfold Page.clickAdmin at stored
  split at stored
  · exact .inl stored
  · split at stored
    · exact .inl (stored_lock stored)
    · split at stored
      · rename_i t filled
        obtain before | ⟨same, _⟩ := stored_setAdmin stored
        · exact .inl before
        · exact .inr ⟨t, (Option.filter_eq_some_iff.mp filled).1, same⟩
      · exact .inl stored

/-- A load stores no token. -/
theorem stored_load {browser : Browser} {isoformat : Time → String} {sources health : Answer}
    {token : String} (stored : (page.load browser isoformat sources health).stored = some token) :
    page.stored = some token := by
  unfold Page.load at stored
  split at stored
  · exact stored
  · dsimp only at stored
    split at stored
    · change (Page.setAdmin _ "").stored = some token at stored
      have before := stored_lock stored
      exact before
    · exact stored

/-- After a load the admin controls show what the server last said. -/
theorem ShowsAdmin.load (shows : page.ShowsAdmin) (browser : Browser) (isoformat : Time → String)
    (sources health : Answer) : (page.load browser isoformat sources health).ShowsAdmin := by
  unfold Page.load
  split
  · exact shows.show _ _ _
  · dsimp only
    split
    · exact (showsAdmin_setAdmin _ "").show _ _ _
    · exact (showsAdmin_renderAdmin _).show _ _ _

end Admin

section Sources

variable {browser : Browser} {drawn : Drawn} {page : Page}

/-- Rendering draws the rows of the data and the controls. -/
theorem showsSources_render (browser : Browser) (now : Int) (page : Page) :
    (page.render (browser.at now)).ShowsSources browser (.rows now) :=
  ⟨rfl, rfl⟩

/-- Before the first load the page says that it loads. -/
theorem showsSources_opening (browser : Browser) (storage : Bool) (stored : Option String) :
    (opening storage stored).ShowsSources browser .loading where
  repos := by simp [opening, renderAdmin, renderRepos, Dashboard.repos]
  rows := rfl

/-- What is shown of the sources does not depend on the admin controls. -/
theorem ShowsSources.setAdmin (shows : page.ShowsSources browser drawn) (t : String) :
    (page.setAdmin t).ShowsSources browser drawn := by
  unfold Page.setAdmin
  split
  · exact ⟨shows.repos, shows.rows⟩
  · exact ⟨shows.repos, shows.rows⟩

/-- An action leaves the rows as they are. -/
theorem ShowsSources.relock (shows : page.ShowsSources browser drawn) (answer : Answer) :
    (page.relock answer).ShowsSources browser drawn := by
  unfold Page.relock
  split
  · exact shows.setAdmin ""
  · exact shows

/-- A click on the admin control leaves the rows as they are. -/
theorem ShowsSources.clickAdmin (shows : page.ShowsSources browser drawn)
    (entered : Option String) : (page.clickAdmin browser entered).ShowsSources browser drawn := by
  unfold Page.clickAdmin
  split
  · exact shows
  · split
    · exact shows.setAdmin ""
    · split
      · exact shows.setAdmin _
      · exact shows

/-- Rows that are drawn again show the view, while the chips depend on none of its filters. -/
theorem ShowsSources.setFilter (shows : page.ShowsSources browser drawn) (now : Int)
    (text : String) :
    (page.setFilter (browser.at now) text).ShowsSources browser (.rows now) :=
  ⟨shows.repos, rfl⟩

/-- The control that shows the changed sources alone draws the rows again. -/
theorem ShowsSources.setOnlyChanged (shows : page.ShowsSources browser drawn) (now : Int)
    (checked : Bool) :
    (page.setOnlyChanged (browser.at now) checked).ShowsSources browser (.rows now) :=
  ⟨shows.repos, rfl⟩

/-- A load that fails only says so. -/
theorem load_of_error {message : String} {sources : Answer}
    (read : sources.result "/api/sources" = .error message) (browser : Browser) (page : Page)
    (isoformat : Time → String) (health : Answer) :
    page.load browser isoformat sources health = { page with rows := failedRow message } := by
  rw [Page.load, read]

/-- Once the sources are there, a load sets the data and what is known of the server. -/
theorem load_of_ok {body : Body} {sources : Answer}
    (read : sources.result "/api/sources" = .ok body) (browser : Browser) (page : Page)
    (isoformat : Time → String) (health : Answer) :
    (page.load browser isoformat sources health).view.data = sourcesOf isoformat body ∧
      (page.load browser isoformat sources health).adminEnabled = health.enables := by
  unfold Page.load
  rw [read]
  dsimp only
  split
  · obtain ⟨view, enabled⟩ := setAdmin_kept
      { page with
        view := { page.view with data := sourcesOf isoformat body }
        adminEnabled := health.enables } ""
    exact ⟨congrArg View.data view, enabled⟩
  · exact ⟨rfl, rfl⟩

/-- Once the sources are there, the rows are drawn from them. -/
theorem rows_load_of_ok {body : Body} {sources : Answer}
    (read : sources.result "/api/sources" = .ok body) (browser : Browser) (page : Page)
    (isoformat : Time → String) (health : Answer) :
    (page.load browser isoformat sources health).rows =
      renderRows browser (page.load browser isoformat sources health).view := by
  unfold Page.load
  rw [read]
  rfl

/-- A load that reads the sources draws their rows. -/
theorem showsSources_load_of_ok {body : Body} {sources : Answer}
    (read : sources.result "/api/sources" = .ok body) (browser : Browser) (now : Int) (page : Page)
    (isoformat : Time → String) (health : Answer) :
    (page.load (browser.at now) isoformat sources health).ShowsSources browser (.rows now) := by
  rw [Page.load, read]
  exact showsSources_render browser now _

end Sources

end Page

end Dashboard

end BiothingsPulse
