import BiothingsPulse.Api.Routes
import BiothingsPulse.Python.Text

/-!
# Requests, the admin guard and routing

A request to the API as it is routed: the path below `/api` in segments, the decoded
query and the header lines. What the framework answers by itself to a path that is
no route of the API is a parameter of the application.
-/

namespace BiothingsPulse

structure Request where
  method : String
  path : List String
  query : List (String × String) := []
  headers : List (String × String) := []
  deriving DecidableEq, Repr

/-- A query value as a boolean. -/
def parseBool (text : String) : Option Bool :=
  if lowered text ∈ ["1", "t", "true", "y", "yes", "on"].map String.toList then some true
  else if lowered text ∈ ["0", "f", "false", "n", "no", "off"].map String.toList then some false
  else none

namespace Request

variable (request : Request)

/-- `request.headers.get(name)`: the first line of that name, in any case. -/
def header (name : String) : Option String :=
  (request.headers.find? fun line => lowered line.1 = lowered name).map Prod.snd

/-- The token a request presents: the rest of a bearer authorization, or otherwise
the admin header. -/
def presentedToken : Option String :=
  let auth := (request.header "Authorization").getD ""
  if (lowered auth).take 7 = "bearer ".toList then
    some (String.ofList (pyStrip (auth.toList.drop 7)))
  else request.header "X-Admin-Token"

/-- The last value of a query parameter. -/
def parameter (name : String) : Option String :=
  ((request.query.filter fun pair => pair.1 = name).getLast?).map Prod.snd

/-- The validated `refresh` parameter, false by default. -/
def refresh : Option Bool :=
  match request.parameter "refresh" with
  | none => some false
  | some text => parseBool text

end Request

/-- `secrets.compare_digest` on strings, which must be ASCII. -/
def compareDigest (first second : String) : Except PyExc Bool :=
  if first.toList.all (fun c => c.toNat < 128) ∧ second.toList.all (fun c => c.toNat < 128) then
    .ok (first = second)
  else .error ⟨.ordinary, "TypeError",
    "comparing strings with non-ASCII characters is not supported"⟩

def missingToken : RouteExc :=
  .http 401 "Missing or invalid admin token." [("WWW-Authenticate", "Bearer")]

/-- Authorize a mutating operation. -/
def verifyAdmin (settings : Settings) (request : Request) : Except RouteExc Unit :=
  match settings.adminToken with
  | none => .error (.http 403
      "Admin operations are disabled. Set PULSE_ADMIN_TOKEN to enable them." [])
  | some token =>
      if token = "" then .error (.http 403
        "Admin operations are disabled. Set PULSE_ADMIN_TOKEN to enable them." [])
      else
        match request.presentedToken with
        | none => .error missingToken
        | some presented =>
            if presented = "" then .error missingToken
            else
              match compareDigest presented token with
              | .error exc => .error (.unhandled exc)
              | .ok false => .error missingToken
              | .ok true => .ok ()

/-- The routes of the API with their path parameters. -/
inductive Route where
  | health
  | sources
  | catalog
  | source (repo plugin : String)
  | check (repo plugin : String)
  | adminSync
  | adminRefresh
  deriving DecidableEq, Repr

namespace Route

def method : Route → String
  | .check _ _ | .adminSync | .adminRefresh => "POST"
  | _ => "GET"

/-- The route of a path; a path parameter is a nonempty segment. -/
def ofPath : List String → Option Route
  | ["health"] => some .health
  | ["sources"] => some .sources
  | ["catalog"] => some .catalog
  | ["sources", repo, plugin] =>
      if repo ≠ "" ∧ plugin ≠ "" then some (.source repo plugin) else none
  | ["sources", repo, plugin, "check"] =>
      if repo ≠ "" ∧ plugin ≠ "" then some (.check repo plugin) else none
  | ["admin", "sync"] => some .adminSync
  | ["admin", "refresh"] => some .adminRefresh
  | _ => none

end Route

/-- The parts of the application that are not the service's own. -/
structure App where
  croniter : Croniter
  version : String
  /-- The framework's answer to a path that is no route of the API. -/
  unrouted : Request → Response

/-- The response to what a handler returns or raises. -/
def respond : Except RouteExc Body → Response
  | .ok body => { statusCode := 200, body := body }
  | .error (.http statusCode detail headers) =>
      { statusCode := statusCode, headers := headers, body := .detail detail }
  | .error (.unhandled _) => { statusCode := 500, body := .framework }

namespace App

variable {codec : StateCodec} (app : App) (world : World) (now : Time)

/-- An operation behind the admin guard. -/
def guarded (request : Request)
    (operation : PulseService codec → Except RouteExc Body × PulseService codec)
    (service : PulseService codec) : Response × PulseService codec :=
  match verifyAdmin service.settings request with
  | .error exc => (respond (.error exc), service)
  | .ok _ =>
      let (outcome, service) := operation service
      (respond outcome, service)

/-- The handlers of the routes. -/
def run (request : Request) (route : Route) (service : PulseService codec) :
    Response × PulseService codec :=
  match route with
  | .health => (respond (.ok (service.health app.version)), service)
  | .sources => (respond (service.sourcesBody app.croniter now), service)
  | .catalog => (respond (.ok service.catalogBody), service)
  | .source repo plugin =>
      match request.refresh with
      | none => ({ statusCode := 422, body := .framework }, service)
      | some true =>
          guarded request (PulseService.forcedSource app.croniter world now repo plugin) service
      | some false => (respond (service.cachedSource app.croniter now repo plugin), service)
  | .check repo plugin =>
      guarded request (PulseService.forcedSource app.croniter world now repo plugin) service
  | .adminSync => guarded request (PulseService.adminSync world) service
  | .adminRefresh => guarded request (PulseService.adminRefresh world) service

/-- Answer one request. -/
def serve (request : Request) (service : PulseService codec) : Response × PulseService codec :=
  match Route.ofPath request.path with
  | none => (app.unrouted request, service)
  | some route =>
      if request.method = route.method then app.run world now request route service
      else
        ({ statusCode := 405, headers := [("Allow", route.method)], body := .framework }, service)

end App

/-- A request with the world and the time in which it is answered. -/
structure Exchange where
  request : Request
  world : World
  now : Time

/-- Answer requests one after the other. -/
def App.serveAll {codec : StateCodec} (app : App) :
    List Exchange → PulseService codec → List Response × PulseService codec
  | [], service => ([], service)
  | exchange :: rest, service =>
      let (response, service) := app.serve exchange.world exchange.now exchange.request service
      let (responses, service) := app.serveAll rest service
      (response :: responses, service)

end BiothingsPulse
