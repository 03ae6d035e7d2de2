import ClusterBrowser.Browse.Browser
import ClusterBrowser.Http.Cors
import ClusterBrowser.Http.Parameters
import ClusterBrowser.Http.Redirection
import ClusterBrowser.Json.View
import ClusterBrowser.Settings.Basic

/-!
# The application

* `Resource`, `Application.routes`: the resources of the application and the patterns of their paths.
* `Application.respond`: the answer to a request.
-/

namespace ClusterBrowser

inductive Resource where
  | health | ping | browse
  deriving DecidableEq, Repr

/-- A resource and the pattern of its paths. -/
structure ResourceRoute where
  pattern : Pattern
  resource : Resource
  deriving DecidableEq, Repr

structure Application where
  settings : Settings

namespace Application

variable {σ : Type}

def version : String := "0.1.0"

/-- The URL of the server, which targets are below. -/
def server : Url :=
  { scheme := "http".toList, user := [], host := "test".toList, port := none, path := [], query := none }

/-! ## Routes -/

def resources : List (String × Resource) := [("/health", .health), ("/ping", .ping), ("/browse", .browse)]

/-- The routes of the application. Its own path may be empty; else it begins with a slash and does not end with one. -/
def routes (app : Application) : Except HttpError (List ResourceRoute) := do
  let base := app.settings.apiPrefix.toList
  if !base.isEmpty && (base.head? != some '/' || base.getLast? = some '/') then .error .badPath
  resources.mapM fun (name, resource) => do return { pattern := ← Pattern.parse (base ++ name.toList), resource }

/-- The first route that a path takes, with what the path puts into its holes. -/
def findRoute? (routes : List ResourceRoute) (path : List Char) :
    Except HttpError (Option (ResourceRoute × List Filling)) :=
  match routes with
  | [] => .ok none
  | route :: rest =>
    match route.pattern.match? path with
    | none => findRoute? rest path
    | some fillings => do
      fillings.forM Filling.check
      return some (route, fillings)

/-! ## Answers -/

/-- An answer that only explains its status. -/
def detail (status : Nat) (explanation : Json) : Response := { status, body := .json (.obj [("detail", explanation)]) }

/-- The client in service, without which a request fails. -/
def inService : Option (Cluster σ) → Action σ (Cluster σ)
  | some c => return c
  | none => throw .noClient

/-- The state of the application and of the cluster. -/
def healthReport (app : Application) (reachable : Bool) : Json :=
  .obj [("status", .str (if reachable then "ok" else "degraded")), ("version", .str version),
    ("service", .str "nsbrowse"), ("mode", .str app.settings.mode), ("master_reachable", .bool reachable)]

def content (app : Application) (c : Option (Cluster σ)) (ps : Parameters) : Resource → Action σ Response
  | .ping => return { body := .json (.obj [("status", .str "ok")]) }
  | .health => do
    let c ← inService c
    return { body := .json (app.healthReport (← c.ping)) }
  | .browse => do
    let c ← inService c
    match ← Action.ofExcept .http ps.complaints with
    | [] => return { body := .json (← app.settings.browser.browse c ps.request).toJson }
    | complaints => return detail 422 (.arr complaints)

/-- The answer for a path that is no resource: a redirection if the path is one but for slashes at its end. -/
def notFound (routes : List ResourceRoute) (url : Url) (h : Headers) : Except Failure Response := do
  let path := url.decodedPath.toList
  let other := Redirection.otherSpelling path
  let found ← if path = ['/'] then pure none else (findRoute? routes other).mapError Failure.http
  if found.isSome then Redirection.response url h other else return detail 404 (.str "Not Found")

def answer (app : Application) (c : Option (Cluster σ)) (routes : List ResourceRoute) (url : Url) (r : Incoming) :
    Action σ Response := do
  match ← Action.ofExcept .http (findRoute? routes url.decodedPath.toList) with
  | none => Action.ofExcept id (notFound routes url r.headers)
  | some (route, fillings) =>
    if r.verb = "GET" then app.content c ⟨route.pattern, fillings, url.parameters⟩ route.resource
    else return detail 405 (.str "Method Not Allowed")

def originPolicy (app : Application) : OriginPolicy := ⟨app.settings.corsOrigins⟩

def locate (r : Incoming) : Except Failure Url := do
  let url ← (server.resolve r.target.toList).mapError Failure.url
  if !r.headers.isAscii then .error (.http .headerNotAscii)
  if !r.headers.has "host" then url.checkHost.mapError Failure.url
  let _ ← url.shownAuthority.mapError Failure.url
  return url

/-- The answer to a request. Requests for permission are answered at once, and an answer to `HEAD` has no body. -/
def respond (app : Application) (c : Option (Cluster σ)) (r : Incoming) : Action σ Response := do
  let routes ← Action.ofExcept .http app.routes
  let url ← Action.ofExcept id (locate r)
  if OriginPolicy.isPreflight r then return app.originPolicy.preflight r.headers
  else
    let response ← app.answer c routes url r
    return { response with
      body := if r.verb = "HEAD" then .text "" else response.body
      allowedOrigin := app.originPolicy.granted? r.headers }

end Application

end ClusterBrowser
