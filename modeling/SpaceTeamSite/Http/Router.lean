import SpaceTeamSite.Site.Api
import SpaceTeamSite.Http.Query
import SpaceTeamSite.Http.Status
import SpaceTeamSite.Http.Target

/-!
# Routing requests

The server answers four paths, each to `GET` (and to `HEAD`, with the same status and
headers and no body):

* `/`: the page, as HTML;
* `/api/launches` and `/api/apod`: the two widgets after a fresh page load, as JSON;
* `/api/health`: that the server is up, and for how long.

A request's target is read by `Target.parse`; its path is matched exactly as written. Another path is not found whatever the method; a
known path with another method is refused with 405. A query string with a repeated
parameter is refused with 400 and a plain-text reason. Only these refusals have no
content type: they have no body either.
-/

namespace SpaceTeamSite.Http

open Site

/-- An HTTP response: status, content type and body. -/
structure Response where
  status : Nat
  contentType : Option String
  body : String
  deriving DecidableEq, Repr

def htmlType : String := "text/html; charset=utf-8"
def jsonType : String := "application/json"
def plainType : String := "text/plain; charset=utf-8"

/-- The routes the server knows. -/
inductive Route where
  | page
  | launches
  | picture
  | health
  deriving DecidableEq, Repr

/-- The route of a path, matched exactly. -/
def routeOf? : String → Option Route
  | "/" => some .page
  | "/api/launches" => some .launches
  | "/api/apod" => some .picture
  | "/api/health" => some .health
  | _ => none

/-- The answer of a route to a GET with a page query, given the server's uptime. -/
def answer (s : Setup) (uptimeSecs : Nat) (route : Route) (query : String) : Response :=
  let ok (ty : String) (body : String) : Response := ⟨200, some ty, body⟩
  match route with
  | .health =>
    ok jsonType (Json.Value.render (.obj [("status", .str "ok"), ("uptime_secs", .int uptimeSecs)]))
  | _ =>
    match PageQuery.parse query with
    | .error e => ⟨400, some plainType, e.message⟩
    | .ok q =>
      let p := s.params q.lang q.width q.more
      let text := s.localizer p.lang
      match route with
      | .page => ok htmlType (s.render p)
      | .launches =>
        ok jsonType (Json.Value.render (launchesResponse p (LaunchesView.resolve (s.loadLaunches p) text s.offset)))
      | _ => ok jsonType (Json.Value.render (pictureResponse p (PictureView.resolve s.loadPicture text)))

/-- The response to a request for a target. -/
def respond (s : Setup) (uptimeSecs : Nat) (method : String) (target : Target) : Response :=
  let query := target.query.getD ""
  match routeOf? target.path with
  | none => ⟨404, none, ""⟩
  | some route =>
    if method == "GET" then answer s uptimeSecs route query
    else if method == "HEAD" then { answer s uptimeSecs route query with body := "" }
    else ⟨405, none, ""⟩

theorem respond_unknown (s : Setup) (u : Nat) (method : String) (target : Target)
    (h : routeOf? target.path = none) :
    (respond s u method target).status = 404 := by
  unfold respond
  simp [h]

end SpaceTeamSite.Http
