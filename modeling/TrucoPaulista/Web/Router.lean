import TrucoPaulista.Server
import TrucoPaulista.Web.MediaType
import TrucoPaulista.Web.Upgrade
import TrucoPaulista.Wire.View

namespace TrucoPaulista

/-- What a request is for. -/
inductive Route where
  | health
  | socket
  | allMatches
  | oneMatch (segment : String)
  deriving DecidableEq

namespace Route

/-- The route of a path. -/
def ofPath? (path : String) : Option Route :=
  match (splitChars '/' path.toList).map String.ofList with
  | ["", "health"] => some health
  | ["", "ws"] => some socket
  | ["", "api", "v1", "matches"] => some allMatches
  | ["", "api", "v1", "matches", segment] =>
    if segment.isEmpty then none else some (oneMatch segment)
  | _ => none

/-- The methods that a route knows. -/
def allow : Route → String
  | health | socket | oneMatch _ => "GET,HEAD"
  | allMatches => "POST"

/-- Whether a route knows a method. -/
def knows (route : Route) (method : String) : Bool :=
  match route with
  | allMatches => method = "POST"
  | _ => method = "GET" || method = "HEAD"

end Route

/-- What a response takes from elsewhere: the time, and an id for a request that has none. -/
structure Stamp where
  time : String
  requestId : String

namespace Web

variable {ρ : Type}

/-- The largest body that is taken, in bytes. -/
def bodyLimit : Nat := 2097152

/-- The version of the server. -/
def version : String := "0.1.0"

/-- What is looked at in the body that asks for a match. -/
def createShape : Json.Shape :=
  .record [("pointsToWin", .optional (.integer Int64.minValue.toInt Int64.maxValue.toInt))]

/-- The points to win for which a JSON value asks. -/
def pointsOf? (json : Json) : Option (Option Int64) :=
  match json.slots? ["pointsToWin"] with
  | some [points] => points.defaulted Json.int64?
  | _ => none

/-- Whether a request says that its body is JSON. -/
def hasJsonBody (request : HttpRequest) : Bool :=
  ((request.plainHeader? "content-type").bind MediaType.parse?).any MediaType.isJson

/-- The points to win for which the body of a request asks. -/
def readPoints (request : HttpRequest) : Except Refusal (Option Int64) :=
  if !hasJsonBody request then
    .error (.invalid "Expected request with `Content-Type: application/json`")
  else if bodyLimit < request.body.utf8ByteSize then
    .error (.invalid "Failed to buffer the request body: length limit exceeded")
  else
    match Json.read createShape request.body with
    | .error .malformed => .error (.invalid "Failed to parse the request body as JSON")
    | .error .mismatch =>
      .error (.invalid "Failed to deserialize the JSON body into the target type")
    | .ok json =>
      match pointsOf? json with
      | some points => .ok points
      | none => .error (.invalid "Failed to deserialize the JSON body into the target type")

/-- The health of the server. -/
def health (server : Server ρ) (stamp : Stamp) : HttpResponse × Server ρ :=
  let (active, server) := server.activeMatches
  let report := Json.obj [
    ("status", .str "healthy"), ("version", .str version), ("storage", .str "memory"),
    ("database", .bool true), ("matches", .obj [("active_count", .int active)]),
    ("timestamp", .str stamp.time)]
  (.ofJson Status.ok report, server)

/-- Creates a match. -/
def createMatch [Repository ρ] (server : Server ρ) (request : HttpRequest) :
    HttpResponse × Server ρ :=
  match readPoints request with
  | .error refusal => (.ofRefusal refusal, server)
  | .ok points =>
    match server.createMatch points with
    | (.ok matchId, server) =>
      (.ofJson Status.created (.obj [("matchId", .str matchId)]), server.activeMatches.2)
    | (.error refusal, server) => (.ofRefusal refusal, server)

/-- Shows a match. -/
def showMatch [Repository ρ] (server : Server ρ) (segment : String) : HttpResponse × Server ρ :=
  match Percent.decodeText? segment with
  | none =>
    (.ofText Status.badRequest "Invalid URL: Invalid UTF-8 in `match_id`", server)
  | some text =>
    match server.viewState text with
    | (.ok view, server) => (.ofJson Status.ok view.toJson, server)
    | (.error refusal, server) => (.ofRefusal refusal, server)

/-- The response of a route to a method that it knows. A lasting connection cannot be had here. -/
def serve [Repository ρ] (server : Server ρ) (route : Route) (request : HttpRequest)
    (stamp : Stamp) : HttpResponse × Server ρ :=
  match route with
  | .health => health server stamp
  | .allMatches => createMatch server request
  | .oneMatch segment => showMatch server segment
  | .socket =>
    match Upgrade.token request false with
    | .error response => (response, server)
    | .ok _ => (.bare Status.switchingProtocols, server)

/-- The response to a request, before its last headers are put on. -/
def dispatch [Repository ρ] (server : Server ρ) (request : HttpRequest) (stamp : Stamp) :
    HttpResponse × Server ρ :=
  match Route.ofPath? request.path with
  | none => (.bare Status.notFound, server)
  | some route =>
    if route.knows request.method then
      let (response, server) := serve server route request stamp
      (if request.method = "HEAD" then response.withoutBody else response, server)
    else ({ HttpResponse.bare Status.methodNotAllowed with allow := some route.allow }, server)

/-- The id of a request: its own if that is plain text and not blank. -/
def requestId (request : HttpRequest) (stamp : Stamp) : String :=
  let own := (request.plainHeader? "x-request-id").filter (fun id => !(Text.trim id).isEmpty)
  own.getD stamp.requestId

/-- The response to a question about what may be asked from elsewhere. -/
def preflight (request : HttpRequest) : HttpResponse :=
  { HttpResponse.bare Status.ok with allow := (Route.ofPath? request.path).map Route.allow }

/-- The response to a request. -/
def respond [Repository ρ] (server : Server ρ) (request : HttpRequest) (stamp : Stamp) :
    HttpResponse × Server ρ :=
  if request.method = "OPTIONS" then
    ({ preflight request with allowOrigin := some "*" }, server)
  else
    let (response, server) := dispatch server request stamp
    ({ response with
        allowOrigin := some "*"
        requestId := some (requestId request stamp) }, server)

/-- A connection asks for a lasting connection; it has it when the response says so. -/
def connect (server : Server ρ) (connection : ConnectionId) (request : HttpRequest) :
    HttpResponse × Server ρ :=
  match Upgrade.token request true with
  | .ok token => (.bare Status.switchingProtocols, server.connect connection token)
  | .error response => (response, server)

end Web

end TrucoPaulista
