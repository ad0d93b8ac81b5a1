import TrucoPaulista.Web.Message
import TrucoPaulista.Web.Percent

namespace TrucoPaulista

namespace Upgrade

/-- Whether a header has a value, of which the case does not count. -/
def headerIs (request : HttpRequest) (name value : String) : Bool :=
  (request.header? name).any (fun text => text.toLower = value)

/-- Whether characters occur within others. -/
def occursIn (part : List Char) : List Char → Bool
  | [] => part.isEmpty
  | c :: rest => part.isPrefixOf (c :: rest) || occursIn part rest

/-- Whether a text occurs within the value of a header, of which the case does not count. -/
def headerHas (request : HttpRequest) (name part : String) : Bool :=
  (request.header? name).any (fun text => occursIn part.toList text.toLower.toList)

/-- Refuses a request that does not ask for a lasting connection, or over a carrier that cannot give
one. -/
def check (request : HttpRequest) (canUpgrade : Bool) : Except HttpResponse Unit := do
  if request.method ≠ "GET" then
    throw (.ofText Status.methodNotAllowed "Request method must be `GET`")
  if !headerHas request "connection" "upgrade" then
    throw (.ofText Status.badRequest "Connection header did not include 'upgrade'")
  if !headerIs request "upgrade" "websocket" then
    throw (.ofText Status.badRequest "`Upgrade` header did not include 'websocket'")
  if (request.header? "sec-websocket-key").isNone then
    throw (.ofText Status.badRequest "`Sec-WebSocket-Key` header missing")
  if !headerIs request "sec-websocket-version" "13" then
    throw (.ofText Status.badRequest "`Sec-WebSocket-Version` header did not include '13'")
  if !canUpgrade then
    throw (.ofText Status.upgradeRequired
      "WebSocket request couldn't be upgraded since no upgrade state was present")

/-- The token with which a lasting connection is asked for. -/
def token (request : HttpRequest) (canUpgrade : Bool) : Except HttpResponse (Option String) := do
  check request canUpgrade
  match formValue? "token" request.query with
  | .ok token => return token
  | .error () =>
    throw (.ofText Status.badRequest
      "Failed to deserialize query string: duplicate field `token`")

end Upgrade

end TrucoPaulista
