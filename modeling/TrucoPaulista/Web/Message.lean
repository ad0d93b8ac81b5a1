import TrucoPaulista.Json
import TrucoPaulista.Text.Blank
import TrucoPaulista.Web.Status

namespace TrucoPaulista

/-- A request to the server. The target is a path, and a query after a question mark; a scheme and a
host may stand before them. -/
structure HttpRequest where
  method : String
  target : String
  headers : List (String × String)
  body : String
  deriving DecidableEq

/-- What a response carries. -/
inductive HttpBody where
  | empty
  | text (content : String)
  | json (content : Json)

/-- A response of the server. -/
structure HttpResponse where
  status : Nat
  contentType : Option String
  allow : Option String
  allowOrigin : Option String
  requestId : Option String
  body : HttpBody

namespace HttpRequest

/-- The value of a header, of which the case does not count. -/
def header? (request : HttpRequest) (name : String) : Option String :=
  (request.headers.find? (fun header => header.1.toLower = name)).map Prod.snd

/-- Whether all characters of a text are printable ASCII characters or tabs. -/
def isPlain (text : String) : Bool :=
  text.toList.all (fun c => (0x20 ≤ c.toNat && c.toNat < 0x7f) || c = '\t')

/-- The value of a header whose characters are all plain. -/
def plainHeader? (request : HttpRequest) (name : String) : Option String :=
  (request.header? name).filter isPlain

/-- The path and the query of a target: what follows its scheme and its host, if it has them,
without the fragment. A target that has no scheme and does not begin with a slash has neither. -/
def location (request : HttpRequest) : List Char :=
  let target := request.target.toList.takeWhile (· ≠ '#')
  if target.head? = some '/' then target
  else
    match target.dropWhile (· ≠ ':') with
    | ':' :: '/' :: '/' :: rest => rest.dropWhile (fun c => c ≠ '/' && c ≠ '?')
    | _ => []

def path (request : HttpRequest) : String :=
  String.ofList (request.location.takeWhile (· ≠ '?'))

def query (request : HttpRequest) : String :=
  String.ofList ((request.location.dropWhile (· ≠ '?')).drop 1)

end HttpRequest

namespace HttpResponse

def bare (status : Nat) : HttpResponse := ⟨status, none, none, none, none, .empty⟩

def ofText (status : Nat) (content : String) : HttpResponse :=
  { bare status with contentType := some "text/plain; charset=utf-8", body := .text content }

def ofJson (status : Nat) (content : Json) : HttpResponse :=
  { bare status with contentType := some "application/json", body := .json content }

/-- A response to what is refused. -/
def ofRefusal (refusal : Refusal) : HttpResponse :=
  ofJson refusal.status (.obj [("error", .str refusal.clientMessage)])

/-- The response without its body. -/
def withoutBody (response : HttpResponse) : HttpResponse := { response with body := .empty }

end HttpResponse

end TrucoPaulista
