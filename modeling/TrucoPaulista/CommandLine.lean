import TrucoPaulista.Settings

namespace TrucoPaulista

/-- Why a command line is refused. -/
inductive UsageError where
  | noValue (option : String)
  | badValue (value reason : String)
  deriving DecidableEq

def UsageError.message : UsageError → String
  | noValue option => "the '" ++ option ++ "' option doesn't have an associated value"
  | badValue value reason => "failed to parse '" ++ value ++ "': " ++ reason

namespace CommandLine

/-- The value that follows the first occurrence of an option, and the arguments without the two. -/
def takeOption {α : Type} (option : String) (parse : String → Except String α)
    (arguments : List String) : Except UsageError (Option α × List String) :=
  let before := arguments.takeWhile (· ≠ option)
  match arguments.dropWhile (· ≠ option) with
  | [] => .ok (none, arguments)
  | [_] => .error (.noValue option)
  | _ :: value :: rest =>
    match parse value with
    | .ok setting => .ok (some setting, before ++ rest)
    | .error reason => .error (.badValue value reason)

/-- The options of a command line. What is no option is passed over. -/
def parse (arguments : List String) : Except UsageError Overrides := do
  let (bind, arguments) ← takeOption "--bind" Settings.parseAddress arguments
  let (storage, arguments) ← takeOption "--storage" Storage.parse arguments
  let (databaseUrl, arguments) ← takeOption "--db-url" .ok arguments
  let (pointsToWin, _) ← takeOption "--points-to-win" Settings.parsePoints arguments
  return { bind, storage, databaseUrl, pointsToWin }

/-- The help text. -/
def help : String := String.join [
  "Run a Truco Paulista match server\n",
  "\n",
  "USAGE:\n",
  "  truco_server [OPTIONS]\n",
  "\n",
  "OPTIONS:\n",
  "  --bind           IP:PORT   Server socket bind address  ",
  "[default: env SERVER_BIND or 127.0.0.1:6969]\n",
  "  --storage        KIND      memory or postgres          [default: env STORAGE or memory]\n",
  "  --db-url         URL       Database connection string  [default: env DATABASE_URL]\n",
  "  --points-to-win  N         Default match threshold     [default: env POINTS_TO_WIN or 12]\n",
  "\n",
  "FLAGS:\n",
  "  -h, --help                 Print help information\n",
  "\n",
  "ENVIRONMENT:\n",
  "  SERVER_BIND              Server bind address (e.g., 0.0.0.0:8080)\n",
  "  STORAGE                  Match storage backend\n",
  "  DATABASE_URL             PostgreSQL connection string\n",
  "  POINTS_TO_WIN            Points needed to win a match\n",
  "  METRICS_BIND             Prometheus exporter address (disabled when unset)\n",
  "  RUST_LOG                 Log filter (default: info,sqlx=warn,hyper=warn)\n"]

/-- What a command line comes to: the program ends with a code after some output, or a server is to
be run. -/
inductive Outcome where
  | exit (code : UInt32) (stdout stderr : String)
  | serve (settings : Settings)

/-- The program ends with an error. -/
def fail (message : String) : Outcome := .exit 1 "" ("Error: " ++ message ++ "\n")

/-- What a command line comes to. -/
def run (arguments : List String) (environment : Environment) : Outcome :=
  if arguments.contains "-h" || arguments.contains "--help" then .exit 0 help ""
  else
    match parse arguments with
    | .error refusal => fail refusal.message
    | .ok overrides =>
      match Settings.load overrides environment with
      | .error failure => fail failure.message
      | .ok settings =>
        match settings.validate with
        | .error failure => fail failure.message
        | .ok () => .serve settings

end CommandLine

end TrucoPaulista
