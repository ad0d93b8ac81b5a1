import TrucoPaulista.Match
import TrucoPaulista.Settings.Address
import TrucoPaulista.Settings.Number
import TrucoPaulista.Text.Blank
import TrucoPaulista.Text.Lower
import TrucoPaulista.Text.Quoted

namespace TrucoPaulista

/-- Where matches are kept. -/
inductive Storage where
  | memory
  | postgres
  deriving DecidableEq

namespace Storage

def name : Storage → String
  | memory => "memory"
  | postgres => "postgres"

/-- The words for a storage. -/
def words : Storage → List String
  | memory => ["memory", "mem"]
  | postgres => ["postgres", "postgresql", "pg"]

/-- Reads a storage. -/
def parse (text : String) : Except String Storage :=
  let word := Text.lower (Text.trim text)
  match [memory, postgres].find? (fun storage => storage.words.contains word) with
  | some storage => .ok storage
  | none => .error ("unknown storage backend: " ++ word)

end Storage

/-- The settings of the connections to a database; times are in seconds. -/
structure PoolSettings where
  url : String
  maxConnections : UInt32
  minConnections : UInt32
  connectionTimeout : UInt64
  idleTimeout : UInt64
  maxLifetime : UInt64
  deriving DecidableEq

/-- Why the settings of the connections to a database cannot be had. -/
inductive PoolError where
  | missingUrl (name : String)
  | invalid (name value : String)
  deriving DecidableEq

def PoolError.message : PoolError → String
  | missingUrl name => "missing required environment variable: " ++ name
  | invalid name value => "invalid value for " ++ name ++ ": " ++ value

/-- A source of settings: the text of each variable that is set. -/
abbrev Environment := String → Option String

namespace PoolSettings

/-- The value of a variable, or else another one. -/
def read {α : Type} (environment : Environment) (name : String) (otherwise : α)
    (parse : String → Except NumberError α) : Except PoolError α :=
  match environment name with
  | none => .ok otherwise
  | some value =>
    match parse value with
    | .ok number => .ok number
    | .error _ => .error (.invalid name value)

/-- The settings for a database that is given. -/
def load (environment : Environment) (url : String) : Except PoolError PoolSettings := do
  let maxConnections ← read environment "DB_MAX_CONNECTIONS" 10 Number.parseUInt32
  let minConnections ← read environment "DB_MIN_CONNECTIONS" 1 Number.parseUInt32
  let connectionTimeout ← read environment "DB_CONNECTION_TIMEOUT" 10 Number.parseUInt64
  let idleTimeout ← read environment "DB_IDLE_TIMEOUT" 600 Number.parseUInt64
  let maxLifetime ← read environment "DB_MAX_LIFETIME" 1800 Number.parseUInt64
  return { url, maxConnections, minConnections, connectionTimeout, idleTimeout, maxLifetime }

/-- The settings for the database that a variable gives. -/
def ofEnvironment (environment : Environment) : Except PoolError PoolSettings :=
  match environment "DATABASE_URL" with
  | some url => load environment url
  | none => .error (.missingUrl "DATABASE_URL")

end PoolSettings

/-- What the command line settles before any variable does. -/
structure Overrides where
  bind : Option Address
  storage : Option Storage
  databaseUrl : Option String
  pointsToWin : Option UInt32

/-- The settings of a server. -/
structure Settings where
  bind : Address
  storage : Storage
  database : Option PoolSettings
  pointsToWin : UInt32
  metricsBind : Option Address
  deriving DecidableEq

/-- Why the settings of a server cannot be had. -/
inductive SettingsError where
  | missing (name hint : String)
  | invalid (name reason : String)
  | database (failure : PoolError)
  deriving DecidableEq

def SettingsError.message : SettingsError → String
  | missing name hint => "Missing required environment variable: " ++ name ++ "\nHint: " ++ hint
  | invalid name reason => "Invalid configuration for " ++ name ++ ": " ++ reason
  | database failure => failure.message

namespace Settings

/-- Reads an address. -/
def parseAddress (text : String) : Except String Address :=
  match Address.parse? text with
  | some address => .ok address
  | none => .error "invalid socket address syntax"

/-- Reads the points to win. -/
def parsePoints (text : String) : Except String UInt32 :=
  (Number.parseUInt32 text).mapError NumberError.message

/-- The value of a variable that is set. White space around it does not count. -/
def read {α : Type} (environment : Environment) (name : String) (parse : String → Except String α) :
    Except SettingsError (Option α) :=
  match environment name with
  | none => .ok none
  | some value =>
    match parse (Text.trim value) with
    | .ok setting => .ok (some setting)
    | .error reason => .error (.invalid name (Text.quoted value ++ ": " ++ reason))

/-- What is settled, or else the value of a variable, or else another one. -/
def pick {α : Type} (settled : Option α) (environment : Environment) (name : String)
    (parse : String → Except String α) (otherwise : α) : Except SettingsError α :=
  match settled with
  | some setting => .ok setting
  | none => (read environment name parse).map (fun setting => setting.getD otherwise)

/-- The address of a server for which none is given. -/
def defaultBind : Address := .v4 [127, 0, 0, 1] 6969

/-- The settings of the database, which only one storage has. -/
def loadDatabase (storage : Storage) (url : Option String) (environment : Environment) :
    Except SettingsError (Option PoolSettings) :=
  match storage with
  | .memory => .ok none
  | .postgres =>
    match url.or (environment "DATABASE_URL") with
    | none =>
      .error (.missing "DATABASE_URL"
        "Required with --storage postgres, e.g. postgres://postgres@localhost/truco")
    | some url => ((PoolSettings.load environment url).map some).mapError SettingsError.database

/-- The settings of a server. -/
def load (overrides : Overrides) (environment : Environment) : Except SettingsError Settings := do
  let bind ← pick overrides.bind environment "SERVER_BIND" parseAddress defaultBind
  let storage ← pick overrides.storage environment "STORAGE" Storage.parse .memory
  let database ← loadDatabase storage overrides.databaseUrl environment
  let pointsToWin ←
    pick overrides.pointsToWin environment "POINTS_TO_WIN" parsePoints defaultPointsToWin
  let metricsBind ← read environment "METRICS_BIND" parseAddress
  return { bind, storage, database, pointsToWin, metricsBind }

/-- Refuses settings that do not go together. -/
def validate (settings : Settings) : Except SettingsError Unit := do
  if settings.pointsToWin = 0 then throw (.invalid "POINTS_TO_WIN" "Must be greater than 0")
  if settings.metricsBind = some settings.bind then
    throw (.invalid "METRICS_BIND"
      ("Must differ from the server bind address (" ++ settings.bind.text ++ ")"))
  match settings.database with
  | some pool =>
    if pool.maxConnections < pool.minConnections then
      throw (.invalid "DB_MIN_CONNECTIONS"
        ("Cannot exceed DB_MAX_CONNECTIONS (" ++ toString pool.maxConnections.toNat ++ ")"))
  | none => return

end Settings

end TrucoPaulista
