import TrucoPaulista.CommandLine
import TrucoPaulista.Server
import TrucoPaulista.Wire.Event

namespace TrucoPaulista

/-- The variables that are looked at. -/
def variableNames : List String := [
  "SERVER_BIND", "STORAGE", "DATABASE_URL", "DB_MAX_CONNECTIONS", "DB_MIN_CONNECTIONS",
  "DB_CONNECTION_TIMEOUT", "DB_IDLE_TIMEOUT", "DB_MAX_LIFETIME", "POINTS_TO_WIN", "METRICS_BIND"]

/-- The variables that are set. -/
def readEnvironment : IO (List (String × String)) :=
  variableNames.filterMapM (fun name => do
    return (← IO.getEnv name).map (fun value => (name, value)))

/-- Draws ranks that follow from a seed. -/
def dealerOfSeed (seed : Nat) : Dealer :=
  ⟨fun n => Rank.all.getD (randNat (mkStdGen (seed + n)) 0 9).1 .four, 0⟩

/-- The name of the connection of the console. -/
def console : ConnectionId := "console"

/-- Prints what the console is told. -/
def printEvents (server : Server) : IO Server := do
  let (events, server) := server.collect console
  events.forM (fun event => IO.println event.toJson.render)
  return server

/-- Carries out the commands of the console, one a line, until the input ends. -/
partial def serveLines (stdin : IO.FS.Stream) (server : Server) : IO Unit := do
  let line ← stdin.getLine
  if line.isEmpty then return
  let server := server.receive console (← IO.monoMsNow) (.text line)
  serveLines stdin (← printEvents server)

/-- Runs a server for one player at the console, whose first line is the token. -/
def serve (settings : Settings) : IO UInt32 := do
  IO.eprintln ("Starting Truco server at " ++ settings.bind.text ++ " with "
    ++ settings.storage.name ++ " storage")
  match settings.storage with
  | .postgres =>
    IO.eprintln "Error: Failed to connect to database: there is none"
    return 1
  | .memory =>
    let stdin ← IO.getStdin
    let token ← stdin.getLine
    let server := Server.empty settings.pointsToWin (dealerOfSeed (← IO.rand 0 1000000))
    serveLines stdin (server.connect console (some token))
    return 0

end TrucoPaulista

/-- Runs the program. -/
def main (arguments : List String) : IO UInt32 := do
  let environment ← TrucoPaulista.readEnvironment
  match TrucoPaulista.CommandLine.run arguments (fun name => environment.lookup name) with
  | .exit code stdout stderr =>
    IO.print stdout
    IO.eprint stderr
    return code
  | .serve settings => TrucoPaulista.serve settings
