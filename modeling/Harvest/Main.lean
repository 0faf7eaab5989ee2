import Harvest.Cli
import Harvest.Uuid
/-!
# Harvest.Main

The executable: reads the arguments, the configuration file and the `DOCFETCH_` environment,
runs the command and reports.

`fetch` reads local locators from the disk; there is no network here, so remote locators fail as
unreachable. The summary goes to standard output; a failure is reported on standard error as
`Error: <problem>` and `docfetch: <problem>`, with exit code 1. `serve` cannot listen without a
network and fails the same way.
-/

namespace Harvest

namespace Cli

/-- Reports a failure on standard error and answers the exit code. -/
def fail (msg : String) : IO UInt32 := do
  IO.eprintln ("Error: " ++ msg)
  IO.eprintln ("docfetch: " ++ msg)
  return 1

/-- The text of a file, if it can be read. -/
def readText? (path : String) : IO (Option String) := do
  try
    return some (← IO.FS.readFile path)
  catch _ =>
    return none

/-- The bytes of a file, if it can be read. -/
def readBytes? (path : String) : IO (Option Bytes) := do
  try
    return some (← IO.FS.readBinFile path).toList
  catch _ =>
    return none

/-- The configuration source: the file named on the command line and the environment
variables of the keys it may set. -/
def configSource (path : String) : IO ConfigSource := do
  let files ← if path.isEmpty then pure [] else
    match ← readText? path with
    | some t => pure [(path, t)]
    | none => pure []
  let src : ConfigSource := { path, files }
  let env ← src.envNames.filterMapM fun n => do
    return (← IO.getEnv n).map fun v => (n, v)
  return { src with env }

/-- Reads all of standard input. -/
partial def readStdin (stream : IO.FS.Stream) (acc : String) : IO String := do
  let line ← stream.getLine
  if line.isEmpty then return acc else readStdin stream (acc ++ line)

/-- Runs `fetch` over the given locators. -/
def runFetch (cfg : ServiceConfig) (given : List String) (listFile : String) : IO UInt32 := do
  let listed ← if listFile.isEmpty then pure (some [])
    else if listFile == "-" then pure (some (locatorList (← readStdin (← IO.getStdin) "")))
    else pure ((← readText? listFile).map locatorList)
  match listed with
  | none => fail ("open url file: open " ++ listFile ++ ": no such file or directory")
  | some fromFile =>
    let locators := given ++ fromFile
    if locators.isEmpty then return ← fail "no URLs given"
    let files ← locators.filter Locator.isLocal |>.filterMapM fun u => do
      let p := Locator.localPath u
      return (← readBytes? p).map fun bs => (SlashPath.clean p, bs)
    let e : Engine Unit := { config := engineConfig cfg, transport := offline }
    let w := (Engine.add (e.initial () ⟨files⟩ Instant.zero) locators).1
    let id := Uuid.ofRandom (← IO.getRandomBytes 16).toList
    let (w, result, err, _) := e.run w id (some fun _ => [])
    IO.println (summary result (Engine.stats w) err).renderIndented
    match err with
    | some x => fail x.message
    | none => return 0

/-- Runs a parsed command line. -/
def run (inv : Invocation) : IO UInt32 := do
  match inv.command with
  | .help =>
    IO.print usage
    return 0
  | cmd =>
    match (← configSource inv.configFile).load with
    | .error e => fail ("load config: " ++ e)
    | .ok cfg =>
      match cmd with
      | .fetch given listFile => runFetch cfg given listFile
      | _ => fail ("http server: listen tcp :" ++ toString cfg.server.port ++ ": network is unreachable")

end Cli

end Harvest

/-- The command line entry point. -/
def main (args : List String) : IO UInt32 := do
  match Harvest.Cli.parse args with
  | .ok inv => Harvest.Cli.run inv
  | .error msg =>
    if msg.startsWith "unknown command" then
      IO.eprintln ("Error: " ++ msg)
      IO.eprintln "Run 'docfetch --help' for usage."
      IO.eprintln ("docfetch: " ++ msg)
      return 1
    else Harvest.Cli.fail msg
