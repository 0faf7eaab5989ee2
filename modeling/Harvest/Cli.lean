import Harvest.Api.Server
import Harvest.Config.Service
/-!
# Harvest.Cli

The command line: what the arguments ask for, the locator lists read from files, the engine a
configuration describes, and the summary a fetch prints.

```
docfetch [--config FILE] fetch [-f FILE] [LOCATOR...]
docfetch [--config FILE] serve
docfetch help
```

Flags may stand before or after the command; `--name value`, `--name=value`, `-f value` and
`-fvalue` are all accepted, and `--` ends the flags. Without a command, or with `help`, `-h` or
`--help`, the usage is printed. A locator list holds one locator a line; blank lines and lines
starting with `#` are skipped, and each line is trimmed.

The summary of a fetch is the batch's counts, the download counters (`stats`) and, when the batch
failed, its `error`, as indented JSON.
-/

namespace Harvest

namespace Cli

/-- What the command line asks for. -/
inductive Command where
  | help
  /-- Fetch the given locators and those listed in a file (`-` for standard input; empty for
  none). -/
  | fetch (locators : List String) (listFile : String)
  | serve
  deriving DecidableEq, Repr

/-- A parsed command line. -/
structure Invocation where
  configFile : String := ""
  command : Command := .help
  deriving DecidableEq, Repr

/-- The usage text. -/
def usage : String :=
  "docfetch downloads batches of URLs with a fixed worker pool, bounded\n" ++
  "retries, an optional rotating proxy pool and hard limits on size and time.\n\n" ++
  "Usage:\n  docfetch [command]\n\n" ++
  "Available Commands:\n" ++
  "  fetch       Fetch a batch of URLs and print a JSON summary.\n" ++
  "  help        Help about any command\n" ++
  "  serve       Run the HTTP API.\n\n" ++
  "Flags:\n" ++
  "      --config string   config file (YAML, JSON or TOML)\n" ++
  "  -h, --help            help for docfetch\n\n" ++
  "Use \"docfetch [command] --help\" for more information about a command.\n"

/-- The state of reading the arguments. -/
structure ArgState where
  configFile : String := ""
  command : Option String := none
  listFile : String := ""
  positional : List String := []
  help : Bool := false

/-- Reads the arguments one by one; `flagsDone` once `--` was seen. -/
def readArgs (st : ArgState) (flagsDone : Bool) : List String → Except String ArgState
  | [] => .ok st
  | a :: rest =>
    let positional (st : ArgState) : ArgState :=
      match st.command with
      | none => { st with command := some a }
      | some _ => { st with positional := st.positional ++ [a] }
    if flagsDone || a == "-" || !a.startsWith "-" then readArgs (positional st) flagsDone rest
    else if a == "--" then readArgs st true rest
    else if a == "--help" || a == "-h" then readArgs { st with help := true } flagsDone rest
    else if a == "--config" || a == "--file" || a == "-f" then
      match rest with
      | v :: rest' =>
        let st := if a == "--config" then { st with configFile := v } else { st with listFile := v }
        readArgs st flagsDone rest'
      | [] =>
        .error (if a == "-f" then "flag needs an argument: 'f' in -f"
          else "flag needs an argument: " ++ a)
    else if a.startsWith "--config=" then
      readArgs { st with configFile := String.ofList (a.toList.drop 9) } flagsDone rest
    else if a.startsWith "--file=" then
      readArgs { st with listFile := String.ofList (a.toList.drop 7) } flagsDone rest
    else if a.startsWith "-f" then
      let v := String.ofList (a.toList.drop 2)
      let v := if v.startsWith "=" then String.ofList (v.toList.drop 1) else v
      readArgs { st with listFile := v } flagsDone rest
    else if a.startsWith "--" then
      .error ("unknown flag: " ++ String.ofList (a.toList.takeWhile (· != '=')))
    else .error ("unknown shorthand flag: " ++ quoted (String.ofList ((a.toList.drop 1).take 1)) ++
      " in " ++ a)

/-- Parses a command line (without the program name). -/
def parse (args : List String) : Except String Invocation := do
  let st ← readArgs {} false args
  if st.help then return { configFile := st.configFile }
  match st.command with
  | none | some "help" => return { configFile := st.configFile }
  | some "fetch" =>
    return { configFile := st.configFile, command := .fetch st.positional st.listFile }
  | some "serve" =>
    if !st.listFile.isEmpty then throw "unknown shorthand flag: 'f' in -f"
    return { configFile := st.configFile, command := .serve }
  | some other => throw ("unknown command " ++ quoted other ++ " for \"docfetch\"")

/-- The locators of a list: one a line, trimmed, without blank lines and `#` comments. -/
def locatorList (text : String) : List String :=
  ((text.splitOn "\n").map trimBlank).filter fun l => !l.isEmpty && !l.startsWith "#"

/-- The engine a configuration describes. Proxies are probed before use; with no network to
reach the probe target, a probe never succeeds. -/
def engineConfig (c : ServiceConfig) : EngineConfig :=
  { settings := c.fetchSettings, filter := c.filterRules, proxies := c.proxies,
    switchEvery := c.proxy.switchEvery,
    liveness := if (c.proxy.endpoints.getD []).isEmpty then .assumed else .probed [],
    maxFailures := c.batch.maxFailures }

/-- A transport with no network behind it: every request fails. -/
def offline : Http.Transport Unit := ⟨fun s _ => (s, .error "network is unreachable")⟩

/-- The summary of a fetch: the batch's counts, the download counters and the failure, if any. -/
def summary (r : BatchResult) (stats : Snapshot) (err : Option FetchError) : Json.Value :=
  let counts := match Api.resultJson r with
    | .obj ms => ms
    | _ => []
  .obj (counts ++ [("stats", Api.snapshotJson stats)] ++
    match err with
    | some e => [("error", .str e.message)]
    | none => [])

end Cli

end Harvest
