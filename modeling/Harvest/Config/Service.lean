import Harvest.Config.Dotenv
import Harvest.Config.Layers
import Harvest.Config.Toml
import Harvest.Config.Weak
import Harvest.Fetch.Settings
import Harvest.Filter
import Harvest.Json.Parse
import Harvest.Proxy.Endpoint
import Harvest.Yaml.Compose
/-!
# Harvest.Config.Service

The service configuration: its sections, defaults, loading and validation.

Loading layers the `DOCFETCH_` environment over an optional configuration file over the
defaults (`Harvest.Config.Layers`), then decodes the settings weakly into the sections
(`Harvest.Config.Weak`), then validates them.

The file's type comes from its extension, which must be one of `json toml yaml yml properties
props prop hcl tfvars dotenv env ini`; of these only YAML, JSON, TOML and dotenv files can be
read (`decoder not found for this format`). A JSON file must hold an object (or `null`). Keys
are compared in lower case. Failures to read the file are reported as
`read config: While parsing config: <problem>`, failures to decode as `unmarshal config:
decoding failed due to the following error(s):` followed by one line per field, and failed
checks by the check's own message.
-/

namespace Harvest

/-- The HTTP server section. -/
structure ServerSection where
  port : Int := 0
  deriving Repr

/-- The API authentication section. -/
structure AuthSection where
  enabled : Bool := false
  apiKey : String := ""
  deriving Repr

/-- The download section; times in nanoseconds. -/
structure FetchSection where
  connectTimeout : Int := 0
  readTimeout : Int := 0
  overallTimeout : Int := 0
  maxRetries : Int := 0
  retryBackoff : Int := 0
  compression : Bool := false
  compressionRatio : Float := 0
  userAgent : String := ""
  referer : String := ""
  deriving Repr

/-- The batch section. -/
structure BatchSection where
  maxConcurrency : Int := 0
  maxFailures : Int := 0
  deriving Repr

/-- The proxy section; `endpoints` is none when never set. -/
structure ProxySection where
  endpoints : Option (List String) := none
  switchEvery : Int := 0
  probeUrl : String := ""
  probeTimeout : Int := 0
  deriving Repr

/-- The download filter section; the type lists are none when never set. -/
structure FilterSection where
  includeTypes : Option (List String) := none
  excludeTypes : Option (List String) := none
  maxBytes : Int := 0
  deriving Repr

/-- The per-host politeness section. -/
structure PolitenessSection where
  perHostRps : Float := 0
  burst : Int := 0
  deriving Repr

/-- The storage section. -/
structure StorageSection where
  backend : String := ""
  localDir : String := ""
  gcsBucket : String := ""
  keyPrefix : String := ""
  recordFailures : Bool := false
  deriving Repr

/-- The database section. -/
structure DbSection where
  dsn : String := ""
  table : String := ""
  maxConns : Int := 0
  ensureSchema : Bool := false
  deriving Repr

/-- The notification section. -/
structure PubSubSection where
  projectId : String := ""
  topicName : String := ""
  deriving Repr

/-- The logging section. -/
structure LoggingSection where
  development : Bool := false
  level : String := ""
  deriving Repr

/-- The whole service configuration. -/
structure ServiceConfig where
  server : ServerSection := {}
  auth : AuthSection := {}
  fetch : FetchSection := {}
  batch : BatchSection := {}
  proxy : ProxySection := {}
  filter : FilterSection := {}
  politeness : PolitenessSection := {}
  storage : StorageSection := {}
  db : DbSection := {}
  pubsub : PubSubSection := {}
  logging : LoggingSection := {}
  deriving Repr

namespace ServiceConfig

/-- The default settings, by section. -/
def defaults : List (String × Dyn) :=
  [("server", .map [("port", .int 8080 .int)]),
   ("fetch", .map [("connect_timeout", .int (10 * second) .duration),
                   ("read_timeout", .int (16 * second) .duration),
                   ("overall_timeout", .int (60 * second) .duration),
                   ("max_retries", .int 0 .int),
                   ("retry_backoff", .int (250 * second / 1000) .duration),
                   ("compression", .bool true),
                   ("compression_ratio", .float 1),
                   ("user_agent", .str Settings.defaults.userAgent),
                   ("referer", .str Settings.defaults.referer)]),
   ("batch", .map [("max_concurrency", .int 10 .int), ("max_failures", .int 10 .int)]),
   ("proxy", .map [("endpoints", .strings []), ("switch_every", .int (-1) .int),
                   ("probe_url", .str "http://www.google.com/"),
                   ("probe_timeout", .int (5 * second) .duration)]),
   ("filter", .map [("max_bytes", .int (-1) .int64)]),
   ("politeness", .map [("per_host_rps", .int 0 .int), ("burst", .int 1 .int)]),
   ("storage", .map [("backend", .str "none"), ("prefix", .str "documents")]),
   ("db", .map [("table", .str "retrievals"), ("max_conns", .int 4 .int)]),
   ("logging", .map [("development", .bool true), ("level", .str "info")])]

open Weak in
/-- Decodes the settings into the sections. -/
def decode (settings : List (String × Dyn)) : DecodeM ServiceConfig := do
  let top := some settings
  let e ← sectionEntries "server" (fieldOf top "server")
  let server : ServerSection := { port := ← intField "server.port" 64 "int" (fieldOf e "port") 0 }
  let e ← sectionEntries "auth" (fieldOf top "auth")
  let auth : AuthSection :=
    { enabled := ← boolField "auth.enabled" (fieldOf e "enabled") false
      apiKey := ← stringField "auth.api_key" (fieldOf e "api_key") "" }
  let e ← sectionEntries "fetch" (fieldOf top "fetch")
  let fetch : FetchSection :=
    { connectTimeout := ← durationField "fetch.connect_timeout" (fieldOf e "connect_timeout") 0
      readTimeout := ← durationField "fetch.read_timeout" (fieldOf e "read_timeout") 0
      overallTimeout := ← durationField "fetch.overall_timeout" (fieldOf e "overall_timeout") 0
      maxRetries := ← intField "fetch.max_retries" 64 "int" (fieldOf e "max_retries") 0
      retryBackoff := ← durationField "fetch.retry_backoff" (fieldOf e "retry_backoff") 0
      compression := ← boolField "fetch.compression" (fieldOf e "compression") false
      compressionRatio := ← floatField "fetch.compression_ratio" (fieldOf e "compression_ratio") 0
      userAgent := ← stringField "fetch.user_agent" (fieldOf e "user_agent") ""
      referer := ← stringField "fetch.referer" (fieldOf e "referer") "" }
  let e ← sectionEntries "batch" (fieldOf top "batch")
  let batch : BatchSection :=
    { maxConcurrency := ← intField "batch.max_concurrency" 64 "int" (fieldOf e "max_concurrency") 0
      maxFailures := ← intField "batch.max_failures" 64 "int" (fieldOf e "max_failures") 0 }
  let e ← sectionEntries "proxy" (fieldOf top "proxy")
  let proxy : ProxySection :=
    { endpoints := ← stringsField "proxy.endpoints" (fieldOf e "endpoints") none
      switchEvery := ← intField "proxy.switch_every" 64 "int" (fieldOf e "switch_every") 0
      probeUrl := ← stringField "proxy.probe_url" (fieldOf e "probe_url") ""
      probeTimeout := ← durationField "proxy.probe_timeout" (fieldOf e "probe_timeout") 0 }
  let e ← sectionEntries "filter" (fieldOf top "filter")
  let filter : FilterSection :=
    { includeTypes := ← stringsField "filter.include_types" (fieldOf e "include_types") none
      excludeTypes := ← stringsField "filter.exclude_types" (fieldOf e "exclude_types") none
      maxBytes := ← intField "filter.max_bytes" 64 "int64" (fieldOf e "max_bytes") 0 }
  let e ← sectionEntries "politeness" (fieldOf top "politeness")
  let politeness : PolitenessSection :=
    { perHostRps := ← floatField "politeness.per_host_rps" (fieldOf e "per_host_rps") 0
      burst := ← intField "politeness.burst" 64 "int" (fieldOf e "burst") 0 }
  let e ← sectionEntries "storage" (fieldOf top "storage")
  let storage : StorageSection :=
    { backend := ← stringField "storage.backend" (fieldOf e "backend") ""
      localDir := ← stringField "storage.local_dir" (fieldOf e "local_dir") ""
      gcsBucket := ← stringField "storage.gcs_bucket" (fieldOf e "gcs_bucket") ""
      keyPrefix := ← stringField "storage.prefix" (fieldOf e "prefix") ""
      recordFailures := ← boolField "storage.record_failures" (fieldOf e "record_failures") false }
  let e ← sectionEntries "db" (fieldOf top "db")
  let db : DbSection :=
    { dsn := ← stringField "db.dsn" (fieldOf e "dsn") ""
      table := ← stringField "db.table" (fieldOf e "table") ""
      maxConns := ← intField "db.max_conns" 32 "int32" (fieldOf e "max_conns") 0
      ensureSchema := ← boolField "db.ensure_schema" (fieldOf e "ensure_schema") false }
  let e ← sectionEntries "pubsub" (fieldOf top "pubsub")
  let pubsub : PubSubSection :=
    { projectId := ← stringField "pubsub.project_id" (fieldOf e "project_id") ""
      topicName := ← stringField "pubsub.topic_name" (fieldOf e "topic_name") "" }
  let e ← sectionEntries "logging" (fieldOf top "logging")
  let logging : LoggingSection :=
    { development := ← boolField "logging.development" (fieldOf e "development") false
      level := ← stringField "logging.level" (fieldOf e "level") "" }
  return { server, auth, fetch, batch, proxy, filter, politeness, storage, db, pubsub, logging }

/-- Checks the required values and limits; the first failed check is the error. -/
def validate (c : ServiceConfig) : Except String Unit := do
  if c.server.port ≤ 0 then throw "server.port must be > 0"
  if c.auth.enabled && c.auth.apiKey.isEmpty then throw "auth.api_key must be set when auth is enabled"
  if c.fetch.connectTimeout ≤ 0 || c.fetch.readTimeout ≤ 0 || c.fetch.overallTimeout ≤ 0 then
    throw "fetch timeouts must be > 0"
  if c.fetch.maxRetries < 0 then throw "fetch.max_retries must be >= 0"
  if c.fetch.compressionRatio < 1 then throw "fetch.compression_ratio must be >= 1"
  if c.batch.maxConcurrency ≤ 0 then throw "batch.max_concurrency must be > 0"
  if c.politeness.perHostRps < 0 then throw "politeness.per_host_rps must be >= 0"
  match Endpoint.parseAll (c.proxy.endpoints.getD []) with
  | .error f => throw ("proxy.endpoints: " ++ f.message)
  | .ok _ => pure ()
  let b := c.storage.backend
  if b == "none" || b == "memory" then pure ()
  else if b == "local" then
    if c.storage.localDir.isEmpty then throw "storage.local_dir must be set for the local backend"
  else if b == "gcs" then
    if c.storage.gcsBucket.isEmpty then throw "storage.gcs_bucket must be set for the gcs backend"
  else throw ("storage.backend " ++ quoted b ++ " is not one of none, memory, local, gcs")
  if !c.pubsub.topicName.isEmpty && c.pubsub.projectId.isEmpty then
    throw "pubsub.project_id must be set when pubsub.topic_name is"

/-- The downloader settings of the configuration. -/
def fetchSettings (c : ServiceConfig) : Settings :=
  { connectTimeout := c.fetch.connectTimeout, readTimeout := c.fetch.readTimeout,
    overallTimeout := c.fetch.overallTimeout, maxRetries := c.fetch.maxRetries,
    compression := c.fetch.compression, compressionRatio := c.fetch.compressionRatio,
    userAgent := c.fetch.userAgent, referer := c.fetch.referer }

/-- The download filter rules of the configuration. -/
def filterRules (c : ServiceConfig) : FilterRules :=
  { allow := c.filter.includeTypes.getD [], deny := c.filter.excludeTypes.getD [],
    maxBytes := c.filter.maxBytes }

/-- The configured proxies (none when an entry cannot be read). -/
def proxies (c : ServiceConfig) : List Endpoint :=
  match Endpoint.parseAll (c.proxy.endpoints.getD []) with
  | .ok eps => eps
  | .error _ => []

end ServiceConfig

/-- Where the configuration comes from: the file to read (empty for none), the files there are,
and the environment. -/
structure ConfigSource where
  path : String := ""
  files : List (String × String) := []
  env : List (String × String) := []

namespace ConfigSource

/-- The file types accepted by extension. -/
def supportedTypes : List String :=
  ["json", "toml", "yaml", "yml", "properties", "props", "prop", "hcl", "tfvars", "dotenv", "env", "ini"]

/-- The extension of a path (without the dot), empty when there is none. -/
def extension (path : String) : String :=
  let cs := path.toList.reverse
  let tail := cs.takeWhile fun c => c != '/'
  match tail.findIdx? (· == '.') with
  | some i => if i == 0 then "" else String.ofList (tail.take i).reverse
  | none => ""

mutual

/-- Turns a JSON value into a loosely typed one; numbers become floats. -/
def ofJson : Json.Value → Dyn
  | .null => .null
  | .bool b => .bool b
  | .int n => .float (Float.ofInt n)
  | .float x => .float x
  | .str s => .str s
  | .arr items => .list (ofJsonItems items)
  | .obj members => .map (ofJsonMembers [] members)

/-- The items of a JSON array, turned in order. -/
def ofJsonItems : List Json.Value → List Dyn
  | [] => []
  | v :: vs => ofJson v :: ofJsonItems vs

/-- The members of a JSON object added to a map; a later member replaces an earlier one. -/
def ofJsonMembers (acc : List (String × Dyn)) : List (String × Json.Value) → List (String × Dyn)
  | [] => acc
  | (k, v) :: rest => ofJsonMembers (Dyn.insert acc k (ofJson v)) rest

end

/-- Reads a JSON configuration: an object, or null for nothing. -/
def readJson (text : String) : Except String (List (String × Dyn)) :=
  let target := " into Go value of type map[string]interface \x7b\x7d"
  match Json.parseDocument text.toUTF8.toList with
  | .error e => .error e
  | .ok .null => .ok []
  | .ok (.arr _) => .error ("json: cannot unmarshal array" ++ target)
  | .ok (.num _) => .error ("json: cannot unmarshal number" ++ target)
  | .ok (.str _) => .error ("json: cannot unmarshal string" ++ target)
  | .ok (.bool _) => .error ("json: cannot unmarshal bool" ++ target)
  | .ok t =>
    match t.floats with
    | .error e => .error e
    | .ok v =>
      match ofJson v with
      | .map m => .ok m
      | _ => .ok []

/-- Reads the configuration file into a map with lower-case keys. -/
def readFile (src : ConfigSource) : Except String (List (String × Dyn)) := do
  let kind := extension src.path
  if !supportedTypes.contains kind then throw ("Unsupported Config Type " ++ quoted kind)
  let text ← match src.files.find? (·.1 == src.path) with
    | some (_, t) => pure t
    | none => throw ("open " ++ src.path ++ ": no such file or directory")
  let parsed : Except String (List (String × Dyn)) :=
    match lowerText kind with
    | "yaml" | "yml" => Yaml.readMap text
    | "json" => readJson text
    | "toml" => Toml.readMap text
    | "dotenv" | "env" => Dotenv.readMap src.env text
    | _ => .error "decoder not found for this format"
  match parsed with
  | .error e => throw ("While parsing config: " ++ e)
  | .ok m => pure (Layers.lowerEntries m)

/-- The prefix of the environment variables that set configuration keys. -/
def envPrefix : String := "DOCFETCH"

/-- The names of the environment variables the configuration may be taken from: one for every
key of the defaults and of the file (when it can be read). -/
def envNames (src : ConfigSource) : List String :=
  let file := if src.path.isEmpty then [] else src.readFile.toOption.getD []
  let layers : Layers := { envPrefix, defaults := ServiceConfig.defaults, file }
  layers.allKeys.map layers.envName

/-- Loads, decodes and validates the configuration. -/
def load (src : ConfigSource) : Except String ServiceConfig := do
  let file ← if src.path.isEmpty then pure []
    else match src.readFile with
      | .ok m => pure m
      | .error e => throw ("read config: " ++ e)
  let layers : Layers := { envPrefix, defaults := ServiceConfig.defaults, file, env := src.env }
  let (c, errors) := (ServiceConfig.decode layers.settings).run []
  if !errors.isEmpty then
    throw ("unmarshal config: decoding failed due to the following error(s):\n\n" ++
      "\n".intercalate errors)
  c.validate
  pure c

end ConfigSource

end Harvest
