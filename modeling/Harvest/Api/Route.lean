import Harvest.Url.Escape
import Harvest.Url.Query
/-!
# Harvest.Api.Route

HTTP requests to the service and the endpoint each one is for.

The service answers these endpoints:

```
GET  /healthz              liveness
GET  /readyz               readiness (fails once shutting down)
GET  /metrics              the metrics exposition
POST /v1/batches           submit a batch of locators
GET  /v1/batches/<id>      one batch's status
GET  /v1/stats             the download counters
GET  /v1/proxies           the proxy ring
POST /v1/proxies           add a proxy
```

A request is routed on its path: the path as written when it is not the plain escaping of what it
decodes to, else the decoded path. A method outside the standard nine is refused whatever the
path. A path that matches an endpoint only under another method is refused with
*method not allowed*; any other path is *not found*. An `<id>` is one non-empty path segment,
taken as written. Everything under `/v1` (also `/v1` itself and paths that match nothing there)
is the keyed area: when keys are enforced, the key is checked before the path is matched.

The server goes through a router it is given (`Router`). What it relies on of one is what the
router documents (`Router.Lawful`): unknown methods are refused, and each endpoint is reached by
its method and pattern. `route` is the table the service sets up, as its router routes it.
-/

namespace Harvest

namespace Api

/-- An HTTP request: method, target (path and query), header fields and body. -/
structure Request where
  method : String := "GET"
  target : String
  headers : List (String × String) := []
  body : String := ""
  deriving Repr

/-- What a request is for. -/
inductive Route where
  | health
  | ready
  | metrics
  | submitBatch
  | batch (id : String)
  | stats
  | listProxies
  | addProxy
  | notFound
  | wrongMethod
  deriving DecidableEq, Repr

/-- The standard methods; any other is refused before routing. -/
def knownMethods : List String :=
  ["CONNECT", "DELETE", "GET", "HEAD", "OPTIONS", "PATCH", "POST", "PUT", "TRACE"]

/-- A router: the endpoint a request of a method on a routing path is for. -/
abbrev Router : Type := String → String → Route

/-- A text a `{name}` of a route pattern matches: one path segment, not empty. -/
def IsSegment (s : String) : Prop := s ≠ "" ∧ '/' ∉ s.toList

instance : DecidablePred IsSegment := fun s => inferInstanceAs (Decidable (s ≠ "" ∧ '/' ∉ s.toList))

/-- What the server relies on of its router, as the router documents its behaviour: a method
outside the standard nine is *method not allowed* on every path, before any handler or
middleware runs, and the endpoints of the `/v1` table are reached by their methods and patterns. -/
structure Router.Lawful (rt : Router) : Prop where
  unknownMethod : ∀ method path, method ∉ knownMethods → rt method path = .wrongMethod
  submitBatch : rt "POST" "/v1/batches" = .submitBatch
  /-- `GET /v1/batches/{batch_id}`, the id being the segment as written. -/
  batch : ∀ id, IsSegment id → rt "GET" ("/v1/batches/" ++ id) = .batch id
  listProxies : rt "GET" "/v1/proxies" = .listProxies
  addProxy : rt "POST" "/v1/proxies" = .addProxy

namespace Request

/-- The path part of the target, as written. -/
def rawPath (r : Request) : String :=
  String.ofList (r.target.toList.takeWhile (· != '?'))

/-- The query part of the target, as written (empty when there is none). -/
def rawQuery (r : Request) : String :=
  String.ofList ((r.target.toList.dropWhile (· != '?')).drop 1)

/-- The path requests are routed on: the decoded path, unless the path as written is not its
plain escaping, in which case the path as written. -/
def routePath (r : Request) : String :=
  let raw := r.rawPath
  let routed := match Url.unescape (Bytes.ofString raw) .path with
    | .ok decoded => if Url.escape decoded .path == raw then decoded.toText else raw
    | .error _ => raw
  if routed.isEmpty then "/" else routed

/-- The first value of a header field; names compare without regard to ASCII case. -/
def header (r : Request) (name : String) : String :=
  match r.headers.find? (fun (k, _) => k.map Char.toLower == name.map Char.toLower) with
  | some (_, v) => v
  | none => ""

/-- The first value of a query parameter, decoded. -/
def queryValue (r : Request) (name : String) : String :=
  match (Url.queryPairs (Bytes.ofString r.rawQuery)).find? (·.1 == Bytes.ofString name) with
  | some (_, v) => v.toText
  | none => ""

/-- The API key a request presents: the `X-API-Key` header, else the `api_key` query parameter. -/
def apiKey (r : Request) : String :=
  let k := r.header "X-API-Key"
  if k.isEmpty then r.queryValue "api_key" else k

end Request

/-- Whether a routing path lies in the keyed area. -/
def keyed (path : String) : Bool := path == "/v1" || path.startsWith "/v1/"

/-- Picks the endpoint among those of one path: the route for the method, or *method not
allowed*. -/
def byMethod (method : String) (choices : List (String × Route)) : Route :=
  match choices.find? (·.1 == method) with
  | some (_, r) => r
  | none => .wrongMethod

/-- Routes a path inside the keyed area, given without its `/v1` prefix (`/` for none). -/
def routeKeyed (method : String) (sub : String) : Route :=
  if sub == "/batches" then byMethod method [("POST", .submitBatch)]
  else if sub == "/stats" then byMethod method [("GET", .stats)]
  else if sub == "/proxies" then byMethod method [("GET", .listProxies), ("POST", .addProxy)]
  else if sub.startsWith "/batches/" then
    let id := String.ofList (sub.toList.drop 9)
    if id.isEmpty || id.contains '/' then .notFound else byMethod method [("GET", .batch id)]
  else .notFound

/-- The service's table, routed: `/healthz`, `/readyz` and `/metrics`, and the `/v1` group. -/
def route (method : String) (path : String) : Route :=
  if !knownMethods.contains method then .wrongMethod
  else if path == "/healthz" then byMethod method [("GET", .health)]
  else if path == "/readyz" then byMethod method [("GET", .ready)]
  else if path == "/metrics" then byMethod method [("GET", .metrics)]
  else if keyed path then
    routeKeyed method (if path == "/v1" then "/" else String.ofList (path.toList.drop 3))
  else .notFound

end Api

end Harvest
