import Harvest.Api.Body
import Harvest.Api.Route
import Harvest.Engine.Batch
import Harvest.Json.Render
/-!
# Harvest.Api.Server

The service's HTTP API over an engine: batches submitted and looked up, counters, and the proxy
ring.

The server keeps a record of every batch it was given. A submission takes a batch id from the
server's own source, queues the locators in a fresh pending set and either runs the batch before
answering (`wait`) or answers `202` at once and runs it in the background. A batch that ran ends
`completed`, `aborted` (after too many failures), `canceled` (when its caller cancelled) or
`failed`; a background batch started after shutdown ends `canceled` without running. Shutting down also makes readiness fail.

Answers are JSON with a trailing newline, objects written in the order the API defines them
(maps in key order); errors are `{"error": <message>}`. Paths that match nothing get the plain
text `404 page not found`, and a known path under another method gets an empty `405`.
-/

namespace Harvest

namespace Api

/-- How a batch stands. -/
inductive BatchPhase where
  | running
  | completed
  | aborted
  | canceled
  | failed
  deriving DecidableEq, Repr

/-- The name a batch phase is reported under. -/
def BatchPhase.name : BatchPhase → String
  | .running => "running"
  | .completed => "completed"
  | .aborted => "aborted"
  | .canceled => "canceled"
  | .failed => "failed"

/-- How a batch whose run failed ends: aborted after too many failures, canceled when the
caller cancelled, failed otherwise. -/
def BatchPhase.ofError (e : FetchError) : BatchPhase :=
  if e.isAborted then .aborted else if e.isCanceled then .canceled else .failed

/-- What the server records about a batch. -/
structure BatchRecord where
  batchId : String
  phase : BatchPhase := .running
  /-- How many locators the submission queued. -/
  added : Nat
  submitted : Instant
  finished : Option Instant := none
  result : Option BatchResult := none
  /-- The failure text of a batch that did not complete; empty otherwise. -/
  error : String := ""
  deriving Repr

/-- The fixed part of a server: its engine, whether keys are enforced and the key, its source
of batch ids (a server without one counts `batch-1`, `batch-2`, …), and the router its requests
go through (the service's own table unless another is given). -/
structure Server (σ : Type) where
  engine : Engine σ
  authEnabled : Bool := false
  apiKey : String := ""
  ids : BatchIds := .sequence
  router : Router := route

/-- The changing part of a server: the engine's world, the batch records (newest first), how many
ids were issued, and whether it is shutting down. -/
structure ServerState (σ : Type) where
  world : World σ
  batches : List BatchRecord := []
  issued : Nat := 0
  stopping : Bool := false

/-- An HTTP answer: status, content type (empty for none) and body. -/
structure Response where
  status : Nat
  contentType : String
  body : String
  deriving DecidableEq, Repr

namespace Response

/-- A JSON answer. -/
def json (status : Nat) (v : Json.Value) : Response := ⟨status, "application/json", v.render ++ "\n"⟩

/-- A JSON error answer. -/
def error (status : Nat) (msg : String) : Response := json status (.obj [("error", .str msg)])

/-- The plain-text answer for a path that matches nothing. -/
def notFound : Response := ⟨404, "text/plain; charset=utf-8", "404 page not found\n"⟩

/-- The metrics exposition. The service keeps no process-wide counters, so it is empty. -/
def metrics : Response := ⟨200, "text/plain; version=0.0.4; charset=utf-8; escaping=underscores", ""⟩

/-- The empty answer for a path known under other methods. -/
def wrongMethod : Response := ⟨405, "", ""⟩

end Response

/-- The JSON of a batch's counts; the id is left out when empty. -/
def resultJson (r : BatchResult) : Json.Value :=
  .obj ((if r.batchId.isEmpty then [] else [("batch_id", .str r.batchId)]) ++
    [("succeeded", .int r.succeeded), ("failed", .int r.failed), ("filtered", .int r.filtered),
     ("skipped", .int r.skipped), ("abandoned", .int r.abandoned), ("aborted", .bool r.aborted)])

/-- The JSON of a batch record; the finish time, counts and error appear once known. -/
def BatchRecord.toJson (b : BatchRecord) : Json.Value :=
  .obj ([("batch_id", .str b.batchId), ("status", .str b.phase.name), ("added", .int b.added),
      ("submitted", .str b.submitted.rfc3339)] ++
    (match b.finished with
      | some t => [("finished", .str t.rfc3339)]
      | none => []) ++
    (match b.result with
      | some r => [("result", resultJson r)]
      | none => []) ++
    (if b.error.isEmpty then [] else [("error", .str b.error)]))

/-- The JSON of the download counters. -/
def snapshotJson (s : Snapshot) : Json.Value :=
  .obj [("bytes", .int s.bytes.toInt), ("process_bytes", .int s.processBytes.toInt),
    ("last_download_bytes", .int s.lastDownload.toInt), ("downloads", .int s.downloads.toInt),
    ("active_workers", .int s.activeWorkers.toInt), ("batch_failures", .int s.batchFailures.toInt)]

/-- Inserts a text into a list sorted in byte order. -/
def insertSorted (s : String) : List String → List String
  | [] => [s]
  | t :: ts => if s < t then s :: t :: ts else t :: insertSorted s ts

/-- The JSON of the proxy ring: whether it is active, its head when there is one, its members in
turn order and the evicted endpoints in byte order. -/
def ringJson (r : Ring) : Json.Value :=
  .obj ([("active", .bool r.active)] ++
    (match r.head? with
      | some e => [("current", .str e.render)]
      | none => []) ++
    [("endpoints", .arr (r.members.map fun e => .str e.render)),
     ("evicted", .arr ((r.evicted.map Endpoint.render).foldr insertSorted [] |>.map .str))])

/-- Replaces the record of a batch. -/
def ServerState.setRecord {σ : Type} (st : ServerState σ) (b : BatchRecord) : ServerState σ :=
  { st with batches := st.batches.map fun x => if x.batchId == b.batchId then b else x }

/-- The record of a batch, if the server has one. -/
def ServerState.record? {σ : Type} (st : ServerState σ) (id : String) : Option BatchRecord :=
  st.batches.find? (·.batchId == id)

namespace Server

variable {σ : Type} (s : Server σ)

/-- The `n`-th batch id of the server's own source (counting from 1). -/
def idAt (n : Nat) : Except String String :=
  match s.ids with
  | .source next => next n
  | .blank => .ok ("batch-" ++ toString n)

/-- The next batch id from the server's own source. -/
def nextId (st : ServerState σ) : ServerState σ × Except String String :=
  ({ st with issued := st.issued + 1 }, s.idAt (st.issued + 1))

/-- Runs a recorded batch over its pending set and records how it ended. A canceled run does not
start: its counts are empty. -/
def runBatch (st : ServerState σ) (b : BatchRecord) (p : Pending) (canceled : Bool) :
    ServerState σ :=
  let now := st.world.clock
  if canceled then
    st.setRecord { b with phase := .canceled, finished := some now,
                          result := some { batchId := b.batchId },
                          error := "batch canceled: " ++ FetchError.canceled.message }
  else
    let (w, _, result, err) := s.engine.runPending st.world b.batchId p
    let st := { st with world := w }
    let b := { b with finished := some now, result := some result }
    match err with
    | none => st.setRecord { b with phase := .completed }
    | some e => st.setRecord { b with phase := .ofError e, error := e.message }

/-- Handles a batch submission. -/
def submit (st : ServerState σ) (body : String) : ServerState σ × Response :=
  match BatchRequest.read body with
  | none => (st, .error 400 "invalid JSON")
  | some req =>
    if req.urls.items.isEmpty then (st, .error 400 "urls required")
    else
      match s.nextId st with
      | (st, .error msg) => (st, .error 500 ("generate batch id: " ++ msg))
      | (st, .ok id) =>
        let (p, added) := Pending.empty.add req.urls.items
        let b : BatchRecord := { batchId := id, added, submitted := st.world.clock }
        let st := { st with batches := b :: st.batches }
        if req.wait then
          let st := s.runBatch st b p false
          (st, .json 200 ((st.record? id).getD b).toJson)
        else
          let st := s.runBatch st b p st.stopping
          (st, .json 202 (.obj [("added", .int added), ("batch_id", .str id)]))

/-- Handles adding a proxy. -/
def addProxy (st : ServerState σ) (body : String) : ServerState σ × Response :=
  match ProxyRequest.read body with
  | none => (st, .error 400 "invalid JSON")
  | some req =>
    match Endpoint.parse req.endpoint with
    | .error f => (st, .error 400 f.message)
    | .ok ep =>
      match s.engine.poolExec st.world (.add ep) with
      | (w, .flag true) => ({ st with world := w }, .json 201 (.obj [("endpoint", .str ep.render)]))
      | (w, _) => ({ st with world := w }, .error 409 "proxy already known or pool disabled")

/-- Handles a request routed to an endpoint. -/
def serve (st : ServerState σ) (r : Request) : Route → ServerState σ × Response
  | .health => (st, .json 200 (.obj [("status", .str "ok")]))
  | .ready =>
    if st.stopping then (st, .error 503 "shutting down")
    else (st, .json 200 (.obj [("status", .str "ready")]))
  | .metrics => (st, .metrics)
  | .submitBatch => s.submit st r.body
  | .batch id =>
    match st.record? id with
    | some b => (st, .json 200 b.toJson)
    | none => (st, .error 404 "batch not found")
  | .stats => (st, .json 200 (snapshotJson (Engine.stats st.world)))
  | .listProxies => (st, .json 200 (ringJson st.world.ring))
  | .addProxy => s.addProxy st r.body
  | .notFound => (st, .notFound)
  | .wrongMethod => (st, .wrongMethod)

/-- Handles a request: the key check for the keyed area, then the endpoint. -/
def handle (st : ServerState σ) (r : Request) : ServerState σ × Response :=
  let path := r.routePath
  let rt := s.router r.method path
  if knownMethods.contains r.method && keyed path && s.authEnabled && r.apiKey != s.apiKey then
    (st, .error 403 "unauthorized")
  else s.serve st r rt

end Server

/-- Shuts the server down: background batches started from now on are canceled and readiness
fails. Nothing is left running, so shutting down does not fail. -/
def ServerState.shutdown {σ : Type} (st : ServerState σ) : ServerState σ × Option String :=
  ({ st with stopping := true }, none)

end Api

end Harvest
