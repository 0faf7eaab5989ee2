import Harvest.Batch.Pending
import Harvest.Dispatch
import Harvest.Fetch.Download
import Harvest.Ledger
import Harvest.Proxy.Ring
import Harvest.Recorder.Observe
/-!
# Harvest.Engine.Basic

The engine: its configuration, the state it keeps between calls, and the calls that only read or
queue.

An engine owns a pending set, a proxy ring, its counters (with the byte total it shares), a
source of batch ids and its observers. The state also holds what the world around it is: the
transport's state, the local disk, and the clock the recorder stamps records with. Observers are
called in registration order with every delivered outcome and the id of the batch it belongs to
(empty outside batches); their failures are joined and ignored by the engine.
-/

namespace Harvest

/-- Where batch ids come from: no source (every batch has the empty id), or a source that answers
its `n`-th call (counting from 1) with an id or a failure. -/
inductive BatchIds where
  | blank
  | source (next : Nat → Except String String)

/-- The source `batch-1`, `batch-2`, …. -/
def BatchIds.sequence : BatchIds := .source fun n => .ok ("batch-" ++ toString n)

/-- A source that fails every call. -/
def BatchIds.exhausted : BatchIds := .source fun _ => .error "id source exhausted"

/-- An observer of delivered outcomes. -/
inductive Observer where
  /-- Keeps every outcome it sees (and answers a failure when `fails`). -/
  | log (fails : Bool)
  /-- The recorder. -/
  | recorder
  deriving DecidableEq, Repr

/-- A parser of fetched documents: body, URI and whether to read it as XML, to a document or a
failure text. -/
structure DocumentParser where
  parse : Bytes → String → Bool → Except String Json.Value

/-- The configuration of an engine. -/
structure EngineConfig where
  settings : Settings := {}
  filter : FilterRules := {}
  proxies : List Endpoint := []
  switchEvery : Int := 0
  liveness : Liveness := .assumed
  maxFailures : Int := 0
  ids : BatchIds := .blank
  parser : Option DocumentParser := none
  observers : List Observer := []
  recorder : RecorderConfig := {}

/-- An engine: its configuration and the transport it sends requests through. -/
structure Engine (σ : Type) where
  config : EngineConfig
  transport : Http.Transport σ

/-- The state of an engine and the world around it. -/
structure World (σ : Type) where
  net : σ
  disk : Disk := {}
  pending : Pending := Pending.empty
  ring : Ring
  counters : Counters := {}
  totals : Totals := {}
  clock : Instant
  batchIdsIssued : Nat := 0
  /-- What the logging observers saw, with batch ids. -/
  seen : List (Outcome × String) := []
  /-- Endpoints probed, in order. -/
  probes : List Endpoint := []
  recorder : Recorder

namespace Engine

variable {σ : Type} (e : Engine σ)

/-- The download filter. -/
def filter : Filter := Filter.build e.config.filter

/-- The downloader. -/
def downloader : Downloader := ⟨e.config.settings, e.filter⟩

/-- The state of a new engine in a world. -/
def initial (net : σ) (disk : Disk) (clock : Instant) : World σ :=
  { net := net, disk := disk, ring := Ring.build e.config.proxies e.config.switchEvery,
    clock := clock, recorder := { config := e.config.recorder } }

/-- Queues locators; answers how many were new. -/
def add (w : World σ) (urls : List String) : World σ × Nat :=
  let (p, n) := w.pending.add urls
  ({ w with pending := p }, n)

/-- The queued locators in order. -/
def pendingList (w : World σ) : List String := w.pending.toList

/-- The counters with the shared total. -/
def stats (w : World σ) : Snapshot := w.counters.snapshot w.totals

/-- The next batch id. -/
def newBatchId (w : World σ) : World σ × Except String String :=
  match e.config.ids with
  | .blank => (w, .ok "")
  | .source next =>
    let n := w.batchIdsIssued + 1
    ({ w with batchIdsIssued := n }, (next n).mapError ("new batch id: " ++ ·))

/-- Hands an outcome to one observer. -/
def observe (w : World σ) (batchId : String) (out : Outcome) : Observer → World σ × Option String
  | .log fails =>
    ({ w with seen := w.seen ++ [(out, batchId)] }, if fails then some "observer failed" else none)
  | .recorder =>
    let (r, err) := w.recorder.observe batchId w.clock out
    ({ w with recorder := r }, err)

/-- Hands an outcome to every observer in order; answers the joined failure. -/
def dispatch (w : World σ) (batchId : String) (out : Outcome) : World σ × Option String :=
  let (w, answers) := e.config.observers.foldl (fun (w, acc) obs =>
    let (w, a) := observe w batchId out obs
    (w, acc ++ [a])) (w, [])
  (w, Dispatch.joined answers)

/-- Moves the clock on. -/
def advanceClock (w : World σ) (seconds : Int) : World σ :=
  { w with clock := w.clock.addSeconds seconds }

/-- Runs one operation on the proxy ring. -/
def poolExec (w : World σ) (c : Ring.Command) : World σ × Ring.Reply :=
  match Ring.exec e.config.liveness (some w.ring) c with
  | (r, reply, probed) => ({ w with ring := r.getD w.ring, probes := w.probes ++ probed }, reply)

end Engine

end Harvest
