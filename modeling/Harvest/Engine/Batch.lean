import Harvest.Batch.Run
import Harvest.Engine.Fetch
/-!
# Harvest.Engine.Batch

Running batches over the engine's pending set.

Every outcome of a batch goes to the observers, with the batch id, and then to the caller's
callback when there is one; a callback answers locators to queue. Successful outcomes are kept
in the result only when there is no callback. Starting a batch first takes a batch id; when the
id source fails, nothing runs.
-/

namespace Harvest

namespace Engine

variable {σ : Type} (e : Engine σ)

/-- The run's view of the engine: the world and the outcomes handed to the callback so far. The
callback's locators are added to the run's pending set in one call. -/
def batchHooks (batchId : String) (callback : Option (Outcome → List String)) :
    BatchHooks (World σ × List Outcome) where
  permits := e.filter.permits
  fetch p url :=
    let (w, out, err) := e.attemptAll p.1 url {} false
    ((w, p.2), out, err)
  deliver p out :=
    let w := (e.dispatch p.1 batchId out).1
    match callback with
    | none => ((w, p.2), [])
    | some cb => ((w, p.2 ++ [out]), [cb out])
  workerStarted p := ({ p.1 with counters := p.1.counters.workerStarted.1 }, p.2)
  workerFinished p := ({ p.1 with counters := p.1.counters.workerFinished }, p.2)
  batchFailure p := ({ p.1 with counters := p.1.counters.batchFailure }, p.2)

/-- Runs a batch with the given id over the engine's pending set; answers the result, the
failure if the batch did not complete, and the outcomes handed to the callback. -/
def run (w : World σ) (batchId : String) (callback : Option (Outcome → List String)) :
    World σ × BatchResult × Option FetchError × List Outcome :=
  let ((w', calls), p, result, err) :=
    Batch.run (e.batchHooks batchId callback) batchId e.config.maxFailures callback.isNone
      w.pending (w, [])
  ({ w' with pending := p }, result, err, calls)

/-- Runs a batch with the given id over a pending set of the caller's, without a callback; the
engine's own pending set is left as it was. Answers the caller's set as the run left it. -/
def runPending (w : World σ) (batchId : String) (p : Pending) :
    World σ × Pending × BatchResult × Option FetchError :=
  let own := w.pending
  let (w, result, err, _) := e.run { w with pending := p } batchId none
  ({ w with pending := own }, w.pending, result, err)

/-- Runs a batch under a new batch id. -/
def start (w : World σ) (callback : Option (Outcome → List String)) :
    World σ × BatchResult × Option FetchError × List Outcome :=
  match e.newBatchId w with
  | (w, .error msg) => (w, {}, some (.other msg), [])
  | (w, .ok id) => e.run w id callback

end Engine

end Harvest
