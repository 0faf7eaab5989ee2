import Harvest.Batch.Pending
import Harvest.Fetch.Outcome
import Harvest.Locator
/-!
# Harvest.Batch.Step

The atomic actions of a batch run with one worker.

A run has two parties that share the pending set and the run's bookkeeping. The *feeder* takes
locators off the pending set, skips (and counts) those whose key this run has taken already,
counts the others in flight and offers them to the *worker* one at a time. The worker tests
whether the run goes on, checks the filter (a refused locator is counted as filtered and
delivered), waits for the rate limiter, fetches, and then counts and delivers the outcome: a
success is counted and, when the run collects, kept; a filtered failure is counted as filtered;
any other failure is counted as failed and, when the ceiling `M > 0` is reached with it, aborts
the run instead of being delivered. Delivering hands the outcome to the observers and to the
caller, who may add locators to the pending set, one call at a time; then the worker marks the
locator finished, which wakes the feeder.

When the feeder finds the set empty while a locator is in flight it waits for a wake-up; when it
finds the set empty with nothing in flight, and the set is still empty when it looks again, it
leaves. An abort, or the caller cancelling, *stops* the run: the feeder leaves any wait and gives
up the locator it offers, and the worker gives up the locator it holds; such locators are
*abandoned*. When both parties are done, the run reads how many locators are still pending,
clears the set after an abort or puts the abandoned locators back after a cancellation, and
answers.

`Step` lists the actions, one constructor for each critical section of the program, with the
events (`Event`) each shows. The parties take their actions in any order: a run is any sequence
of steps.
-/

namespace Harvest

/-- What a run needs from the world it runs in. -/
structure BatchHooks (σ : Type) where
  /-- Whether the filter permits a locator. -/
  permits : String → Bool
  /-- Fetches a locator (with retries). -/
  fetch : σ → String → σ × Outcome × Option FetchError
  /-- Hands an outcome to the observers and the caller; answers the world afterwards and the
  lists of locators the caller adds to the pending set, one list for each call, in order. -/
  deliver : σ → Outcome → σ × List (List String)
  workerStarted : σ → σ
  workerFinished : σ → σ
  /-- Counts a failed locator. -/
  batchFailure : σ → σ

/-- The bookkeeping of one run, shared by its parties. -/
structure Tally where
  collect : Bool
  /-- The failure ceiling; zero or less for none. -/
  limit : Int
  /-- Keys taken so far. -/
  seen : List String := []
  outcomes : List Outcome := []
  succeeded : Nat := 0
  failed : Nat := 0
  filtered : Nat := 0
  skipped : Nat := 0
  aborted : Bool := false
  abandoned : List String := []
  /-- Locators counted in flight and not yet finished. -/
  inflight : Nat := 0
  /-- Whether a wake-up waits in the feeder's one-place channel. -/
  wake : Bool := false
  deriving Repr

/-- The summary of a run. -/
structure BatchResult where
  batchId : String := ""
  /-- The successful outcomes, when the run collected them and was not aborted. -/
  outcomes : List Outcome := []
  succeeded : Nat := 0
  failed : Nat := 0
  filtered : Nat := 0
  skipped : Nat := 0
  abandoned : Nat := 0
  aborted : Bool := false
  deriving Repr

namespace Tally

/-- Counts a success, and keeps its outcome when the run collects; an aborted run counts no
more. -/
def success (t : Tally) (out : Outcome) : Tally :=
  { t with succeeded := if t.aborted then t.succeeded else t.succeeded + 1,
           outcomes := if t.aborted || !t.collect then t.outcomes else t.outcomes ++ [out] }

/-- Counts a failure; says whether the run is (now) aborted. -/
def failure (t : Tally) : Tally × Bool :=
  let t := { t with failed := t.failed + 1 }
  if t.aborted || t.limit ≤ 0 || (t.failed : Int) < t.limit then (t, t.aborted)
  else ({ t with aborted := true, outcomes := [] }, true)

/-- Counts a locator the filter refused. -/
def recordFiltered (t : Tally) : Tally := { t with filtered := t.filtered + 1 }

/-- Counts a locator skipped for a key taken already. -/
def skip (t : Tally) : Tally := { t with skipped := t.skipped + 1 }

/-- Marks a key taken and counts its locator in flight. -/
def dispatch (t : Tally) (k : String) : Tally :=
  { t with seen := k :: t.seen, inflight := t.inflight + 1 }

/-- Records a locator given up. -/
def abandon (t : Tally) (u : String) : Tally := { t with abandoned := t.abandoned ++ [u] }

/-- Marks a locator finished and leaves a wake-up for the feeder. -/
def finished (t : Tally) : Tally := { t with inflight := t.inflight - 1, wake := true }

theorem success_of_not_aborted {t : Tally} (out : Outcome) (h : t.aborted = false) :
    t.success out =
      { t with succeeded := t.succeeded + 1,
               outcomes := if t.collect then t.outcomes ++ [out] else t.outcomes } := by
  cases hc : t.collect <;> simp [success, h, hc]

/-- A failure counts one more failed locator, aborts the run when it answers `true`, and then
drops the kept outcomes unless the run was aborted already. -/
theorem eq_of_failure {t t' : Tally} {b : Bool} (h : t.failure = (t', b)) :
    t' = { t with failed := t.failed + 1, aborted := b,
                  outcomes := if b = t.aborted then t.outcomes else [] } ∧
      (t.aborted = true → b = true) := by
  unfold failure at h
  dsimp only at h
  split at h
  · cases h
    simp
  · next hlim =>
    cases h
    have ha : t.aborted = false := by
      cases hta : t.aborted
      · rfl
      · simp [hta] at hlim
    simp [ha]

/-- A failure counted while the run goes on aborts it exactly when the ceiling is positive and
the failure reaches it. -/
theorem failure_trips {t t' : Tally} {b : Bool} (h : t.failure = (t', b)) (ha : t.aborted = false) :
    b = true ↔ 0 < t.limit ∧ t.limit ≤ (t.failed : Int) + 1 := by
  unfold failure at h
  dsimp only at h
  split at h
  · next hlim =>
    -- below the ceiling, or no ceiling: the run goes on
    cases h
    simp only [ha, Bool.false_or, Bool.or_eq_true, decide_eq_true_eq] at hlim
    simp only [ha, Bool.false_eq_true, false_iff]
    omega
  · next hlim =>
    cases h
    simp only [ha, Bool.false_or, Bool.or_eq_true, decide_eq_true_eq] at hlim
    simp only [true_iff]
    omega

end Tally

/-- Where the feeder stands. -/
inductive Feeder where
  /-- About to test whether the run is aborted. -/
  | loop
  /-- About to take from the pending set. -/
  | pop
  /-- Found the set empty; about to look at the count in flight. -/
  | empty
  /-- Found nothing in flight either; about to look at the set's size. -/
  | recheck
  /-- Waiting for a wake-up, or for the run to stop. -/
  | waiting
  /-- Offering a locator to the worker, or giving it up when the run stops. -/
  | offering (u : String)
  /-- Gone; the worker's channel is closed. -/
  | exited
  deriving DecidableEq, Repr

/-- Where the worker stands. -/
inductive Worker where
  /-- Waiting for a locator. -/
  | idle
  /-- Holds a locator; about to test whether the run goes on and check the filter. -/
  | received (u : String)
  /-- Passed the filter; about to wait for the rate limiter and fetch. -/
  | limiting (u : String)
  /-- Fetched; about to test whether the run goes on and count the outcome. -/
  | fetched (u : String) (out : Outcome) (err : Option FetchError)
  /-- Passing the caller's additions to the pending set, one call at a time, then marking the
  locator finished. -/
  | adding (calls : List (List String))
  /-- Gone: the channel was closed. -/
  | exited
  deriving Repr

/-- How far the run itself has come. -/
inductive Stage where
  /-- The parties are at work. -/
  | draining
  /-- Both parties are done; `leftover` locators were pending then. -/
  | settled (leftover : Nat)
  /-- The run answered. -/
  | returned (result : BatchResult) (err : Option FetchError)
  deriving Repr

/-- Whether the run has answered. -/
def Stage.answered : Stage → Bool
  | .returned .. => true
  | _ => false

/-- What a run shows, one action at a time. -/
inductive Event where
  /-- The feeder took a locator from the pending set. -/
  | popped (u : String)
  /-- The worker received a locator. -/
  | handed (u : String)
  /-- The feeder gave up the locator it offered, the run having stopped. -/
  | dropped (u : String)
  /-- The worker started on a locator: the filter check. -/
  | checked (u : String)
  /-- The fetcher was called for a locator. -/
  | fetched (u : String)
  /-- The worker gave up the locator it held, the run having stopped. -/
  | abandoned (u : String)
  /-- A success was counted. -/
  | succeeded (out : Outcome)
  /-- The fetch of `u` failed with `e`, a failure that is not a filter's refusal, and the
  failure was counted. -/
  | failed (u : String) (e : FetchError)
  /-- An outcome went to the observers and the caller. -/
  | delivered (out : Outcome)
  /-- The caller added `urls` to the pending set, which appended `entered` and answered `count`,
  the number it appended. -/
  | added (urls entered : List String) (count : Nat)
  deriving Repr

namespace Batch

/-- The state of a run: the world, the pending set, the bookkeeping, whether the caller has
cancelled, and where each party stands. -/
structure State (σ : Type) where
  batchId : String
  world : σ
  pending : Pending
  tally : Tally
  canceled : Bool := false
  feeder : Feeder := .loop
  worker : Worker := .idle
  stage : Stage := .draining

variable {σ : Type}

/-- A run about to start. -/
def start (batchId : String) (p : Pending) (world : σ) (collect : Bool) (limit : Int) :
    State σ :=
  { batchId := batchId, world := world, pending := p,
    tally := { collect := collect, limit := limit } }

namespace State

/-- Whether the run has stopped: aborted, or cancelled by the caller. -/
def stopped (s : State σ) : Bool := s.tally.aborted || s.canceled

/-- The summary of the run, with `leftover` locators found pending at the end. -/
def result (s : State σ) (leftover : Nat) : BatchResult :=
  { batchId := s.batchId, outcomes := if s.tally.aborted then [] else s.tally.outcomes,
    succeeded := s.tally.succeeded, failed := s.tally.failed, filtered := s.tally.filtered,
    skipped := s.tally.skipped, abandoned := s.tally.abandoned.length + leftover,
    aborted := s.tally.aborted }

/-- How the run ends: aborted, cancelled, or completed. -/
def error (s : State σ) : Option FetchError :=
  if s.tally.aborted then some (.aborted s.tally.failed s.tally.limit)
  else if s.canceled then some (.batchCanceled .canceled)
  else none

/-- A run ends without an error exactly when it has not stopped. -/
theorem error_eq_none (s : State σ) : s.error = none ↔ s.stopped = false := by
  unfold error stopped
  cases s.tally.aborted <;> cases s.canceled <;> simp

/-- A run ends with an abort exactly when it was aborted, and then reports its failures and its
ceiling. -/
theorem error_eq_aborted (s : State σ) (F L : Int) :
    s.error = some (.aborted F L) ↔
      s.tally.aborted = true ∧ F = s.tally.failed ∧ L = s.tally.limit := by
  unfold error
  cases s.tally.aborted <;> cases s.canceled <;> simp [eq_comm]

/-- The pending set once the run is over: cleared after an abort, the abandoned locators put
back after a cancellation. -/
def settledPending (s : State σ) : Pending :=
  if s.tally.aborted then Pending.empty
  else if s.canceled then (s.pending.add s.tally.abandoned).1
  else s.pending

end State

variable (h : BatchHooks σ)

/-- The atomic actions of a run. The feeder's bookkeeping of keys, skips and the count in flight
is read by no other party, so taking a locator, testing its key and counting it in flight form
one action; so do the two halves of marking a locator finished, which only the feeder reads. -/
inductive Step : State σ → List Event → State σ → Prop where
  /-- The feeder sees the run aborted and leaves. -/
  | feederSeesAbort {s : State σ} (hf : s.feeder = .loop) (ha : s.tally.aborted = true) :
      Step s [] { s with feeder := .exited }
  /-- The feeder sees the run going on. -/
  | feederGoesOn {s : State σ} (hf : s.feeder = .loop) (ha : s.tally.aborted = false) :
      Step s [] { s with feeder := .pop }
  /-- The feeder finds the set empty. -/
  | popEmpty {s : State σ} (hf : s.feeder = .pop) (hp : s.pending.pop.1 = none) :
      Step s [] { s with feeder := .empty }
  /-- The feeder takes a locator whose key the run has taken already, and skips it. -/
  | popSeen {s : State σ} {u : String} {q : Pending} (hf : s.feeder = .pop)
      (hp : s.pending.pop = (some u, q)) (hk : Locator.key u ∈ s.tally.seen) :
      Step s [.popped u] { s with pending := q, feeder := .loop, tally := s.tally.skip }
  /-- The feeder takes a locator with a new key, marks the key and counts the locator in
  flight. -/
  | popNew {s : State σ} {u : String} {q : Pending} (hf : s.feeder = .pop)
      (hp : s.pending.pop = (some u, q)) (hk : Locator.key u ∉ s.tally.seen) :
      Step s [.popped u]
        { s with pending := q, feeder := .offering u, tally := s.tally.dispatch (Locator.key u) }
  /-- Something is in flight: the feeder will wait. -/
  | emptyBusy {s : State σ} (hf : s.feeder = .empty) (hi : s.tally.inflight ≠ 0) :
      Step s [] { s with feeder := .waiting }
  /-- Nothing is in flight: the feeder looks at the set once more. -/
  | emptyIdle {s : State σ} (hf : s.feeder = .empty) (hi : s.tally.inflight = 0) :
      Step s [] { s with feeder := .recheck }
  /-- The set is still empty: the feeder leaves. -/
  | recheckDone {s : State σ} (hf : s.feeder = .recheck) (hn : s.pending.size = 0) :
      Step s [] { s with feeder := .exited }
  /-- Locators arrived meanwhile: the feeder goes round again. -/
  | recheckMore {s : State σ} (hf : s.feeder = .recheck) (hn : s.pending.size ≠ 0) :
      Step s [] { s with feeder := .loop }
  /-- The waiting feeder takes a wake-up. -/
  | wakeUp {s : State σ} (hf : s.feeder = .waiting) (hw : s.tally.wake = true) :
      Step s [] { s with feeder := .loop, tally := { s.tally with wake := false } }
  /-- The waiting feeder sees the run stopped and leaves. -/
  | waitStopped {s : State σ} (hf : s.feeder = .waiting) (hs : s.stopped = true) :
      Step s [] { s with feeder := .exited }
  /-- The idle worker receives the locator the feeder offers. -/
  | hand {s : State σ} {u : String} (hf : s.feeder = .offering u) (hw : s.worker = .idle) :
      Step s [.handed u] { s with feeder := .loop, worker := .received u }
  /-- The run has stopped: the feeder gives up the locator it offers, marks it finished and
  leaves. -/
  | drop {s : State σ} {u : String} (hf : s.feeder = .offering u) (hs : s.stopped = true) :
      Step s [.dropped u] { s with feeder := .exited, tally := (s.tally.abandon u).finished }
  /-- The channel is closed: the idle worker leaves. -/
  | leave {s : State σ} (hw : s.worker = .idle) (hf : s.feeder = .exited) :
      Step s [] { s with worker := .exited }
  /-- The run has stopped: the worker gives up the locator it received. -/
  | abandonReceived {s : State σ} {u : String} (hw : s.worker = .received u)
      (hs : s.stopped = true) :
      Step s [.abandoned u] { s with worker := .adding [], tally := s.tally.abandon u }
  /-- The filter refuses the locator: it is counted as filtered and delivered as failed. -/
  | refuse {s : State σ} {u : String} {w : σ} {calls : List (List String)}
      (hw : s.worker = .received u) (hs : s.stopped = false) (hp : h.permits u = false)
      (hd : h.deliver (h.workerStarted s.world) (Outcome.failed u (.filtered u)) = (w, calls)) :
      Step s [.checked u, .delivered (Outcome.failed u (.filtered u))]
        { s with world := h.workerFinished w, worker := .adding calls,
                 tally := s.tally.recordFiltered }
  /-- The filter permits the locator. -/
  | permit {s : State σ} {u : String} (hw : s.worker = .received u) (hs : s.stopped = false)
      (hp : h.permits u = true) :
      Step s [.checked u] { s with world := h.workerStarted s.world, worker := .limiting u }
  /-- The rate limiter lets the worker through, and it fetches. -/
  | fetch {s : State σ} {u : String} {w : σ} {out : Outcome} {err : Option FetchError}
      (hw : s.worker = .limiting u) (hf : h.fetch s.world u = (w, out, err)) :
      Step s [.fetched u] { s with world := w, worker := .fetched u out err }
  /-- The rate limiter's wait ends with the run stopped: the locator is given up. -/
  | limiterStopped {s : State σ} {u : String} (hw : s.worker = .limiting u)
      (hs : s.stopped = true) :
      Step s [.abandoned u]
        { s with world := h.workerFinished s.world, worker := .adding [],
                 tally := s.tally.abandon u }
  /-- The run stopped while the fetch was on: the outcome is discarded. -/
  | fetchedStopped {s : State σ} {u : String} {out : Outcome} {err : Option FetchError}
      (hw : s.worker = .fetched u out err) (hs : s.stopped = true) :
      Step s [.abandoned u]
        { s with world := h.workerFinished s.world, worker := .adding [],
                 tally := s.tally.abandon u }
  /-- The fetch succeeded: the success is counted and delivered. -/
  | succeed {s : State σ} {u : String} {out : Outcome} {w : σ} {calls : List (List String)}
      (hw : s.worker = .fetched u out none) (hs : s.stopped = false)
      (hd : h.deliver s.world out = (w, calls)) :
      Step s [.succeeded out, .delivered out]
        { s with world := h.workerFinished w, worker := .adding calls,
                 tally := s.tally.success out }
  /-- The fetcher refused the locator as filtered: counted as filtered and delivered. -/
  | fetcherRefused {s : State σ} {u : String} {out : Outcome} {e : FetchError} {w : σ}
      {calls : List (List String)} (hw : s.worker = .fetched u out (some e))
      (hs : s.stopped = false) (he : e.isFiltered = true)
      (hd : h.deliver s.world { out with ok := false, err := some e } = (w, calls)) :
      Step s [.delivered { out with ok := false, err := some e }]
        { s with world := h.workerFinished w, worker := .adding calls,
                 tally := s.tally.recordFiltered }
  /-- The fetch failed below the ceiling: counted as failed and delivered. -/
  | fail {s : State σ} {u : String} {out : Outcome} {e : FetchError} {t : Tally} {w : σ}
      {calls : List (List String)} (hw : s.worker = .fetched u out (some e))
      (hs : s.stopped = false) (he : e.isFiltered = false) (ht : s.tally.failure = (t, false))
      (hd : h.deliver (h.batchFailure s.world) { out with ok := false, err := some e } =
        (w, calls)) :
      Step s [.failed u e, .delivered { out with ok := false, err := some e }]
        { s with world := h.workerFinished w, worker := .adding calls, tally := t }
  /-- The fetch failed and reached the ceiling: the run aborts, and the failure is not
  delivered. -/
  | trip {s : State σ} {u : String} {out : Outcome} {e : FetchError} {t : Tally}
      (hw : s.worker = .fetched u out (some e)) (hs : s.stopped = false)
      (he : e.isFiltered = false) (ht : s.tally.failure = (t, true)) :
      Step s [.failed u e]
        { s with world := h.workerFinished (h.batchFailure s.world), worker := .adding [],
                 tally := t }
  /-- One of the caller's additions reaches the pending set. -/
  | add {s : State σ} {c : List String} {cs : List (List String)} {q : Pending} {n : Nat}
      (hw : s.worker = .adding (c :: cs)) (ha : s.pending.add c = (q, n)) :
      Step s [.added c (q.toList.drop s.pending.size) n]
        { s with pending := q, worker := .adding cs }
  /-- The worker marks its locator finished and wakes the feeder. -/
  | finish {s : State σ} (hw : s.worker = .adding []) :
      Step s [] { s with worker := .idle, tally := s.tally.finished }
  /-- Both parties are done: the run reads the leftover and settles the pending set. -/
  | settle {s : State σ} (hst : s.stage = .draining) (hf : s.feeder = .exited)
      (hw : s.worker = .exited) :
      Step s [] { s with stage := .settled s.pending.size, pending := s.settledPending }
  /-- The run answers. -/
  | answer {s : State σ} {leftover : Nat} (hst : s.stage = .settled leftover) :
      Step s [] { s with stage := .returned (s.result leftover) s.error }
  /-- The caller cancels while the run is on (afterwards, cancelling changes nothing the run
  does). -/
  | cancel {s : State σ} (hc : s.canceled = false) (hr : s.stage.answered = false) :
      Step s [] { s with canceled := true }

/-- The runs from a state: the states some sequence of steps reaches, with the events shown on
the way. -/
inductive Reaches (s₀ : State σ) : List Event → State σ → Prop where
  | refl : Reaches s₀ [] s₀
  | step {tr : List Event} {s s' : State σ} {evs : List Event} :
      Reaches s₀ tr s → Step h s evs s' → Reaches s₀ (tr ++ evs) s'

end Batch

end Harvest
