import Harvest.Batch.Step
/-!
# Harvest.Batch.Crew

A batch run with a crew of `n` workers, each action of the program one atomic step.

The run is the one of `Harvest.Batch.Step` with its single worker replaced by `n` workers that
share the feeder's channel and the run's bookkeeping. Where the one-worker run takes a check of
the run and the counting and delivering of an outcome as one action, the crew takes one step
for each call on the bookkeeping, each test of the run's context, each return of the fetcher and
each call of the callback, as the program does:

* a worker that receives a locator asks whether the run is aborted, then tests the context;
* it checks the filter (a refused locator is counted as filtered, then delivered), waits for the
  rate limiter, and calls the fetcher, which returns later;
* it tests the context again, then counts the outcome: a success is counted unless the run is
  aborted by then, in which case it is counted nowhere; a filtered failure is counted as
  filtered; any other failure is counted as failed, and when that aborts the run, or the run
  was aborted already, the failure is not delivered;
* it delivers the outcome, passes the caller's additions to the pending set and marks the
  locator finished.

Between two steps of one worker the others move: a worker can test the context before another
aborts the run and count its outcome after.
-/

namespace Harvest

namespace Crew

/-- Where one worker of the crew stands. -/
inductive Hand where
  /-- Waiting for a locator. -/
  | idle
  /-- Received a locator; about to ask whether the run is aborted. -/
  | received (u : String)
  /-- The run was not aborted; about to test the run's context. -/
  | cleared (u : String)
  /-- At work on the locator; about to check the filter. -/
  | started (u : String)
  /-- Passed the filter; waiting for the rate limiter. -/
  | limiting (u : String)
  /-- The fetcher is at work on the locator. -/
  | fetching (u : String)
  /-- The fetcher returned; about to test the context. -/
  | fetched (u : String) (out : Outcome) (err : Option FetchError)
  /-- The context was fine; about to count the outcome. -/
  | recording (u : String) (out : Outcome) (err : Option FetchError)
  /-- About to hand an outcome to the observers and the caller. -/
  | delivering (out : Outcome)
  /-- Passing the caller's additions to the pending set, one call at a time, then marking the
  locator finished. -/
  | adding (calls : List (List String))
  /-- Gone: the channel was closed. -/
  | exited
  deriving Repr

/-- What a crew's run shows, one action at a time. -/
inductive Event where
  /-- The feeder took a locator from the pending set. -/
  | popped (u : String)
  /-- A worker received a locator. -/
  | handed (u : String)
  /-- The feeder gave up the locator it offered, the run having stopped. -/
  | dropped (u : String)
  /-- A worker gave up the locator it held, the run having stopped. -/
  | abandoned (u : String)
  /-- A worker started on a locator, the run going on. -/
  | started (u : String)
  /-- The fetcher was called for a locator. -/
  | attempted (u : String)
  /-- The success of `u` was counted. -/
  | succeeded (u : String) (out : Outcome)
  /-- The success of `u` came after the run was aborted and was counted nowhere. -/
  | ignored (u : String) (out : Outcome)
  /-- The locator was counted as filtered: the filter or the fetcher refused it. -/
  | filtered (u : String)
  /-- The failure `e` of `u` was counted. -/
  | failed (u : String) (e : FetchError)
  /-- The failure just counted aborted the run. -/
  | tripped
  /-- An outcome went to the observers and the caller. -/
  | delivered (out : Outcome)
  /-- The caller added `urls` to the pending set, which appended `entered` and answered
  `count`. -/
  | added (urls entered : List String) (count : Nat)
  deriving Repr

/-- The state of a crew's run: the world, the pending set, the bookkeeping, whether the caller
has cancelled, where the feeder and each worker stand, and how far the run has come. -/
structure State (σ : Type) (n : Nat) where
  batchId : String
  world : σ
  pending : Pending
  tally : Tally
  canceled : Bool := false
  feeder : Feeder := .loop
  hands : Fin n → Hand := fun _ => .idle
  stage : Stage := .draining

variable {σ : Type} {n : Nat}

/-- A run about to start, every worker waiting. -/
def start (batchId : String) (p : Pending) (world : σ) (collect : Bool) (limit : Int) :
    State σ n :=
  { batchId := batchId, world := world, pending := p,
    tally := { collect := collect, limit := limit } }

namespace State

/-- The run's own part of a crew's state: the state of a one-worker run with the crew left out. -/
def core (s : State σ n) : Batch.State σ :=
  { batchId := s.batchId, world := s.world, pending := s.pending, tally := s.tally,
    canceled := s.canceled, feeder := s.feeder, stage := s.stage }

/-- Whether the run's context is done: the run aborted, or the caller cancelled. -/
def stopped (s : State σ n) : Bool := s.core.stopped

/-- Worker `i` moves to `x`. -/
def set (s : State σ n) (i : Fin n) (x : Hand) : State σ n :=
  { s with hands := fun j => if j = i then x else s.hands j }

end State

variable (h : BatchHooks σ)

/-- The atomic actions of a crew's run. As in the one-worker run, the feeder's taking, testing
and counting of a locator is one action, and so are the two halves of marking a locator
finished; every other call on the bookkeeping, test of the context, return of the fetcher and
call of the callback is an action of its own. -/
inductive Step : State σ n → List Event → State σ n → Prop where
  /-- The feeder sees the run aborted and leaves. -/
  | feederSeesAbort {s : State σ n} (hf : s.feeder = .loop) (ha : s.tally.aborted = true) :
      Step s [] { s with feeder := .exited }
  /-- The feeder sees the run going on. -/
  | feederGoesOn {s : State σ n} (hf : s.feeder = .loop) (ha : s.tally.aborted = false) :
      Step s [] { s with feeder := .pop }
  /-- The feeder finds the set empty. -/
  | popEmpty {s : State σ n} (hf : s.feeder = .pop) (hp : s.pending.pop.1 = none) :
      Step s [] { s with feeder := .empty }
  /-- The feeder takes a locator whose key the run has taken already, and skips it. -/
  | popSeen {s : State σ n} {u : String} {q : Pending} (hf : s.feeder = .pop)
      (hp : s.pending.pop = (some u, q)) (hk : Locator.key u ∈ s.tally.seen) :
      Step s [.popped u] { s with pending := q, feeder := .loop, tally := s.tally.skip }
  /-- The feeder takes a locator with a new key, marks the key and counts the locator in
  flight. -/
  | popNew {s : State σ n} {u : String} {q : Pending} (hf : s.feeder = .pop)
      (hp : s.pending.pop = (some u, q)) (hk : Locator.key u ∉ s.tally.seen) :
      Step s [.popped u]
        { s with pending := q, feeder := .offering u, tally := s.tally.dispatch (Locator.key u) }
  /-- Something is in flight: the feeder will wait. -/
  | emptyBusy {s : State σ n} (hf : s.feeder = .empty) (hi : s.tally.inflight ≠ 0) :
      Step s [] { s with feeder := .waiting }
  /-- Nothing is in flight: the feeder looks at the set once more. -/
  | emptyIdle {s : State σ n} (hf : s.feeder = .empty) (hi : s.tally.inflight = 0) :
      Step s [] { s with feeder := .recheck }
  /-- The set is still empty: the feeder leaves. -/
  | recheckDone {s : State σ n} (hf : s.feeder = .recheck) (hn : s.pending.size = 0) :
      Step s [] { s with feeder := .exited }
  /-- Locators arrived meanwhile: the feeder goes round again. -/
  | recheckMore {s : State σ n} (hf : s.feeder = .recheck) (hn : s.pending.size ≠ 0) :
      Step s [] { s with feeder := .loop }
  /-- The waiting feeder takes a wake-up. -/
  | wakeUp {s : State σ n} (hf : s.feeder = .waiting) (hw : s.tally.wake = true) :
      Step s [] { s with feeder := .loop, tally := { s.tally with wake := false } }
  /-- The waiting feeder sees the run stopped and leaves. -/
  | waitStopped {s : State σ n} (hf : s.feeder = .waiting) (hs : s.stopped = true) :
      Step s [] { s with feeder := .exited }
  /-- An idle worker receives the locator the feeder offers. -/
  | hand {s : State σ n} {u : String} (i : Fin n) (hf : s.feeder = .offering u)
      (hw : s.hands i = .idle) :
      Step s [.handed u] { s.set i (.received u) with feeder := .loop }
  /-- The run has stopped: the feeder gives up the locator it offers, marks it finished and
  leaves. -/
  | drop {s : State σ n} {u : String} (hf : s.feeder = .offering u) (hs : s.stopped = true) :
      Step s [.dropped u] { s with feeder := .exited, tally := (s.tally.abandon u).finished }
  /-- The channel is closed: an idle worker leaves. -/
  | leave {s : State σ n} (i : Fin n) (hw : s.hands i = .idle) (hf : s.feeder = .exited) :
      Step s [] (s.set i .exited)
  /-- The worker finds the run aborted and gives up its locator. -/
  | receivedAborted {s : State σ n} {u : String} (i : Fin n) (hw : s.hands i = .received u)
      (ha : s.tally.aborted = true) :
      Step s [.abandoned u] { s.set i (.adding []) with tally := s.tally.abandon u }
  /-- The worker finds the run not aborted. -/
  | receivedGoesOn {s : State σ n} {u : String} (i : Fin n) (hw : s.hands i = .received u)
      (ha : s.tally.aborted = false) :
      Step s [] (s.set i (.cleared u))
  /-- The worker finds the context done and gives up its locator. -/
  | clearedStopped {s : State σ n} {u : String} (i : Fin n) (hw : s.hands i = .cleared u)
      (hs : s.stopped = true) :
      Step s [.abandoned u] { s.set i (.adding []) with tally := s.tally.abandon u }
  /-- The context is fine: the worker starts on the locator. -/
  | begin {s : State σ n} {u : String} (i : Fin n) (hw : s.hands i = .cleared u)
      (hs : s.stopped = false) :
      Step s [.started u] { s.set i (.started u) with world := h.workerStarted s.world }
  /-- The filter refuses the locator: it is counted as filtered, to be delivered as failed. -/
  | refuse {s : State σ n} {u : String} (i : Fin n) (hw : s.hands i = .started u)
      (hp : h.permits u = false) :
      Step s [.filtered u]
        { s.set i (.delivering (Outcome.failed u (.filtered u))) with
          tally := s.tally.recordFiltered }
  /-- The filter permits the locator. -/
  | permit {s : State σ n} {u : String} (i : Fin n) (hw : s.hands i = .started u)
      (hp : h.permits u = true) :
      Step s [] (s.set i (.limiting u))
  /-- The rate limiter lets the worker through, and it calls the fetcher. -/
  | attempt {s : State σ n} {u : String} (i : Fin n) (hw : s.hands i = .limiting u) :
      Step s [.attempted u] (s.set i (.fetching u))
  /-- The rate limiter's wait ends with the context done: the locator is given up. -/
  | limiterStopped {s : State σ n} {u : String} (i : Fin n) (hw : s.hands i = .limiting u)
      (hs : s.stopped = true) :
      Step s [.abandoned u]
        { s.set i (.adding []) with world := h.workerFinished s.world,
                                    tally := s.tally.abandon u }
  /-- The fetcher returns. -/
  | fetchReturns {s : State σ n} {u : String} {w : σ} {out : Outcome} {err : Option FetchError}
      (i : Fin n) (hw : s.hands i = .fetching u) (hf : h.fetch s.world u = (w, out, err)) :
      Step s [] { s.set i (.fetched u out err) with world := w }
  /-- The context is done once the fetcher returned: the outcome is discarded. -/
  | fetchedStopped {s : State σ n} {u : String} {out : Outcome} {err : Option FetchError}
      (i : Fin n) (hw : s.hands i = .fetched u out err) (hs : s.stopped = true) :
      Step s [.abandoned u]
        { s.set i (.adding []) with world := h.workerFinished s.world,
                                    tally := s.tally.abandon u }
  /-- The context is fine once the fetcher returned: the outcome is to be counted. -/
  | fetchedGoesOn {s : State σ n} {u : String} {out : Outcome} {err : Option FetchError}
      (i : Fin n) (hw : s.hands i = .fetched u out err) (hs : s.stopped = false) :
      Step s [] (s.set i (.recording u out err))
  /-- A success is counted, the run going on. -/
  | succeed {s : State σ n} {u : String} {out : Outcome} (i : Fin n)
      (hw : s.hands i = .recording u out none) (ha : s.tally.aborted = false) :
      Step s [.succeeded u out] { s.set i (.delivering out) with tally := s.tally.success out }
  /-- A success comes after the run was aborted: it is counted nowhere, and still delivered. -/
  | ignore {s : State σ n} {u : String} {out : Outcome} (i : Fin n)
      (hw : s.hands i = .recording u out none) (ha : s.tally.aborted = true) :
      Step s [.ignored u out] { s.set i (.delivering out) with tally := s.tally.success out }
  /-- The fetcher refused the locator as filtered: it is counted as filtered. -/
  | fetcherRefused {s : State σ n} {u : String} {out : Outcome} {e : FetchError} (i : Fin n)
      (hw : s.hands i = .recording u out (some e)) (he : e.isFiltered = true) :
      Step s [.filtered u]
        { s.set i (.delivering { out with ok := false, err := some e }) with
          tally := s.tally.recordFiltered }
  /-- A failure is counted below the ceiling: it is to be delivered. -/
  | fail {s : State σ n} {u : String} {out : Outcome} {e : FetchError} {t : Tally} (i : Fin n)
      (hw : s.hands i = .recording u out (some e)) (he : e.isFiltered = false)
      (ht : s.tally.failure = (t, false)) :
      Step s [.failed u e]
        { s.set i (.delivering { out with ok := false, err := some e }) with
          world := h.batchFailure s.world, tally := t }
  /-- A failure reaches the ceiling: the run aborts, and the failure is not delivered. -/
  | trip {s : State σ n} {u : String} {out : Outcome} {e : FetchError} {t : Tally} (i : Fin n)
      (hw : s.hands i = .recording u out (some e)) (he : e.isFiltered = false)
      (ha : s.tally.aborted = false) (ht : s.tally.failure = (t, true)) :
      Step s [.failed u e, .tripped]
        { s.set i (.adding []) with world := h.workerFinished (h.batchFailure s.world),
                                    tally := t }
  /-- A failure comes after the run was aborted: it is counted, and not delivered. -/
  | failAfterAbort {s : State σ n} {u : String} {out : Outcome} {e : FetchError} (i : Fin n)
      (hw : s.hands i = .recording u out (some e)) (he : e.isFiltered = false)
      (ha : s.tally.aborted = true) :
      Step s [.failed u e]
        { s.set i (.adding []) with world := h.workerFinished (h.batchFailure s.world),
                                    tally := s.tally.failure.1 }
  /-- The worker hands its outcome to the observers and the caller. -/
  | deliver {s : State σ n} {out : Outcome} {w : σ} {calls : List (List String)} (i : Fin n)
      (hw : s.hands i = .delivering out) (hd : h.deliver s.world out = (w, calls)) :
      Step s [.delivered out] { s.set i (.adding calls) with world := h.workerFinished w }
  /-- One of the caller's additions reaches the pending set. -/
  | add {s : State σ n} {c : List String} {cs : List (List String)} {q : Pending} {m : Nat}
      (i : Fin n) (hw : s.hands i = .adding (c :: cs)) (ha : s.pending.add c = (q, m)) :
      Step s [.added c (q.toList.drop s.pending.size) m] { s.set i (.adding cs) with pending := q }
  /-- The worker marks its locator finished and wakes the feeder. -/
  | finish {s : State σ n} (i : Fin n) (hw : s.hands i = .adding []) :
      Step s [] { s.set i .idle with tally := s.tally.finished }
  /-- The feeder and every worker are done: the run reads the leftover and settles the pending
  set. -/
  | settle {s : State σ n} (hst : s.stage = .draining) (hf : s.feeder = .exited)
      (hw : ∀ i, s.hands i = .exited) :
      Step s [] { s with stage := .settled s.pending.size, pending := s.core.settledPending }
  /-- The run answers. -/
  | answer {s : State σ n} {leftover : Nat} (hst : s.stage = .settled leftover) :
      Step s [] { s with stage := .returned (s.core.result leftover) s.core.error }
  /-- The caller cancels while the run is on. -/
  | cancel {s : State σ n} (hc : s.canceled = false) (hr : s.stage.answered = false) :
      Step s [] { s with canceled := true }

/-- The runs from a state: the states some sequence of steps reaches, with the events shown on
the way. -/
inductive Reaches (s₀ : State σ n) : List Event → State σ n → Prop where
  | refl : Reaches s₀ [] s₀
  | step {tr : List Event} {s s' : State σ n} {evs : List Event} :
      Reaches s₀ tr s → Step h s evs s' → Reaches s₀ (tr ++ evs) s'

end Crew

end Harvest
