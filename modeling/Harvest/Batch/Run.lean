import Harvest.Batch.Step
/-!
# Harvest.Batch.Run

Running a batch: one order of the steps of `Harvest.Batch.Step`.

The feeder moves whenever it can, then the worker, then the run itself; the caller never
cancels. In a wait with two channels ready the feeder takes the one that is not the run's
stop. So the feeder takes the next locator as soon as the worker has received one, and offers it
while the worker is busy; it finds out that the run was aborted when the worker has finished.

A run that keeps going for `fuel` steps is reported as it stands then.
-/

namespace Harvest

namespace Batch

variable {σ : Type} (h : BatchHooks σ)

/-- The feeder's next action, if it can take one. -/
def feederStep (s : State σ) : Option (State σ × List Event) :=
  match s.feeder with
  | .loop =>
    if s.tally.aborted then some ({ s with feeder := .exited }, [])
    else some ({ s with feeder := .pop }, [])
  | .pop =>
    match s.pending.pop with
    | (none, _) => some ({ s with feeder := .empty }, [])
    | (some u, q) =>
      if s.tally.seen.contains (Locator.key u) then
        some ({ s with pending := q, feeder := .loop, tally := s.tally.skip }, [.popped u])
      else
        some ({ s with pending := q, feeder := .offering u,
                       tally := s.tally.dispatch (Locator.key u) }, [.popped u])
  | .empty =>
    if s.tally.inflight = 0 then some ({ s with feeder := .recheck }, [])
    else some ({ s with feeder := .waiting }, [])
  | .recheck =>
    if s.pending.size = 0 then some ({ s with feeder := .exited }, [])
    else some ({ s with feeder := .loop }, [])
  | .waiting =>
    if s.tally.wake then
      some ({ s with feeder := .loop, tally := { s.tally with wake := false } }, [])
    else if s.stopped then some ({ s with feeder := .exited }, [])
    else none
  | .offering u =>
    match s.worker with
    | .idle => some ({ s with feeder := .loop, worker := .received u }, [.handed u])
    | _ =>
      if s.stopped then
        some ({ s with feeder := .exited, tally := (s.tally.abandon u).finished }, [.dropped u])
      else none
  | .exited => none

/-- The worker's counting and delivering of a fetched outcome. -/
def settleFetched (s : State σ) (u : String) (out : Outcome) :
    Option FetchError → State σ × List Event
  | none =>
    let (w, calls) := h.deliver s.world out
    ({ s with world := h.workerFinished w, worker := .adding calls, tally := s.tally.success out },
      [.succeeded out, .delivered out])
  | some e =>
    let failed := { out with ok := false, err := some e }
    if e.isFiltered then
      let (w, calls) := h.deliver s.world failed
      ({ s with world := h.workerFinished w, worker := .adding calls,
                tally := s.tally.recordFiltered }, [.delivered failed])
    else
      match s.tally.failure with
      | (t, true) =>
        ({ s with world := h.workerFinished (h.batchFailure s.world), worker := .adding [],
                  tally := t }, [.failed u e])
      | (t, false) =>
        let (w, calls) := h.deliver (h.batchFailure s.world) failed
        ({ s with world := h.workerFinished w, worker := .adding calls, tally := t },
          [.failed u e, .delivered failed])

/-- The worker's next action, if it can take one; the rate limiter always lets it through. -/
def workerStep (s : State σ) : Option (State σ × List Event) :=
  match s.worker with
  | .idle =>
    match s.feeder with
    | .exited => some ({ s with worker := .exited }, [])
    | _ => none
  | .received u =>
    if s.stopped then
      some ({ s with worker := .adding [], tally := s.tally.abandon u }, [.abandoned u])
    else if h.permits u then
      some ({ s with world := h.workerStarted s.world, worker := .limiting u }, [.checked u])
    else
      let refused := Outcome.failed u (.filtered u)
      let (w, calls) := h.deliver (h.workerStarted s.world) refused
      some ({ s with world := h.workerFinished w, worker := .adding calls,
                     tally := s.tally.recordFiltered }, [.checked u, .delivered refused])
  | .limiting u =>
    let (w, out, err) := h.fetch s.world u
    some ({ s with world := w, worker := .fetched u out err }, [.fetched u])
  | .fetched u out err =>
    if s.stopped then
      some ({ s with world := h.workerFinished s.world, worker := .adding [],
                     tally := s.tally.abandon u }, [.abandoned u])
    else some (settleFetched h s u out err)
  | .adding (c :: cs) =>
    let (q, n) := s.pending.add c
    some ({ s with pending := q, worker := .adding cs },
      [.added c (q.toList.drop s.pending.size) n])
  | .adding [] => some ({ s with worker := .idle, tally := s.tally.finished }, [])
  | .exited => none

/-- The run's own next action: settling once both parties are done, then answering. -/
def closeStep (s : State σ) : Option (State σ × List Event) :=
  match s.stage, s.feeder, s.worker with
  | .draining, .exited, .exited =>
    some ({ s with stage := .settled s.pending.size, pending := s.settledPending }, [])
  | .settled leftover, _, _ => some ({ s with stage := .returned (s.result leftover) s.error }, [])
  | _, _, _ => none

/-- The next step of a run: the feeder's if it can move, else the worker's, else the run's. -/
def eagerStep (s : State σ) : Option (State σ × List Event) :=
  match feederStep s with
  | some r => some r
  | none =>
    match workerStep h s with
    | some r => some r
    | none => closeStep s

/-- Takes up to `n` steps. -/
def drive : Nat → State σ → State σ
  | 0, s => s
  | n + 1, s =>
    match eagerStep h s with
    | some (s', _) => drive n s'
    | none => s

/-- The bound on the steps of one run. -/
def fuel : Nat := 100000000

/-- What a run answers: its summary and how it ended, or, when it has not answered, what it has
counted so far. -/
def State.answer (s : State σ) : BatchResult × Option FetchError :=
  match s.stage with
  | .returned result err => (result, err)
  | _ => (s.result s.pending.size, s.error)

/-- Runs a batch over a pending set; answers the world, the pending set, the summary and how the
run ended. -/
def run (batchId : String) (maxFailures : Int) (collect : Bool) (p : Pending) (world : σ) :
    σ × Pending × BatchResult × Option FetchError :=
  let s := drive h fuel (start batchId p world collect maxFailures)
  (s.world, s.pending, s.answer)

end Batch

end Harvest
