import Harvest.Proofs.Batch.Ceiling
import Harvest.Proofs.Batch.Dispatch
import Harvest.Proofs.Engine.Shown
import Harvest.Proofs.Engine.SinglePath
/-!
# Harvest.Proofs.Engine.Books

How an engine's calls move its counters and the byte total it shares with other engines.

A download of an outcome records its size (`Outcome.amount`: the size as a 64-bit number, a
negative one counting as zero) in the engine's counters and in the shared total;
`Counters.recordAll` records a list of outcomes in order, and `Counters.recordAll_eq` says in
closed form what that does to each field. Each call records exactly the successful outcomes it
produces, in the order produced:

* a fetch records its outcome when it succeeds and nothing when it fails, however many attempts
  it made (`fetch_ledger`); so do `fetchOne` and `download`;
* a batch run, in any interleaving of its feeder and its one worker and with a caller that does
  not cancel, records the successes it counts, counts its failures as batch failures, and
  leaves the worker gauge where it found it (`Reaches.books_returned`). Along the run the gauge
  is up exactly while the worker processes a locator, and a success is recorded when it is
  fetched, before it is counted (`Books`).
-/

namespace Harvest

/-- The size a download of an outcome records: its size as a 64-bit number, a negative one
counting as zero. -/
def Outcome.amount (o : Outcome) : Int64 :=
  if Int64.ofInt o.size < 0 then 0 else Int64.ofInt o.size

theorem Outcome.amount_nonneg (o : Outcome) : ¬o.amount < 0 := by
  unfold amount
  split
  · decide
  · assumption

namespace Totals

/-- Adding a recorded amount adds it: a zero amount changes nothing either way. -/
theorem add_amount (t : Totals) (o : Outcome) : t.add o.amount = ⟨t.bytes + o.amount⟩ := by
  have hn := o.amount_nonneg
  unfold add
  split
  · rfl
  · next hp =>
    have h0 : o.amount = 0 := by
      rw [← Int64.toInt_inj]
      simp only [gt_iff_lt, Int64.lt_iff_toInt_lt, Int64.toInt_zero] at hn hp ⊢
      omega
    rw [h0, Int64.add_zero]

end Totals

namespace Counters

/-- Recording the download of an outcome, field by field. -/
theorem record_outcome (c : Counters) (t : Totals) (o : Outcome) :
    c.record t (Int64.ofInt o.size) =
      ({ c with bytes := c.bytes + o.amount, lastDownload := o.amount,
                downloads := c.downloads + 1 }, ⟨t.bytes + o.amount⟩) := by
  rw [← Totals.add_amount]
  rfl

/-- Records downloads of the outcomes in order, in the counters and in the shared total. -/
def recordAll (c : Counters) (t : Totals) (outs : List Outcome) : Counters × Totals :=
  outs.foldl (fun l o => l.1.record l.2 (Int64.ofInt o.size)) (c, t)

theorem recordAll_append (c : Counters) (t : Totals) (xs ys : List Outcome) :
    c.recordAll t (xs ++ ys) = (c.recordAll t xs).1.recordAll (c.recordAll t xs).2 ys := by
  simp [recordAll, List.foldl_append]

/-- Recording downloads in closed form: the bytes and the shared total grow by the amounts,
the count by their number, and the last download is the last amount. -/
theorem recordAll_eq (c : Counters) (t : Totals) (outs : List Outcome) :
    c.recordAll t outs =
      ({ c with bytes := c.bytes + (outs.map Outcome.amount).sum,
                lastDownload := (outs.getLast?.map Outcome.amount).getD c.lastDownload,
                downloads := c.downloads + Int64.ofNat outs.length },
        ⟨t.bytes + (outs.map Outcome.amount).sum⟩) := by
  induction outs generalizing c t with
  | nil => simp [recordAll, Int64.add_zero]
  | cons o os ih =>
    have hstep : c.recordAll t (o :: os) =
        (c.record t (Int64.ofInt o.size)).1.recordAll (c.record t (Int64.ofInt o.size)).2 os := rfl
    rw [hstep, record_outcome, ih]
    -- the last download is `o`'s amount only when nothing follows it
    have hlast : ((os.getLast?.map Outcome.amount).getD o.amount) =
        (((o :: os).getLast?.map Outcome.amount).getD c.lastDownload) := by
      cases os with
      | nil => rfl
      | cons o' os' => simp [List.getLast?_cons]
    simp only [List.map_cons, List.sum_cons, List.length_cons, Int64.ofNat_add, hlast,
      Int64.add_assoc, Int64.add_comm (1 : Int64)]
    rfl

end Counters

/-- The counters and the shared total of a world. -/
def World.ledger {σ : Type} (w : World σ) : Counters × Totals := (w.counters, w.totals)

/-! ## Single fetches -/

namespace Retry

variable {σ : Type} {h : RetryHooks σ} {url : String} {total : Int}

/-- The outcome of an answer of the attempt loop, when it succeeded. -/
def okOutcomes : Outcome × Option FetchError → List Outcome
  | (out, none) => [out]
  | (_, some _) => []

/-- What the loop leaves of a view `f` of the world: each successful attempt applies `g` with
its outcome, anything else leaves the view alone; so the loop applies `g` with the outcome it
answers if it succeeded, and nothing otherwise. -/
theorem loop_tally {L : Type} (f : σ → L) (g : L → Outcome → L)
    (hatt : ∀ s via, f (h.attempt s via).1 =
      match (h.attempt s via).2 with
      | .ok o => g (f s) o
      | .error _ => f s)
    (hsucc : ∀ s ep, f (h.succeeded s ep) = f s) (hfail : ∀ s ep, f (h.failed s ep) = f s)
    (hg : ∀ l o k, g l { o with attempts := k } = g l o) :
    ∀ (fuel n : Nat) (last : Option FetchError) (s : σ),
      f (loop h url total fuel n last s).1 =
        (okOutcomes (loop h url total fuel n last s).2).foldl g (f s) := by
  intro fuel
  induction fuel with
  | zero => intro _ _ _; rfl
  | succ fuel ih =>
    intro n last s
    have ha := hatt s (h.head s)
    simp only [loop]
    rcases hr : h.attempt s (h.head s) with ⟨s', _ | o⟩
    · next er =>
      rw [hr] at ha
      dsimp only at ha ⊢
      split
      · simp [okOutcomes, ha]
      · -- a failure that may be retried: the view is as it was, and the loop goes on
        rw [ih]
        congr 1
        cases h.head s <;> simp [hfail, ha]
    · rw [hr] at ha
      dsimp only at ha ⊢
      cases h.head s <;> simp [okOutcomes, hsucc, ha, hg]

end Retry

namespace Engine

variable {σ : Type} (e : Engine σ)

/-- The attempt loop of an engine records the outcome it answers when it succeeded, and
nothing otherwise. -/
theorem attemptAll_ledger (w : World σ) (url : String) (cond : Conditional) (canceled : Bool) :
    (e.attemptAll w url cond canceled).1.ledger =
      w.counters.recordAll w.totals (Retry.okOutcomes (e.attemptAll w url cond canceled).2) := by
  unfold attemptAll Retry.fetch
  split
  · rfl
  · refine Retry.loop_tally World.ledger (fun l o => l.1.record l.2 (Int64.ofInt o.size)) ?_ ?_ ?_
      ?_ _ _ _ _
    · intro s via
      simp only [retryHooks]
      split <;> rfl
    · intro s ep
      rfl
    · intro s ep
      rfl
    · intro l o k
      rfl

/-- Delivering an outcome to the observers leaves the books alone. -/
theorem dispatch_ledger (w : World σ) (batchId : String) (out : Outcome) :
    (e.dispatch w batchId out).1.ledger = w.ledger := by
  obtain ⟨seen, recorder, hd⟩ := e.dispatch_frame w batchId out
  rw [hd]
  rfl

/-- A fetch records its outcome when it succeeds, and nothing when it fails. -/
theorem fetch_ledger (w : World σ) (url : String) (cond : Conditional) (deliver canceled : Bool) :
    (e.fetch w url cond deliver canceled).1.ledger =
      w.counters.recordAll w.totals (Retry.okOutcomes (e.fetch w url cond deliver canceled).2) := by
  have hl := e.attemptAll_ledger w url cond canceled
  unfold fetch
  rcases hr : e.attemptAll w url cond canceled with ⟨w', out, err⟩
  rw [hr] at hl
  have hw : ∀ o : Outcome, (if deliver then (e.dispatch w' "" o).1 else w').ledger = w'.ledger := by
    intro o
    cases deliver
    · rfl
    · exact e.dispatch_ledger w' "" o
  dsimp only
  rw [hw]
  cases err <;> exact hl

/-- `fetchOne` records the outcome it answers, and nothing when it answers none. -/
theorem fetchOne_ledger (w : World σ) (url : String) (deliver : Bool) :
    (e.fetchOne w url deliver).1.ledger =
      w.counters.recordAll w.totals (e.fetchOne w url deliver).2.toList := by
  have hl := e.fetch_ledger w url {} deliver false
  unfold fetchOne
  rcases hf : e.fetch w url {} deliver false with ⟨w', out, _ | er⟩
  · rw [hf] at hl
    exact hl
  · rw [hf] at hl
    exact hl

/-- A download records the outcome its fetch answers, and nothing when it failed. -/
theorem download_ledger (w : World σ) (url : String) (strip : List Stripper) :
    (e.download w url strip).1.ledger =
      w.counters.recordAll w.totals (e.fetchOne w url false).2.toList := by
  rw [e.download_world]
  exact e.fetchOne_ledger w url false

end Engine

/-! ## The books of a batch run -/

namespace Counters

/-- The books of a batch run that started on the counters `c` and the total `t`: the successes
`ok` recorded, the worker gauge raised by `busy`, and `failed` batch failures counted. -/
def runBooks (c : Counters) (t : Totals) (ok : List Outcome) (busy failed : Nat) :
    Counters × Totals :=
  ({ (c.recordAll t ok).1 with activeWorkers := c.activeWorkers + Int64.ofNat busy,
                                batchFailures := c.batchFailures + Int64.ofNat failed },
    (c.recordAll t ok).2)

/-- Recording downloads leaves the two gauges alone. -/
theorem recordAll_gauges (c : Counters) (t : Totals) (ok : List Outcome) (a b : Int64) :
    ({ c with activeWorkers := a, batchFailures := b } : Counters).recordAll t ok =
      ({ (c.recordAll t ok).1 with activeWorkers := a, batchFailures := b }, (c.recordAll t ok).2) := by
  simp only [recordAll_eq]

theorem runBooks_start (c : Counters) (t : Totals) : c.runBooks t [] 0 0 = (c, t) := by
  have h0 : Int64.ofNat 0 = 0 := rfl
  simp [runBooks, recordAll, h0, Int64.add_zero]

/-- Recording more downloads on a run's books appends them to its successes. -/
theorem runBooks_record {w : Counters × Totals} {c : Counters} {t : Totals} {ok : List Outcome}
    {busy failed : Nat} (hw : w = c.runBooks t ok busy failed) (more : List Outcome) :
    w.1.recordAll w.2 more = c.runBooks t (ok ++ more) busy failed := by
  rw [hw, runBooks, recordAll_gauges, ← recordAll_append]
  rfl

/-- Outside a batch, the books only record downloads. -/
theorem runBooks_idle (c : Counters) (t : Totals) (ok : List Outcome) :
    c.runBooks t ok 0 0 = c.recordAll t ok := by
  have h0 : Int64.ofNat 0 = 0 := rfl
  simp [runBooks, recordAll_eq, h0, Int64.add_zero]

/-- Books kept one after the other are the books of both: the successes of the second follow
those of the first, and the failures add up. -/
theorem runBooks_runBooks (c : Counters) (t t' : Totals) (ok ok' : List Outcome)
    (failed failed' : Nat) :
    ((c.runBooks t ok 0 failed).1.runBooks t' ok' 0 failed').1 =
      (c.runBooks t (ok ++ ok') 0 (failed + failed')).1 := by
  have h0 : Int64.ofNat 0 = 0 := rfl
  -- the last download is the second's last amount, or the first's when the second has none
  have hlast : ((ok'.getLast?.map Outcome.amount).getD
      ((ok.getLast?.map Outcome.amount).getD c.lastDownload)) =
      (((ok ++ ok').getLast?.map Outcome.amount).getD c.lastDownload) := by
    rw [List.getLast?_append]
    cases ok'.getLast? <;> rfl
  simp only [runBooks, recordAll_eq, h0, Int64.add_zero, List.map_append, List.sum_append,
    List.length_append, Int64.ofNat_add, Int64.add_assoc, hlast]

theorem runBooks_workerStarted (c : Counters) (t : Totals) (ok : List Outcome) (failed : Nat) :
    (c.runBooks t ok 0 failed).1.workerStarted.1 = (c.runBooks t ok 1 failed).1 := by
  have h0 : Int64.ofNat 0 = 0 := rfl
  have h1 : Int64.ofNat 1 = 1 := rfl
  simp [runBooks, workerStarted, h0, h1, Int64.add_zero]

theorem runBooks_workerFinished (c : Counters) (t : Totals) (ok : List Outcome) (failed : Nat) :
    (c.runBooks t ok 1 failed).1.workerFinished = (c.runBooks t ok 0 failed).1 := by
  have h0 : Int64.ofNat 0 = 0 := rfl
  have h1 : Int64.ofNat 1 = 1 := rfl
  simp only [runBooks, workerFinished, h0, h1, Int64.add_zero, Int64.add_sub_cancel]

theorem runBooks_batchFailure (c : Counters) (t : Totals) (ok : List Outcome) (busy failed : Nat) :
    (c.runBooks t ok busy failed).1.batchFailure = (c.runBooks t ok busy (failed + 1)).1 := by
  have h1 : Int64.ofNat 1 = 1 := rfl
  simp only [runBooks, batchFailure, Int64.ofNat_add, h1, Int64.add_assoc]

end Counters

/-- The success a worker holds fetched and not yet counted. -/
def Worker.heldSuccess : Worker → List Outcome
  | .fetched _ out err => Retry.okOutcomes (out, err)
  | _ => []

namespace Engine

variable {σ : Type} (e : Engine σ) (batchId : String) (cb : Option (Outcome → List String))

/-- Taking a batch id leaves the books alone. -/
theorem newBatchId_ledger (w : World σ) : (e.newBatchId w).1.ledger = w.ledger := by
  unfold newBatchId
  split <;> rfl

/-- Handing an outcome to the observers and the caller leaves the books alone. -/
theorem batchHooks_deliver_ledger (p : World σ × List Outcome) (out : Outcome) :
    ((e.batchHooks batchId cb).deliver p out).1.1.ledger = p.1.ledger := by
  cases cb <;> exact e.dispatch_ledger p.1 batchId out

section Gauges

variable {p : World σ × List Outcome} {c : Counters} {t : Totals} {ok : List Outcome}
  {busy failed : Nat}

theorem batchHooks_workerStarted_books (hp : p.1.ledger = c.runBooks t ok 0 failed) :
    ((e.batchHooks batchId cb).workerStarted p).1.ledger = c.runBooks t ok 1 failed := by
  obtain ⟨hc, ht⟩ := Prod.ext_iff.1 hp
  simp only [World.ledger] at hc ht
  simp only [batchHooks, World.ledger, hc, ht, Counters.runBooks_workerStarted]
  rfl

theorem batchHooks_workerFinished_books (hp : p.1.ledger = c.runBooks t ok 1 failed) :
    ((e.batchHooks batchId cb).workerFinished p).1.ledger = c.runBooks t ok 0 failed := by
  obtain ⟨hc, ht⟩ := Prod.ext_iff.1 hp
  simp only [World.ledger] at hc ht
  simp only [batchHooks, World.ledger, hc, ht, Counters.runBooks_workerFinished]
  rfl

theorem batchHooks_batchFailure_books (hp : p.1.ledger = c.runBooks t ok busy failed) :
    ((e.batchHooks batchId cb).batchFailure p).1.ledger = c.runBooks t ok busy (failed + 1) := by
  obtain ⟨hc, ht⟩ := Prod.ext_iff.1 hp
  simp only [World.ledger] at hc ht
  simp only [batchHooks, World.ledger, hc, ht, Counters.runBooks_batchFailure]
  rfl

/-- Delivering an outcome and marking its locator finished takes the gauge down again. -/
theorem batchHooks_deliver_finish_books (hp : p.1.ledger = c.runBooks t ok 1 failed)
    {out : Outcome} {w : World σ × List Outcome} {calls : List (List String)}
    (hd : (e.batchHooks batchId cb).deliver p out = (w, calls)) :
    ((e.batchHooks batchId cb).workerFinished w).1.ledger = c.runBooks t ok 0 failed := by
  have hl := e.batchHooks_deliver_ledger batchId cb p out
  rw [hd, hp] at hl
  exact e.batchHooks_workerFinished_books batchId cb hl

/-- A batch's fetch records its outcome on the run's books when it succeeds. -/
theorem batchHooks_fetch_books (hp : p.1.ledger = c.runBooks t ok busy failed) {u : String}
    {w : World σ × List Outcome} {out : Outcome} {err : Option FetchError}
    (hf : (e.batchHooks batchId cb).fetch p u = (w, out, err)) :
    w.1.ledger = c.runBooks t (ok ++ Retry.okOutcomes (out, err)) busy failed := by
  have hl := e.attemptAll_ledger p.1 u {} false
  simp only [batchHooks] at hf
  rcases ha : e.attemptAll p.1 u {} false with ⟨w', out', err'⟩
  rw [ha] at hf hl
  simp only [Prod.mk.injEq] at hf
  obtain ⟨rfl, rfl, rfl⟩ := hf
  rw [hl]
  exact Counters.runBooks_record hp _

end Gauges

end Engine

namespace Batch

open Counters

variable {σ : Type} {e : Engine σ} {batchId : String} {cb : Option (Outcome → List String)}

/-- The books of a batch run over the engine `e`, started on the counters `c₀` and the total
`t₀`, having shown the events `tr` and standing at `s`: the successes counted so far and the one
the worker holds are recorded, the worker gauge is up while the worker processes a locator, and
the failures counted are batch failures. -/
def Books (c₀ : Counters) (t₀ : Totals) (tr : List Event) (s : State (World σ × List Outcome)) :
    Prop :=
  s.world.1.ledger =
    c₀.runBooks t₀ (successes tr ++ s.worker.heldSuccess) s.worker.processing s.tally.failed

attribute [local simp] successes Event.succeeded?.eq_def Worker.processing Worker.heldSuccess
  Retry.okOutcomes Tally.success Tally.skip Tally.dispatch Tally.abandon Tally.finished
  Tally.recordFiltered State.stopped

/-- A step of a run whose caller has not cancelled keeps its books. A run that stops holds no
locator it fetched or is about to fetch (`Ceiling.idle`), so no fetched success is ever
discarded. -/
theorem Books.step {c₀ : Counters} {t₀ : Totals} {tr evs : List Event}
    {s s' : State (World σ × List Outcome)} (hb : Books c₀ t₀ tr s) (hc : Ceiling tr s)
    (hcan : s.canceled = false) (hs : Step (e.batchHooks batchId cb) s evs s') :
    Books c₀ t₀ (tr ++ evs) s' := by
  unfold Books at hb ⊢
  cases hs with
  | @refuse u w calls hw hst hp hd =>
    -- the gauge goes up for the check and down again once the refusal is delivered
    simp only [hw, Worker.heldSuccess, Worker.processing, List.append_nil] at hb
    simpa using e.batchHooks_deliver_finish_books batchId cb
      (e.batchHooks_workerStarted_books batchId cb hb) hd
  | @permit u hw hst hp =>
    simp only [hw, Worker.heldSuccess, Worker.processing, List.append_nil] at hb
    simpa using e.batchHooks_workerStarted_books batchId cb hb
  | @fetch u w out err hw hf =>
    simp only [hw, Worker.heldSuccess, Worker.processing, List.append_nil] at hb
    simpa using e.batchHooks_fetch_books batchId cb hb hf
  | @limiterStopped u hw hst | @fetchedStopped u _ _ hw hst =>
    -- only an abort stops a run the caller does not cancel, and an aborted worker is idle
    have ha : s.tally.aborted = true := by simpa [hcan] using hst
    simpa [hw] using hc.idle ha
  | @succeed u out w calls hw hst hd =>
    simp only [hw, Worker.heldSuccess, Worker.processing, Retry.okOutcomes] at hb
    simpa using e.batchHooks_deliver_finish_books batchId cb hb hd
  | @fetcherRefused u out er w calls hw hst he hd =>
    simp only [hw, Worker.heldSuccess, Worker.processing, Retry.okOutcomes, List.append_nil] at hb
    simpa using e.batchHooks_deliver_finish_books batchId cb hb hd
  | @fail u out er t w calls hw hst he ht hd =>
    obtain ⟨rfl, -⟩ := Tally.eq_of_failure ht
    simp only [hw, Worker.heldSuccess, Worker.processing, Retry.okOutcomes, List.append_nil] at hb
    simpa using e.batchHooks_deliver_finish_books batchId cb
      (e.batchHooks_batchFailure_books batchId cb hb) hd
  | @trip u out er t hw hst he ht =>
    obtain ⟨rfl, -⟩ := Tally.eq_of_failure ht
    simp only [hw, Worker.heldSuccess, Worker.processing, Retry.okOutcomes, List.append_nil] at hb
    simpa using e.batchHooks_workerFinished_books batchId cb
      (e.batchHooks_batchFailure_books batchId cb hb)
  | hand _ hw | leave hw _ | abandonReceived hw _ | add hw _ | finish hw =>
    simpa only [hw, successes, pick_append, pick_cons, pick_nil, Event.succeeded?.eq_def,
      Option.toList_none, List.append_nil, Worker.heldSuccess, Worker.processing, Tally.abandon,
      Tally.finished] using hb
  | _ =>
    -- the other steps neither count nor hold a success
    simpa only [successes, pick_append, pick_cons, pick_nil, Event.succeeded?.eq_def,
      Option.toList_none, List.append_nil, Worker.heldSuccess, Retry.okOutcomes,
      Worker.processing, Tally.skip, Tally.dispatch, Tally.finished, Tally.abandon] using hb

/-- A caller that cancelled has cancelled for good. -/
theorem Step.canceled_of_canceled {h : BatchHooks σ} {evs : List Event}
    {s s' : State σ} (hs : Step h s evs s') (hc : s.canceled = true) : s'.canceled = true := by
  cases hs <;> simp_all

theorem Books.initial (p : Pending) (w : World σ) (calls : List Outcome) (collect : Bool)
    (limit : Int) : Books w.counters w.totals [] (start batchId p (w, calls) collect limit) := by
  simp only [Books, start, successes, pick_nil, Worker.heldSuccess, Worker.processing,
    List.append_nil, runBooks_start]
  rfl

/-- Every run whose caller has not cancelled keeps its books. -/
theorem Reaches.books {p : Pending} {w : World σ} {calls : List Outcome} {collect : Bool}
    {limit : Int} {tr : List Event} {s : State (World σ × List Outcome)}
    (hr : Reaches (e.batchHooks batchId cb) (start batchId p (w, calls) collect limit) tr s)
    (hc : s.canceled = false) : Books w.counters w.totals tr s := by
  induction hr with
  | refl => exact Books.initial p w calls collect limit
  | step hr' hs ih =>
    -- the caller had not cancelled before either
    have hc' : _ = false := Bool.eq_false_iff.2 fun h' => by
      rw [hs.canceled_of_canceled h'] at hc
      cases hc
    exact (ih hc').step hr'.ceiling hc' hs

/-- A run that answered, its caller not having cancelled, recorded exactly the successes it
counted, in order, counted each failure it reports as a batch failure, and left the worker
gauge where it found it. -/
theorem Reaches.books_returned {p : Pending} {w : World σ} {calls : List Outcome} {collect : Bool}
    {limit : Int} {tr : List Event} {s : State (World σ × List Outcome)} {r : BatchResult}
    {err : Option FetchError}
    (hr : Reaches (e.batchHooks batchId cb) (start batchId p (w, calls) collect limit) tr s)
    (hc : s.canceled = false) (hst : s.stage = .returned r err) :
    s.world.1.ledger = w.counters.runBooks w.totals (successes tr) 0 r.failed ∧
      r.succeeded = (successes tr).length := by
  have hb := hr.books hc
  have hi := hr.invariant
  obtain ⟨l, rfl, -⟩ := hi.answered r err hst
  have hw : s.worker = .exited := (hi.parties_done hst).2
  unfold Books at hb
  simp only [hw, Worker.heldSuccess, Worker.processing, List.append_nil] at hb
  exact ⟨hb, hr.ceiling.succeeded⟩

end Batch

end Harvest
