import Harvest.Proofs.Batch.Invariant
import Harvest.Proofs.Batch.Schedule
/-!
# Harvest.Proofs.Batch.Dispatch

How a batch run hands out the locators it takes, whatever order its feeder and worker take their
steps in, whatever the fetcher answers and whatever the caller adds on the way
(`Reaches.dispatched`):

* no two locators the worker checks share a key, so a key is processed at most once, even when
  its locator is added again after it was taken; the fetcher is called only for checked ones;
* the worker receives the locators taken, in the order taken, less those whose key was taken
  before (`firstNew`), bar one at the end: the one the feeder offers, or gave up because the run
  stopped;
* a run that answers without an error leaves the pending set empty, took every locator that
  entered it, and processed each with a new key and skipped the others;
* a run that collects and did not abort answers exactly its successes, in order.
-/

namespace Harvest

namespace Batch

variable {σ : Type} {h : BatchHooks σ}

/-- What a run from a pending set `p₀`, collecting its successes when `collect` holds, has done
with the locators it took, having shown the events `tr` and standing at `s`. -/
structure Dispatched (p₀ : Pending) (collect : Bool) (tr : List Event) (s : State σ) : Prop where
  /-- No two locators the worker checked share a key. -/
  keysOnce : ((checked tr).map Locator.key).Nodup
  /-- The fetcher was called only for checked locators, each at most once, in the order
  checked. -/
  fetchesChecked : (fetched tr).Sublist (checked tr)
  /-- The locators taken with a new key went to the worker in the order taken, all but the one
  the feeder offers or gave up. -/
  handedInOrder : firstNew [] (popped tr) = handed tr ++ dropped tr ++ s.feeder.held
  /-- The feeder gave up at most one locator, and only once the run had stopped. -/
  droppedOnStop : (dropped tr).length ≤ 1 ∧ (dropped tr ≠ [] → s.stopped = true)
  /-- An answer without an error comes with the set empty, every locator that entered it
  taken, those with a new key processed and the others skipped. -/
  cleanEnd : ∀ r, s.stage = .returned r none →
    s.pending.toList = [] ∧ popped tr = p₀.toList ++ entered tr ∧
      checked tr = firstNew [] (popped tr) ∧
      r.succeeded + r.failed + r.filtered = (checked tr).length ∧
      r.skipped + (checked tr).length = (popped tr).length
  /-- A run that collects and did not abort answers its successes in the order counted. -/
  collected : ∀ r err, collect = true → s.stage = .returned r err → r.aborted = false →
    r.outcomes = successes tr ∧ r.succeeded = r.outcomes.length

namespace Invariant

variable {p₀ : Pending} {tr : List Event} {s : State σ}

/-- The worker checks locators with distinct keys: they are among those `firstNew` keeps. -/
theorem nodup_keys_checked (hi : Invariant p₀ tr s) : ((checked tr).map Locator.key).Nodup := by
  have hh : (handed tr).Sublist (firstNew [] (popped tr)) := by
    rw [hi.handoff, List.append_assoc]
    exact List.sublist_append_left _ _
  have hc : (checked tr).Sublist (handed tr) :=
    (List.sublist_append_left _ _).trans hi.checkOrder
  exact List.Nodup.sublist ((hc.trans hh).map _) (nodup_map_key_firstNew [] _).1

theorem dropped_on_stop (hi : Invariant p₀ tr s) :
    (dropped tr).length ≤ 1 ∧ (dropped tr ≠ [] → s.stopped = true) := by
  rcases hi.dropOnce with h0 | ⟨-, hst, h1⟩
  · simp [h0]
  · exact ⟨Nat.le_of_eq h1, fun _ => hst⟩

/-- Once a run has answered, both parties are done. -/
theorem parties_done (hi : Invariant p₀ tr s) {r : BatchResult} {err : Option FetchError}
    (hst : s.stage = .returned r err) : s.feeder = .exited ∧ s.worker = .exited := by
  rcases hi.settling with hd | hfw
  · rw [hst] at hd
    cases hd
  · exact hfw

/-- A run that answers without an error has handed every locator with a new key to the
worker, which checked and counted each, and has taken everything that entered the set. -/
theorem clean_end (hi : Invariant p₀ tr s) {r : BatchResult} (hst : s.stage = .returned r none) :
    s.pending.toList = [] ∧ popped tr = p₀.toList ++ entered tr ∧
      checked tr = firstNew [] (popped tr) ∧
      r.succeeded + r.failed + r.filtered = (checked tr).length ∧
      r.skipped + (checked tr).length = (popped tr).length := by
  obtain ⟨l, rfl, herr⟩ := hi.answered _ none hst
  have hns : s.stopped = false := (State.error_eq_none s).1 herr.symm
  obtain ⟨hfe, hwe⟩ := hi.parties_done hst
  have hpend := (hi.exitClean hfe hns).1
  -- nothing was given up: that needs a stopped run
  have h0 : dropped tr = [] := by
    rcases hi.dropOnce with h0 | ⟨-, hst', -⟩
    · exact h0
    · rw [hns] at hst'
      cases hst'
  have hfn : checked tr = firstNew [] (popped tr) := by
    rw [hi.handoff, hi.checkAll hns, h0, hfe, hwe]
    simp [Feeder.held, Worker.unchecked]
  have hp := hi.processed hns
  have hsk := hi.skipped
  rw [hwe] at hp
  refine ⟨hpend, by simpa [hpend] using hi.queue (.inr hns), hfn, ?_, ?_⟩
  · simpa [State.result, Worker.processing] using hp
  · rw [hfn]
    simpa [State.result] using hsk

/-- A run that collects and has not aborted answers its successes, in the order counted. -/
theorem collected (hi : Invariant p₀ tr s) (hcol : s.tally.collect = true) {r : BatchResult}
    {err : Option FetchError} (hst : s.stage = .returned r err) (hna : r.aborted = false) :
    r.outcomes = successes tr ∧ r.succeeded = r.outcomes.length := by
  obtain ⟨l, rfl, -⟩ := hi.answered r err hst
  have ha : s.tally.aborted = false := hna
  obtain ⟨hn, ho⟩ := hi.counted ha
  simp [State.result, ha, ho hcol, hn]

end Invariant

/-- Every run hands out the locators it takes once per key and in order, loses none when it
ends without an error, and answers its successes when it collects them. -/
theorem Reaches.dispatched {p : Pending} {batchId : String} {world : σ} {collect : Bool}
    {limit : Int} {tr : List Event} {s : State σ}
    (hr : Reaches h (start batchId p world collect limit) tr s) : Dispatched p collect tr s := by
  have hi := hr.invariant
  have hcol : s.tally.collect = collect := hr.tally_collect
  exact {
    keysOnce := hi.nodup_keys_checked
    fetchesChecked := (List.sublist_append_left _ _).trans hi.fetchOrder
    handedInOrder := hi.handoff
    droppedOnStop := hi.dropped_on_stop
    cleanEnd := fun _ hst => hi.clean_end hst
    collected := fun _ _ hc hst hna => hi.collected (hcol.trans hc) hst hna }

/-- The scheduler's run over `a` and `c`, collecting, in a world where every fetch succeeds and
delivering `a` adds `b` and `a` again: it serves `a`, `c` and `b`, skips the second `a`, answers
the successes in that order, and hands out its locators as the run's guarantees say. -/
theorem dispatched_readding :
    (drive (sampleHooks false) 40 (sampleStart true 0)).stage =
        .returned { batchId := "b", outcomes := [{ url := "a", ok := true },
          { url := "c", ok := true }, { url := "b", ok := true }], succeeded := 3, skipped := 1 }
          none ∧
      Dispatched (Pending.ofList ["a", "c"]) true (events (sampleHooks false) 40 (sampleStart true 0))
        (drive (sampleHooks false) 40 (sampleStart true 0)) :=
  ⟨rfl, Reaches.dispatched (reaches_drive 40 _)⟩

end Batch

end Harvest
