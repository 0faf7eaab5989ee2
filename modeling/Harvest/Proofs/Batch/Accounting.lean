import Harvest.Proofs.Batch.Invariant
import Harvest.Proofs.Batch.Schedule
/-!
# Harvest.Proofs.Batch.Accounting

A batch run accounts for every locator once. Whatever order the feeder and the worker take their
steps in, whatever the fetcher answers and whatever the caller adds on the way, the counts of the
answer (succeeded, failed, filtered, skipped and abandoned) add up to the locators pending at the
start plus the counts the caller's additions answered (`answer_total_eq_entered`). That holds of
aborted and cancelled runs too: what was pending, offered or held when the run stopped is
counted as abandoned.

The count is the `conserved` part of `Batch.Invariant`, read at the answer.
-/

namespace Harvest

namespace Batch

variable {σ : Type} {h : BatchHooks σ}

/-- The answer of every run counts each locator that entered the pending set exactly once: the
five counts add up to the locators pending at the start and those the caller's additions
appended, as those additions answered. -/
theorem answer_total_eq_entered {p : Pending} {batchId : String} {world : σ} {collect : Bool}
    {limit : Int} {tr : List Event} {s : State σ} {r : BatchResult} {err : Option FetchError}
    (hr : Reaches h (start batchId p world collect limit) tr s)
    (hs : s.stage = .returned r err) :
    r.succeeded + r.failed + r.filtered + r.skipped + r.abandoned =
      p.size + (addCounts tr).sum := by
  have hi := hr.invariant
  have hc := hi.conserved
  simp only [Conserved, hs] at hc
  rw [hi.counts]
  exact hc

/-- The scheduler's run over `a` and `c`, where delivering `a` adds `b` and `a` again: three
successes and one skip, the two locators it started with and the two the addition appended. -/
theorem answer_total_eq_entered_readding :
    (drive (sampleHooks false) 40 (sampleStart false 0)).stage =
        .returned { batchId := "b", succeeded := 3, skipped := 1 } none ∧
      3 + 0 + 0 + 1 + 0 = (Pending.ofList ["a", "c"]).size +
        (addCounts (events (sampleHooks false) 40 (sampleStart false 0))).sum := by
  have hs : (drive (sampleHooks false) 40 (sampleStart false 0)).stage =
      .returned { batchId := "b", succeeded := 3, skipped := 1 } none := rfl
  exact ⟨hs, answer_total_eq_entered (reaches_drive 40 _) hs⟩

end Batch

end Harvest
