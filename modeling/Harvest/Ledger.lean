/-!
# Harvest.Ledger

Download accounting: per-engine counters and the byte total shared by every engine of a process.

The counters are 64-bit and wrap on overflow. Recording a download of `n` bytes (a negative size
counts as zero) adds `n` to the counter's bytes and to the shared total, remembers `n` as the
last download and counts one download; the shared total only ever grows by positive amounts.
The worker gauge goes up when a worker starts and down when it finishes.
-/

namespace Harvest

/-- The byte total shared by the engines of a process. -/
structure Totals where
  bytes : Int64 := 0
  deriving DecidableEq, Repr

namespace Totals

/-- Adds a positive amount; other amounts change nothing. -/
def add (t : Totals) (n : Int64) : Totals := if n > 0 then ⟨t.bytes + n⟩ else t

/-- Sets the total back to zero. -/
def reset (_ : Totals) : Totals := ⟨0⟩

end Totals

/-- The counters of one engine. -/
structure Counters where
  bytes : Int64 := 0
  lastDownload : Int64 := 0
  downloads : Int64 := 0
  activeWorkers : Int64 := 0
  batchFailures : Int64 := 0
  deriving DecidableEq, Repr

/-- The counters of one engine together with the shared total, as read at one moment. -/
structure Snapshot where
  bytes : Int64
  processBytes : Int64
  lastDownload : Int64
  downloads : Int64
  activeWorkers : Int64
  batchFailures : Int64
  deriving DecidableEq, Repr

namespace Counters

/-- Records one download of `n` bytes; returns the counters and the shared total. -/
def record (c : Counters) (t : Totals) (n : Int64) : Counters × Totals :=
  let n := if n < 0 then 0 else n
  ({ c with bytes := c.bytes + n, lastDownload := n, downloads := c.downloads + 1 }, t.add n)

/-- A worker starts; returns the counters and the new gauge. -/
def workerStarted (c : Counters) : Counters × Int64 :=
  let g := c.activeWorkers + 1
  ({ c with activeWorkers := g }, g)

/-- A worker finishes. -/
def workerFinished (c : Counters) : Counters := { c with activeWorkers := c.activeWorkers - 1 }

/-- A fetch of a batch failed. -/
def batchFailure (c : Counters) : Counters := { c with batchFailures := c.batchFailures + 1 }

/-- Reads the counters with the shared total. -/
def snapshot (c : Counters) (t : Totals) : Snapshot :=
  ⟨c.bytes, t.bytes, c.lastDownload, c.downloads, c.activeWorkers, c.batchFailures⟩

end Counters

end Harvest
