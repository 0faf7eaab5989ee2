import Harvest.Text.Utf8
/-!
# Harvest.Fetch.Read

Reading a stream under a size limit.

A stream is read in chunks of at most 8 KiB. The running total is compared with the limit after
every chunk, so a stream that is too long is abandoned at the first chunk that takes the total
past the limit, and the total reported is the total at that point. A negative limit means no
limit. A failure of the stream after its last chunk is reported with the total read; what a
failure is depends on the stream (a transport's, a decoder's), so the reader is generic in it.
-/

namespace Harvest

/-- The size of each read. -/
def chunkSize : Nat := 8192

/-- What a bounded read of a stream failing with `ε` gives. -/
inductive Bounded (ε : Type) where
  /-- The whole stream, and its length. -/
  | complete (data : Bytes) (total : Nat)
  /-- The limit was passed; `total` bytes had been read. -/
  | exceeded (total : Nat)
  /-- The stream failed after `total` bytes. -/
  | failed (total : Nat) (err : ε)
  deriving DecidableEq, Repr

/-- Reads a stream delivered as chunks, ending cleanly or with a failure. -/
def readBounded {ε : Type} (chunks : List Bytes) (failure : Option ε) (limit : Int) : Bounded ε :=
  go chunks 0 []
where
  go : List Bytes → Nat → Bytes → Bounded ε
    | [], total, acc =>
      match failure with
      | none => .complete acc total
      | some e => .failed total e
    | c :: cs, total, acc =>
      let total := total + c.length
      if limit ≥ 0 && (total : Int) > limit then .exceeded total else go cs total (acc ++ c)

/-- Splits bytes into chunks of `n` (the last one shorter). -/
def splitChunks (n : Nat) (bs : Bytes) : List Bytes :=
  go (bs.length + 1) bs
where
  go : Nat → Bytes → List Bytes
    | 0, _ => []
    | fuel + 1, bs => if bs.isEmpty then [] else bs.take n :: go fuel (bs.drop (max n 1))

/-- Reads a body held in memory, in chunks of `chunkSize`, then the failure that cut it off, if
any. -/
def readBody {ε : Type} (body : Bytes) (fault : Option ε) (limit : Int) : Bounded ε :=
  readBounded (splitChunks chunkSize body) fault limit

end Harvest
