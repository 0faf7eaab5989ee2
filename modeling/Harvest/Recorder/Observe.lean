import Harvest.Digest.Sha256
import Harvest.Fetch.Outcome
import Harvest.Json.Value
import Harvest.Recorder.BlobPath
import Harvest.Store.Memory
/-!
# Harvest.Recorder.Observe

The recorder: the observer that keeps each delivered document, content-addressed by its hash,
writes a record about it and announces it.

A failed outcome is ignored unless failures are recorded. Every outcome that is not ignored asks
the id generator for the next record id (`rec-1`, `rec-2`, … by default; a failure of the generator
is the observer's failure) and yields a record of its locator, final URL, status,
size, header, content type (the response's `Content-Type`, `application/octet-stream` when
absent), failure text, batch id and the clock's time. A successful outcome that is not a
not-modified answer also gets the hex SHA-256 of its body and, when blobs are kept, stores the
body at its blob path. The record is stored when records are kept, and announced on the topic
when one is set.
-/

namespace Harvest

/-- How a recorder is set up. -/
structure RecorderConfig where
  blobPrefix : String := ""
  /-- The topic of announcements; empty for none. -/
  topic : String := ""
  recordFailures : Bool := false
  keepBlobs : Bool := true
  keepRecords : Bool := true
  deriving DecidableEq, Repr

/-- A recorder and its stores. -/
structure Recorder where
  config : RecorderConfig
  /-- The id generator: the id it answers on its `n`-th call (counting from 1), or its failure. -/
  newId : Nat → Except String String := fun n => .ok ("rec-" ++ toString n)
  blobs : BlobStore := {}
  records : RecordStore := {}
  outbox : Outbox Json.Value := {}
  /-- Record ids issued so far. -/
  issued : Nat := 0

namespace Recorder

/-- The content type of a response header. -/
def contentType : Option Http.Header → String
  | some h => if (h.get "Content-Type").isEmpty then "application/octet-stream" else h.get "Content-Type"
  | none => "application/octet-stream"

/-- The announcement of a record. -/
def payload (r : Record) : Json.Value :=
  .obj ([("batch_id", .str r.batchId), ("blob_uri", .str r.blobUri), ("bytes", .int r.bytes)] ++
    (if r.errorText.isEmpty then [] else [("error", .str r.errorText)]) ++
    [("hash", .str r.hash), ("id", .str r.id), ("ok", .bool r.ok), ("status", .int r.status),
     ("timestamp", .str r.retrievedAt.rfc3339), ("url", .str r.url)])

/-- The record of an outcome, before hashing. -/
def baseRecord (id batchId : String) (now : Instant) (out : Outcome) : Record :=
  { id := id, batchId := batchId, url := out.url, finalUrl := out.finalUrl, ok := out.ok,
    status := out.status, bytes := out.size, headers := out.header,
    contentType := contentType out.header,
    errorText := (out.err.map FetchError.message).getD "", retrievedAt := now }

/-- The record of an outcome with its hash and blob: a successful outcome that is not a
not-modified answer gets the hex SHA-256 of its body and, when blobs are kept, has its body stored
at its blob path under its content type. -/
def withBlob (r : Recorder) (record : Record) (out : Outcome) : Except String (Recorder × Record) :=
  if !out.ok || out.notModified then .ok (r, record)
  else
    let hash := Sha256.hexDigest out.body
    let record := { record with hash := hash }
    if !r.config.keepBlobs then .ok (r, record)
    else
      match r.blobs.put (BlobPath.of r.config.blobPrefix hash out.url) record.contentType out.body with
      | .ok (blobs, uri) => .ok ({ r with blobs := blobs }, { record with blobUri := uri })
      | .error e => .error ("put object: " ++ e)

/-- Keeps a record, when records are kept, and announces it on the topic, when one is set. -/
def file (r : Recorder) (record : Record) : Recorder × Option String :=
  let kept : Except String Recorder :=
    if !r.config.keepRecords then .ok r
    else (r.records.store record).map (fun s => { r with records := s })
  match kept with
  | .error e => (r, some ("store retrieval: " ++ e))
  | .ok r =>
    if r.config.topic.isEmpty then (r, none)
    else ({ r with outbox := (r.outbox.publish r.config.topic (payload record)).1 }, none)

/-- Observes one outcome delivered in batch `batchId` at time `now`; answers the recorder and the
failure, if any. -/
def observe (r : Recorder) (batchId : String) (now : Instant) (out : Outcome) :
    Recorder × Option String :=
  if !out.ok && !r.config.recordFailures then (r, none)
  else
    let r := { r with issued := r.issued + 1 }
    match r.newId r.issued with
    | .error e => (r, some ("new record id: " ++ e))
    | .ok id =>
      match r.withBlob (baseRecord id batchId now out) out with
      | .error e => (r, some e)
      | .ok (r, record) => r.file record

end Recorder

end Harvest
