import Harvest.Http.Header
import Harvest.Text.Utf8
import Harvest.Time
/-!
# Harvest.Store.Memory

In-memory stores: blobs by path, retrieval records by id, and published messages by topic.

A blob path must be non-empty; putting a blob at a path replaces what was there and answers the
URI `memory://<path>`. A record must have a non-empty id that no stored record has. A published
message gets the id `memory-<n>`, where `n` counts the messages published so far, this one
included.
-/

namespace Harvest

/-- A stored blob. -/
structure Blob where
  contentType : String
  data : Bytes
  deriving DecidableEq, Repr

/-- Blobs by path. -/
structure BlobStore where
  objects : List (String × Blob) := []
  deriving DecidableEq, Repr

namespace BlobStore

/-- The store with a blob at a path, in place of what was there. -/
def write (s : BlobStore) (path : String) (b : Blob) : BlobStore :=
  ⟨s.objects.filter (·.1 != path) ++ [(path, b)]⟩

/-- Stores a blob; answers its URI. -/
def put (s : BlobStore) (path contentType : String) (data : Bytes) :
    Except String (BlobStore × String) :=
  if path.isEmpty then .error "path is required"
  else .ok (s.write path ⟨contentType, data⟩, "memory://" ++ path)

/-- The blob at a path. -/
def get? (s : BlobStore) (path : String) : Option Blob := (s.objects.find? (·.1 == path)).map (·.2)

/-- Inserts into a sorted list of strings. -/
def insertSorted (x : String) : List String → List String
  | [] => [x]
  | y :: ys => if x < y then x :: y :: ys else y :: insertSorted x ys

/-- The stored paths in byte order. -/
def paths (s : BlobStore) : List String := s.objects.foldl (fun acc (p, _) => insertSorted p acc) []

end BlobStore

/-- What is recorded about one retrieval. -/
structure Record where
  id : String := ""
  batchId : String := ""
  url : String := ""
  finalUrl : String := ""
  ok : Bool := false
  status : Int := 0
  bytes : Int := 0
  hash : String := ""
  blobUri : String := ""
  headers : Option Http.Header := none
  contentType : String := ""
  errorText : String := ""
  retrievedAt : Instant := Instant.zero
  deriving DecidableEq, Repr

/-- Retrieval records in the order they were stored. -/
structure RecordStore where
  records : List Record := []
  deriving DecidableEq, Repr

namespace RecordStore

/-- Stores a record. -/
def store (s : RecordStore) (r : Record) : Except String RecordStore :=
  if r.id.isEmpty then .error "record id is required"
  else if s.records.any (·.id == r.id) then .error "record already exists"
  else .ok ⟨s.records ++ [r]⟩

/-- The records of one batch, in order. -/
def byBatch (s : RecordStore) (batchId : String) : List Record :=
  s.records.filter (·.batchId == batchId)

end RecordStore

/-- A published message. -/
structure Message (α : Type) where
  id : String
  topic : String
  payload : α

/-- Published messages in order. -/
structure Outbox (α : Type) where
  messages : List (Message α) := []

namespace Outbox

/-- Publishes a message; answers its id. -/
def publish {α : Type} (o : Outbox α) (topic : String) (payload : α) : Outbox α × String :=
  let id := "memory-" ++ toString (o.messages.length + 1)
  (⟨o.messages ++ [⟨id, topic, payload⟩]⟩, id)

/-- The messages of one topic, or all messages. -/
def onTopic {α : Type} (o : Outbox α) : Option String → List (Message α)
  | none => o.messages
  | some t => o.messages.filter (·.topic == t)

end Outbox

end Harvest
