import Harvest.Locator
import Harvest.Text.SlashPath
/-!
# Harvest.Recorder.BlobPath

Where the body of a retrieval is stored: `<prefix>/<shard>/<hash>[.<ext>]`.

The shard is the first two bytes of the hash (the whole hash when it is shorter than three
bytes), the name is the hash followed by the locator's extension when it has one, and the prefix
has its leading and trailing slashes removed. The parts are joined with slashes, empty ones
skipped, and the result is cleaned.
-/

namespace Harvest

namespace BlobPath

/-- Removes every leading and trailing `/`. -/
def trimSlashes (s : String) : String :=
  String.ofList (((s.toList.dropWhile (· == '/')).reverse.dropWhile (· == '/')).reverse)

/-- The name a body is stored under: its hash, then a dot and the extension when there is one. -/
def fileName (hash ext : String) : String := if ext.isEmpty then hash else hash ++ "." ++ ext

/-- The directory a body is sharded into: the first two bytes of its hash. -/
def shard (hash : String) : String :=
  let hb := Bytes.ofString hash
  if hb.length > 2 then Bytes.toText (hb.take 2) else hash

/-- The storage path of a body with the given hash, fetched from the given locator. -/
def of (pre hash url : String) : String :=
  SlashPath.join [trimSlashes pre, shard hash, fileName hash (Locator.extension url)]

end BlobPath

end Harvest
