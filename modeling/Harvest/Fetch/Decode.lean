import Harvest.Codec.Container
import Harvest.Fetch.Read
import Harvest.Text.Blank
import Harvest.Text.Case
/-!
# Harvest.Fetch.Decode

Decoding a body by its `Content-Encoding`, under a limit on the decoded size.

The encoding is compared with surrounding blanks removed and in small letters. `gzip` and
`x-gzip` bodies are gunzipped, `deflate` bodies are inflated as zlib streams when they open as
one and as raw DEFLATE data otherwise, and any other body passes through unchanged, refused only
when it is longer than the limit (when the limit is not negative). What a decoder gives is read
as any stream is, under the limit, in chunks of `chunkSize`: the bytes it decoded, then the fault
that stopped it.
-/

namespace Harvest

/-- Why a body could not be decoded. -/
inductive DecodeError where
  /-- The decoded content is longer than the limit. -/
  | exceeded
  /-- The first gzip header did not read. -/
  | opening (e : StreamError)
  /-- The stream failed; `encoding` is the field as received. -/
  | stream (encoding : String) (e : StreamError)
  deriving DecidableEq, Repr

/-- The message of a decoding failure. -/
def DecodeError.message : DecodeError → String
  | .exceeded => "limit exceeded"
  | .opening e => "open gzip: " ++ e.message
  | .stream enc e => "decode " ++ enc ++ ": " ++ e.message

/-- The encoding as compared: blanks trimmed, small letters. -/
def normalizeEncoding (ce : String) : String := lowerText (trimBlank ce)

/-- Whether an encoding names a codec that is decoded. -/
def isEncoded (ce : String) : Bool := ["gzip", "x-gzip", "deflate"].contains (normalizeEncoding ce)

/-- The answer of decoding once the decoder's output has been read under the limit: past the
limit, the decoder's fault wrapped with the encoding as received, or the whole decoded content.
The count of bytes read is no part of it. -/
def Bounded.decoded (ce : String) : Bounded StreamError → Except DecodeError Bytes
  | .exceeded _ => .error .exceeded
  | .failed _ e => .error (.stream ce e)
  | .complete body _ => .ok body

/-- Reads what a decoder gave, the bytes it decoded and the fault that stopped it, through the
bounded reader. -/
def limitDecoded (ce : String) (limit : Int) : Bytes × Option StreamError → Except DecodeError Bytes
  | (out, fault) => (readBody out fault limit).decoded ce

/-- Decodes a body. -/
def decodeBody (ce : String) (raw : Bytes) (limit : Int) : Except DecodeError Bytes :=
  let enc := normalizeEncoding ce
  if enc == "gzip" || enc == "x-gzip" then
    match Gzip.decode raw with
    | .error e => .error (.opening e)
    | .ok r => limitDecoded ce limit r
  else if enc == "deflate" then limitDecoded ce limit (inflateBody raw)
  else if limit ≥ 0 && (raw.length : Int) > limit then .error .exceeded
  else .ok raw

end Harvest
