import Harvest.Codec.Checksum
import Harvest.Codec.Inflate
/-!
# Harvest.Codec.Container

The two wrappings of DEFLATE data a server sends: gzip members (RFC 1952) and the zlib
stream (RFC 1950).

A gzip body is a sequence of members. Each member has a ten-byte header (magic `1f 8b`, method
8, flags), optional extra field, name and comment (each name or comment at most 511 bytes before
its terminating zero) and header checksum, then DEFLATE data and an eight-byte trailer holding
the CRC-32 and the length (modulo 2³²) of the member's content. An empty body has no member at
all; after a member, the body either ends or holds another member.

A zlib stream has a two-byte header (method 8, a window of at most 32 KiB, the pair a multiple
of 31), a preset-dictionary identifier when its flag is set (only the empty dictionary, whose
identifier is 1, is known), DEFLATE data and the big-endian Adler-32 of the content.

Every decoder answers all the bytes decoded before it stopped, together with the failure that
stopped it, because a reader of the stream sees those bytes before the failure.
-/

namespace Harvest

/-- Why a wrapped stream could not be decoded. -/
inductive StreamError where
  /-- The stream ended where a header was expected and nothing of it was there. -/
  | ended
  /-- The stream ended inside a header, a block or a trailer. -/
  | truncated
  /-- The DEFLATE data is damaged, after that many bytes of it. -/
  | corrupt (offset : Nat)
  /-- A gzip header is malformed. -/
  | badHeader
  /-- A gzip trailer does not match the content. -/
  | badChecksum
  /-- A zlib trailer does not match the content. -/
  | badAdler
  deriving DecidableEq, Repr

namespace StreamError

/-- The message of a stream failure. -/
def message : StreamError → String
  | .ended => "EOF"
  | .truncated => "unexpected EOF"
  | .corrupt n => "flate: corrupt input before offset " ++ toString n
  | .badHeader => "gzip: invalid header"
  | .badChecksum => "gzip: invalid checksum"
  | .badAdler => "zlib: invalid checksum"

/-- The stream failure of a DEFLATE fault. -/
def ofFault : Inflate.Fault → StreamError
  | .truncated => .truncated
  | .corrupt n => .corrupt n

end StreamError

/-- The bytes `[pos, pos + n)` of the input, when they are all there. -/
def slice? (input : ByteArray) (pos n : Nat) : Option Bytes :=
  if pos + n ≤ input.size then some (input.extract pos (pos + n)).toList else none

/-- A little-endian number. -/
def littleEndian (bs : Bytes) : Nat := bs.foldr (fun b acc => acc * 256 + b.toNat) 0

/-- A big-endian number. -/
def bigEndian (bs : Bytes) : Nat := bs.foldl (fun acc b => acc * 256 + b.toNat) 0

/-- Inflates the DEFLATE data at `pos`, offsets of damage counted from `pos`; answers the bytes
of this stream, where it ended, and the fault if any. -/
def inflateFrom (input : ByteArray) (pos : Nat) : Bytes × Nat × Option StreamError :=
  let o := Inflate.inflateAt input pos ByteArray.empty
  let fault := o.fault.map fun f =>
    match f with
    | .truncated => StreamError.truncated
    | .corrupt n => StreamError.corrupt (n - pos)
  (o.out.toList, o.pos, fault)

namespace Gzip

/-- Reads a zero-terminated header field at `pos`; answers the offset after the zero. -/
def readField (input : ByteArray) (pos : Nat) : Except StreamError Nat :=
  go 512 pos
where
  go : Nat → Nat → Except StreamError Nat
    | 0, _ => .error .badHeader
    | fuel + 1, p =>
      if p < input.size then
        if input.get! p == 0 then .ok (p + 1) else go fuel (p + 1)
      else .error .truncated

/-- Reads a member header at `pos`; answers where its DEFLATE data begins. -/
def readHeader (input : ByteArray) (pos : Nat) : Except StreamError Nat := do
  let some head := slice? input pos 10
    | throw (if pos ≥ input.size then .ended else .truncated)
  if head.take 3 != [0x1f, 0x8b, 8] then throw .badHeader
  let flags := head.getD 3 0
  let mut p := pos + 10
  if flags &&& 4 != 0 then
    let some len := slice? input p 2 | throw .truncated
    let n := littleEndian len
    if (slice? input (p + 2) n).isNone then throw .truncated
    p := p + 2 + n
  if flags &&& 8 != 0 then p ← readField input p
  if flags &&& 16 != 0 then p ← readField input p
  if flags &&& 2 != 0 then
    let some sum := slice? input p 2 | throw .truncated
    let crc := Checksum.crc32 (input.extract pos p).toList
    if littleEndian sum != crc.toNat % 65536 then throw .badHeader
    p := p + 2
  return p

/-- Decodes the members from `pos` on, appending to `acc`; `fuel` bounds the member count. -/
def members (input : ByteArray) : Nat → Nat → Bytes → Bytes × Option StreamError
  | 0, _, acc => (acc, some .truncated)
  | fuel + 1, pos, acc =>
    let (out, endPos, fault) := inflateFrom input pos
    let acc := acc ++ out
    match fault with
    | some f => (acc, some f)
    | none =>
      match slice? input endPos 8 with
      | none => (acc, some .truncated)
      | some trailer =>
        if littleEndian (trailer.take 4) != (Checksum.crc32 out).toNat ||
            littleEndian (trailer.drop 4) != out.length % 2 ^ 32 then (acc, some .badChecksum)
        else
          match readHeader input (endPos + 8) with
          | .error .ended => (acc, none)
          | .error e => (acc, some e)
          | .ok next => members input fuel next acc

/-- Opens a gzip body: the header of its first member must read. Then decodes every member:
the content, and the failure that stopped the decoding if any. -/
def decode (raw : Bytes) : Except StreamError (Bytes × Option StreamError) := do
  let input := raw.toByteArray
  let start ← readHeader input 0
  return members input (input.size + 1) start []

end Gzip

namespace Zlib

/-- Reads a zlib header; answers where the DEFLATE data begins, or nothing when the body does not
open as a zlib stream. -/
def readHeader (input : ByteArray) : Option Nat := do
  let head ← slice? input 0 2
  let b0 := head.getD 0 0
  let b1 := head.getD 1 0
  if b0 &&& 0x0f != 8 || b0 >>> 4 > 7 || (b0.toNat * 256 + b1.toNat) % 31 != 0 then none
  else if b1 &&& 0x20 != 0 then
    let dict ← slice? input 2 4
    if bigEndian dict == 1 then some 6 else none
  else some 2

/-- Decodes a zlib stream whose data begins at `start`. -/
def decodeFrom (input : ByteArray) (start : Nat) : Bytes × Option StreamError :=
  let (out, endPos, fault) := inflateFrom input start
  match fault with
  | some f => (out, some f)
  | none =>
    match slice? input endPos 4 with
    | none => (out, some .truncated)
    | some trailer =>
      if bigEndian trailer != (Checksum.adler32 out).toNat then (out, some .badAdler)
      else (out, none)

end Zlib

/-- Decodes a `deflate` body: as a zlib stream when it opens as one, as raw DEFLATE data
otherwise. -/
def inflateBody (raw : Bytes) : Bytes × Option StreamError :=
  let input := raw.toByteArray
  match Zlib.readHeader input with
  | some start => Zlib.decodeFrom input start
  | none =>
    let (out, _, fault) := inflateFrom input 0
    (out, fault)

end Harvest
