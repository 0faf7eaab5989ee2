import Harvest.Text.Utf8
/-!
# Harvest.Digest.Sha256

The SHA-256 digest (FIPS 180-4) and its lower-case hex spelling.

The message is padded with a one bit, zero bits and its bit length as a 64-bit big-endian
number to a multiple of 64 bytes; each 64-byte block is expanded to 64 words and mixed into the
eight-word state by 64 rounds. The digest is the final state written big-endian.
-/

namespace Harvest

namespace Sha256

/-- The round constants. -/
def roundConstants : Array UInt32 := #[
  0x428a2f98, 0x71374491, 0xb5c0fbcf, 0xe9b5dba5, 0x3956c25b, 0x59f111f1, 0x923f82a4, 0xab1c5ed5,
  0xd807aa98, 0x12835b01, 0x243185be, 0x550c7dc3, 0x72be5d74, 0x80deb1fe, 0x9bdc06a7, 0xc19bf174,
  0xe49b69c1, 0xefbe4786, 0x0fc19dc6, 0x240ca1cc, 0x2de92c6f, 0x4a7484aa, 0x5cb0a9dc, 0x76f988da,
  0x983e5152, 0xa831c66d, 0xb00327c8, 0xbf597fc7, 0xc6e00bf3, 0xd5a79147, 0x06ca6351, 0x14292967,
  0x27b70a85, 0x2e1b2138, 0x4d2c6dfc, 0x53380d13, 0x650a7354, 0x766a0abb, 0x81c2c92e, 0x92722c85,
  0xa2bfe8a1, 0xa81a664b, 0xc24b8b70, 0xc76c51a3, 0xd192e819, 0xd6990624, 0xf40e3585, 0x106aa070,
  0x19a4c116, 0x1e376c08, 0x2748774c, 0x34b0bcb5, 0x391c0cb3, 0x4ed8aa4a, 0x5b9cca4f, 0x682e6ff3,
  0x748f82ee, 0x78a5636f, 0x84c87814, 0x8cc70208, 0x90befffa, 0xa4506ceb, 0xbef9a3f7, 0xc67178f2]

/-- The initial state. -/
def initialState : Array UInt32 := #[
  0x6a09e667, 0xbb67ae85, 0x3c6ef372, 0xa54ff53a, 0x510e527f, 0x9b05688c, 0x1f83d9ab, 0x5be0cd19]

/-- Rotation to the right. -/
def rotr (x : UInt32) (n : UInt32) : UInt32 := (x >>> n) ||| (x <<< (32 - n))

/-- The padded message. -/
def pad (msg : ByteArray) : ByteArray :=
  let len := msg.size
  let zeros := (119 - len % 64) % 64
  let withOne := msg.push 0x80
  let padded := (List.replicate zeros (0 : UInt8)).foldl (fun acc b => acc.push b) withOne
  let bits := len * 8
  (List.range 8).foldl (fun acc i => acc.push (bits / Nat.pow 2 (8 * (7 - i)) % 256).toUInt8) padded

/-- The big-endian word at a byte offset. -/
def wordAt (data : ByteArray) (i : Nat) : UInt32 :=
  (data.get! i).toUInt32 <<< 24 ||| (data.get! (i + 1)).toUInt32 <<< 16 |||
    (data.get! (i + 2)).toUInt32 <<< 8 ||| (data.get! (i + 3)).toUInt32

/-- The message schedule of the block at a byte offset. -/
def schedule (data : ByteArray) (off : Nat) : Array UInt32 :=
  let first := (List.range 16).foldl (fun acc i => acc.push (wordAt data (off + 4 * i))) #[]
  (List.range 48).foldl (fun w j =>
    let t := j + 16
    let w15 := w[t - 15]!
    let w2 := w[t - 2]!
    let s0 := rotr w15 7 ^^^ rotr w15 18 ^^^ (w15 >>> 3)
    let s1 := rotr w2 17 ^^^ rotr w2 19 ^^^ (w2 >>> 10)
    w.push (w[t - 16]! + s0 + w[t - 7]! + s1)) first

/-- Mixes one block into the state. -/
def compress (st : Array UInt32) (w : Array UInt32) : Array UInt32 :=
  let (a, b, c, d, e, f, g, h) := (List.range 64).foldl (fun (a, b, c, d, e, f, g, h) i =>
    let s1 := rotr e 6 ^^^ rotr e 11 ^^^ rotr e 25
    let ch := (e &&& f) ^^^ ((~~~ e) &&& g)
    let t1 := h + s1 + ch + roundConstants[i]! + w[i]!
    let s0 := rotr a 2 ^^^ rotr a 13 ^^^ rotr a 22
    let maj := (a &&& b) ^^^ (a &&& c) ^^^ (b &&& c)
    let t2 := s0 + maj
    (t1 + t2, a, b, c, d + t1, e, f, g))
    (st[0]!, st[1]!, st[2]!, st[3]!, st[4]!, st[5]!, st[6]!, st[7]!)
  #[st[0]! + a, st[1]! + b, st[2]! + c, st[3]! + d, st[4]! + e, st[5]! + f, st[6]! + g,
    st[7]! + h]

/-- The digest of a message as 32 bytes. -/
def digest (msg : Bytes) : Bytes :=
  let data := pad (ByteArray.mk msg.toArray)
  let st := (List.range (data.size / 64)).foldl
    (fun st blk => compress st (schedule data (64 * blk))) initialState
  st.toList.flatMap fun (x : UInt32) =>
    [(x >>> 24).toUInt8, (x >>> 16).toUInt8, (x >>> 8).toUInt8, x.toUInt8]

/-- The lower-case hex digit of a value below 16. -/
def hexChar (n : Nat) : Char := if n < 10 then Char.ofNat (48 + n) else Char.ofNat (87 + n)

/-- The lower-case hex spelling of bytes. -/
def hex (bs : Bytes) : String :=
  String.ofList (bs.flatMap fun b => [hexChar (b.toNat / 16), hexChar (b.toNat % 16)])

/-- The hex digest of a message. -/
def hexDigest (msg : Bytes) : String := hex (digest msg)

end Sha256

end Harvest
