import Harvest.Text.Utf8
/-!
# Harvest.Codec.Checksum

The two checksums of compressed streams: CRC-32 (the reflected IEEE polynomial `0xEDB88320`,
as gzip trails its members with) and Adler-32 (the sum pair modulo 65521, as zlib trails its
streams with).

Both are folds over the bytes, so the checksum of a concatenation continues the checksum of
its first part: `crc32Update (crc32Update c xs) ys = crc32Update c (xs ++ ys)`, and likewise for
Adler-32.
-/

namespace Harvest

namespace Checksum

/-! ## CRC-32 -/

/-- One step of the bitwise CRC-32 division. -/
def crcBit (c : UInt32) : UInt32 :=
  if c &&& 1 == 1 then (0xEDB88320 : UInt32) ^^^ (c >>> 1) else c >>> 1

/-- The table entry of one byte value: eight division steps. -/
def crcEntry (n : Nat) : UInt32 :=
  (List.range 8).foldl (fun c _ => crcBit c) (UInt32.ofNat n)

/-- The 256 table entries. -/
def crcTable : Array UInt32 := (Array.range 256).map crcEntry

/-- Continues a CRC-32 (in its finished, complemented form) over more bytes. -/
def crc32Update (crc : UInt32) (bs : Bytes) : UInt32 :=
  ~~~(bs.foldl (fun c b => crcTable[((c ^^^ b.toUInt32) &&& 0xFF).toNat]! ^^^ (c >>> 8)) (~~~crc))

/-- The CRC-32 of some bytes. -/
def crc32 (bs : Bytes) : UInt32 := crc32Update 0 bs

/-! ## Adler-32 -/

/-- The Adler-32 modulus, the largest prime below 2¹⁶. -/
def adlerModulus : Nat := 65521

/-- Continues an Adler-32 over more bytes. -/
def adler32Update (sum : UInt32) (bs : Bytes) : UInt32 :=
  let a := sum.toNat % 65536
  let b := sum.toNat / 65536
  let (a, b) := bs.foldl (fun (a, b) x =>
    let a := (a + x.toNat) % adlerModulus
    (a, (b + a) % adlerModulus)) (a, b)
  UInt32.ofNat (b * 65536 + a)

/-- The Adler-32 of some bytes. -/
def adler32 (bs : Bytes) : UInt32 := adler32Update 1 bs

end Checksum

end Harvest
