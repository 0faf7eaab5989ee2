import Harvest.Text.Utf8
/-!
# Harvest.Uuid

Which texts are accepted as UUIDs.

Four spellings are accepted, told apart by their length in bytes: 36 bytes
`xxxxxxxx-xxxx-xxxx-xxxx-xxxxxxxxxxxx`; 45 bytes, the same after a `urn:uuid:` prefix in any
case; 38 bytes, the same after any one byte (meant to be in braces, whose last byte is not
looked at); and 32 bytes of hex digits alone. Hex digits may be of either case.

A random (version 4) UUID is written from sixteen bytes with the version nibble set to 4 and the
variant bits to `10`, in the 36-byte dashed form with small hex digits.
-/

namespace Harvest

namespace Uuid

/-- Whether a byte is a hex digit. -/
def isHex (b : UInt8) : Bool :=
  (0x30 ≤ b && b ≤ 0x39) || (0x61 ≤ b && b ≤ 0x66) || (0x41 ≤ b && b ≤ 0x46)

/-- Whether the first 36 bytes have the dashed form. -/
def dashed (bs : Bytes) : Bool :=
  let a := bs.toArray
  let dashAt (i : Nat) := a[i]? == some 0x2D
  dashAt 8 && dashAt 13 && dashAt 18 && dashAt 23 &&
    [0, 2, 4, 6, 9, 11, 14, 16, 19, 21, 24, 26, 28, 30, 32, 34].all fun i =>
      (a[i]?.map isHex).getD false && (a[i + 1]?.map isHex).getD false

/-- Lower-cases an ASCII byte. -/
def lowerByte (b : UInt8) : UInt8 := if 0x41 ≤ b && b ≤ 0x5A then b + 32 else b

/-- Whether a text is accepted as a UUID. -/
def valid (s : String) : Bool :=
  let bs := Bytes.ofString s
  match bs.length with
  | 36 => dashed bs
  | 45 => (bs.take 9).map lowerByte == Bytes.ofString "urn:uuid:" && dashed (bs.drop 9)
  | 38 => dashed (bs.drop 1)
  | 32 => bs.all isHex
  | _ => false

/-- The two small hex digits of a byte. -/
def hexByte (b : UInt8) : String :=
  let digit (n : Nat) : Char := "0123456789abcdef".toList.getD n '0'
  String.ofList [digit (b.toNat / 16), digit (b.toNat % 16)]

/-- The version 4 UUID made from sixteen random bytes (missing bytes count as zero). -/
def ofRandom (bs : Bytes) : String :=
  let b (i : Nat) : UInt8 := bs.getD i 0
  let byteAt (i : Nat) : UInt8 :=
    if i == 6 then (b 6 &&& 0x0F) ||| 0x40
    else if i == 8 then (b 8 &&& 0x3F) ||| 0x80
    else b i
  let group (lo hi : Nat) : String := String.join ((List.range (hi - lo)).map fun k => hexByte (byteAt (lo + k)))
  group 0 4 ++ "-" ++ group 4 6 ++ "-" ++ group 6 8 ++ "-" ++ group 8 10 ++ "-" ++ group 10 16

end Uuid

end Harvest
