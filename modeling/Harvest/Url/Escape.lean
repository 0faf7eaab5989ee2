import Harvest.Text.Utf8
import Harvest.Text.Quoted
/-!
# Harvest.Url.Escape

Percent-encoding of the parts of a URL (RFC 3986, section 2).

Each part of a URL has its own set of bytes that may stand unescaped: letters and digits always
may, `- _ . ~` may everywhere, and the reserved characters and sub-delimiters may stand where the
part gives them no meaning. The host additionally keeps `: [ ]` (a port and an IPv6 literal are
part of it) and the characters a reg-name allows. Escaping writes every other byte as `%` and two
upper-case hex digits; in a query component a space becomes `+`.

Unescaping reads `%hh` back; a `%` not followed by two hex digits is an error, and in a host a
percent-escape may only stand for a byte of 0x80 or more (or be `%25`, which introduces the zone
of an IPv6 literal), while an ASCII byte that a host may not hold is an error of its own.
-/

namespace Harvest

namespace Url

/-- The part of a URL a byte string belongs to; it decides which bytes stay unescaped. -/
inductive Part where
  | path
  | pathSegment
  | host
  | zone
  | userPassword
  | queryComponent
  | fragment
  deriving DecidableEq, Repr

/-- Whether a byte is an ASCII letter or digit. -/
def isAlnum (c : UInt8) : Bool :=
  (0x61 ≤ c && c ≤ 0x7A) || (0x41 ≤ c && c ≤ 0x5A) || (0x30 ≤ c && c ≤ 0x39)

/-- The reserved characters of RFC 2396: `$ & + , / : ; = ? @`. -/
def isReserved (c : UInt8) : Bool :=
  c == 0x24 || c == 0x26 || c == 0x2B || c == 0x2C || c == 0x2F || c == 0x3A ||
    c == 0x3B || c == 0x3D || c == 0x3F || c == 0x40

/-- Whether a byte must be percent-escaped in the given part. -/
def mustEscape (c : UInt8) (part : Part) : Bool :=
  if isAlnum c then false
  else if (part == .host || part == .zone) &&
      (c == 0x21 || c == 0x24 || c == 0x26 || c == 0x27 || c == 0x28 || c == 0x29 ||
       c == 0x2A || c == 0x2B || c == 0x2C || c == 0x3B || c == 0x3D || c == 0x3A ||
       c == 0x5B || c == 0x5D || c == 0x3C || c == 0x3E || c == 0x22) then false
  else if c == 0x2D || c == 0x5F || c == 0x2E || c == 0x7E then false
  else if isReserved c then
    match part with
    | .path => c == 0x3F
    | .pathSegment => c == 0x2F || c == 0x3B || c == 0x2C || c == 0x3F
    | .userPassword => c == 0x40 || c == 0x2F || c == 0x3F || c == 0x3A
    | .queryComponent => true
    | .fragment => false
    | _ => true
  else if part == .fragment && (c == 0x21 || c == 0x28 || c == 0x29 || c == 0x2A) then false
  else true

/-- The upper-case hex digit of a value below 16. -/
def upperHex (n : Nat) : Char :=
  if n < 10 then Char.ofNat (48 + n) else Char.ofNat (55 + n)

/-- The escaped spelling of one byte in the given part. -/
def escapeByte (part : Part) (c : UInt8) : List Char :=
  if c == 0x20 && part == .queryComponent then ['+']
  else if mustEscape c part then ['%', upperHex (c.toNat / 16), upperHex (c.toNat % 16)]
  else [Char.ofNat c.toNat]

/-- Percent-encodes bytes for the given part; the result is ASCII. -/
def escape (bs : Bytes) (part : Part) : String :=
  String.ofList (bs.flatMap (escapeByte part))

/-- The value of a hex digit byte, if it is one. -/
def hexValue (c : UInt8) : Option Nat :=
  if 0x30 ≤ c && c ≤ 0x39 then some (c.toNat - 0x30)
  else if 0x61 ≤ c && c ≤ 0x66 then some (c.toNat - 0x61 + 10)
  else if 0x41 ≤ c && c ≤ 0x46 then some (c.toNat - 0x41 + 10)
  else none

/-- Why percent-decoding failed. -/
inductive EscapeError where
  /-- A `%` without two hex digits, or a percent-escape a host may not use; the bytes shown
  are the `%` and up to two bytes after it. -/
  | badEscape (shown : Bytes)
  /-- An ASCII byte that a host may not contain. -/
  | badHostByte (b : UInt8)
  deriving DecidableEq, Repr

/-- The message of an escape error. -/
def EscapeError.message : EscapeError → String
  | .badEscape shown => "invalid URL escape " ++ shown.quoted
  | .badHostByte b => "invalid character " ++ Bytes.quoted [b] ++ " in host name"

/-- Checks the escapes of a part and decodes them, or reports the first fault. -/
def unescapeBytes (part : Part) : Bytes → Except EscapeError Bytes
  | [] => .ok []
  | 0x25 :: rest =>
    match rest with
    | h1 :: h2 :: rest2 =>
      match hexValue h1, hexValue h2 with
      | some v1, some v2 =>
        let v := v1 * 16 + v2
        if part == .host && v1 < 8 && !(h1 == 0x32 && h2 == 0x35) then
          .error (.badEscape [0x25, h1, h2])
        else if part == .zone && !(h1 == 0x32 && h2 == 0x35) && v != 0x20 &&
            mustEscape v.toUInt8 .host then
          .error (.badEscape [0x25, h1, h2])
        else (unescapeBytes part rest2).map (v.toUInt8 :: ·)
      | _, _ => .error (.badEscape ([0x25] ++ [h1, h2]))
    | _ => .error (.badEscape (0x25 :: rest))
  | c :: rest =>
    if (part == .host || part == .zone) && c < 0x80 && mustEscape c part then
      .error (.badHostByte c)
    else
      let c' := if c == 0x2B && part == .queryComponent then 0x20 else c
      (unescapeBytes part rest).map (c' :: ·)

/-- Decodes the percent-escapes of a part. -/
def unescape (s : Bytes) (part : Part) : Except EscapeError Bytes := unescapeBytes part s

/-- Whether a raw path is already a valid escaping, so that it may be kept as written. -/
def validEncoded (bs : Bytes) (part : Part) : Bool :=
  bs.all fun c =>
    c == 0x21 || c == 0x24 || c == 0x26 || c == 0x27 || c == 0x28 || c == 0x29 ||
      c == 0x2A || c == 0x2B || c == 0x2C || c == 0x3B || c == 0x3D || c == 0x3A ||
      c == 0x40 || c == 0x5B || c == 0x5D || c == 0x25 || !mustEscape c part

end Url

end Harvest
