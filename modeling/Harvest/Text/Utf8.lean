/-!
# Harvest.Text.Utf8

Byte strings and their reading as UTF-8 text.

Everything the library receives from the network or from a file is a list of bytes, and many of
its rules (escaping a URL, cutting a shard off a hash, trimming a body) work byte by byte. Text
is read off such a list one *glyph* at a time: a glyph is either a Unicode scalar spelled in
well-formed UTF-8, or a stray byte that starts no well-formed sequence. A stray byte is read as
U+FFFD when text is required, one replacement per byte, exactly as a decoder that resynchronises
after every bad byte does.
-/

namespace Harvest

/-- A byte string. -/
abbrev Bytes := List UInt8

/-- The UTF-8 bytes of a string. -/
def Bytes.ofString (s : String) : Bytes := s.toUTF8.toList

/-! ## Encoding scalars -/

namespace Utf8

/-- The UTF-8 spelling of one scalar value. -/
def encodeChar (c : Char) : Bytes :=
  let n := c.toNat
  if n < 0x80 then [n.toUInt8]
  else if n < 0x800 then [(0xC0 + n / 64).toUInt8, (0x80 + n % 64).toUInt8]
  else if n < 0x10000 then
    [(0xE0 + n / 4096).toUInt8, (0x80 + n / 64 % 64).toUInt8, (0x80 + n % 64).toUInt8]
  else
    [(0xF0 + n / 262144).toUInt8, (0x80 + n / 4096 % 64).toUInt8,
      (0x80 + n / 64 % 64).toUInt8, (0x80 + n % 64).toUInt8]

/-- The UTF-8 spelling of a list of scalars. -/
def encodeChars (cs : List Char) : Bytes := cs.flatMap encodeChar

/-! ## Glyphs -/

/-- One unit of reading: a well-formed scalar, or a byte that starts none. -/
inductive Glyph where
  | scalar (c : Char)
  | stray (b : UInt8)
  deriving DecidableEq, Repr, Inhabited

/-- A continuation byte, `10xxxxxx`. -/
def isCont (b : UInt8) : Bool := 0x80 ≤ b && b ≤ 0xBF

/-- The scalar with the given code point; every caller passes a valid one. -/
def scalarOf (n : Nat) : Char := Char.ofNat n

/-- The six payload bits of a continuation byte. -/
def low6 (b : UInt8) : Nat := b.toNat % 64

/-- Reads glyphs: the longest well-formed sequence at each point, else one stray byte. -/
def glyphs : Bytes → List Glyph
  | [] => []
  | b0 :: rest =>
    if b0 < 0x80 then .scalar (scalarOf b0.toNat) :: glyphs rest
    else if 0xC2 ≤ b0 && b0 ≤ 0xDF then
      match h : rest with
      | b1 :: rest1 =>
        if isCont b1 then
          .scalar (scalarOf ((b0.toNat % 32) * 64 + low6 b1)) :: glyphs rest1
        else .stray b0 :: glyphs rest
      | [] => [.stray b0]
    else if 0xE0 ≤ b0 && b0 ≤ 0xEF then
      match h : rest with
      | b1 :: b2 :: rest2 =>
        let lo : UInt8 := if b0 == 0xE0 then 0xA0 else 0x80
        let hi : UInt8 := if b0 == 0xED then 0x9F else 0xBF
        if lo ≤ b1 && b1 ≤ hi && isCont b2 then
          .scalar (scalarOf ((b0.toNat % 16) * 4096 + low6 b1 * 64 + low6 b2)) :: glyphs rest2
        else .stray b0 :: glyphs rest
      | _ => .stray b0 :: glyphs rest
    else if 0xF0 ≤ b0 && b0 ≤ 0xF4 then
      match h : rest with
      | b1 :: b2 :: b3 :: rest3 =>
        let lo : UInt8 := if b0 == 0xF0 then 0x90 else 0x80
        let hi : UInt8 := if b0 == 0xF4 then 0x8F else 0xBF
        if lo ≤ b1 && b1 ≤ hi && isCont b2 && isCont b3 then
          .scalar (scalarOf ((b0.toNat % 8) * 262144 + low6 b1 * 4096 + low6 b2 * 64 + low6 b3))
            :: glyphs rest3
        else .stray b0 :: glyphs rest
      | _ => .stray b0 :: glyphs rest
    else .stray b0 :: glyphs rest
termination_by bs => bs.length
decreasing_by all_goals (subst_vars; simp; try omega)

/-- The bytes a glyph was read from. -/
def Glyph.bytes : Glyph → Bytes
  | .scalar c => encodeChar c
  | .stray b => [b]

/-- The scalar a glyph stands for in text; a stray byte reads as U+FFFD. -/
def Glyph.toChar : Glyph → Char
  | .scalar c => c
  | .stray _ => '�'

/-- Writes glyphs back as bytes, stray bytes unchanged. -/
def glyphBytes (gs : List Glyph) : Bytes := gs.flatMap Glyph.bytes

/-- Reads bytes as scalars, each stray byte becoming U+FFFD. -/
def decode (bs : Bytes) : List Char := (glyphs bs).map Glyph.toChar

/-- Whether the bytes are well-formed UTF-8. -/
def valid (bs : Bytes) : Bool :=
  (glyphs bs).all fun g => match g with
    | .scalar _ => true
    | .stray _ => false

/-- Reads bytes as text, each stray byte becoming U+FFFD. -/
def toText (bs : Bytes) : String := String.ofList (decode bs)

/-- Replaces each stray byte by the spelling of U+FFFD. -/
def repair (bs : Bytes) : Bytes := encodeChars (decode bs)

end Utf8

/-- Reads a byte string as text, each stray byte becoming U+FFFD. -/
def Bytes.toText (bs : Bytes) : String := Utf8.toText bs

end Harvest
