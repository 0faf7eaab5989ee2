import Harvest.Text.Utf8
/-!
# Harvest.Text.Blank

Blank characters and the trimming and splitting built on them.

A blank is a character of the Unicode `White_Space` property: the ASCII tab, line feed,
vertical tab, form feed, carriage return and space, the next-line control U+0085, and the space
separators of Unicode (no-break space, the Ogham mark, the en and em spaces and their kin, the
line and paragraph separators, the narrow no-break space, the medium mathematical space and the
ideographic space). Trimming removes blanks at both ends and leaves the inside untouched;
splitting into fields cuts at every run of blanks and drops empty pieces. On bytes, a stray byte
is never blank, so it stays in place.
-/

namespace Harvest

/-- Whether a character has the Unicode `White_Space` property. -/
def isBlank (c : Char) : Bool :=
  let n := c.toNat
  (9 ≤ n && n ≤ 13) || n == 32 || n == 0x85 || n == 0xA0 || n == 0x1680 ||
    (0x2000 ≤ n && n ≤ 0x200A) || n == 0x2028 || n == 0x2029 || n == 0x202F ||
    n == 0x205F || n == 0x3000

namespace Utf8

/-- Whether a glyph is a blank scalar. -/
def Glyph.isBlank : Glyph → Bool
  | .scalar c => Harvest.isBlank c
  | .stray _ => false

end Utf8

/-- Drops blank glyphs from both ends of a glyph list. -/
def trimGlyphs (gs : List Utf8.Glyph) : List Utf8.Glyph :=
  ((gs.dropWhile Utf8.Glyph.isBlank).reverse.dropWhile Utf8.Glyph.isBlank).reverse

/-- Removes leading and trailing blanks from bytes. -/
def Bytes.trimBlank (bs : Bytes) : Bytes :=
  Utf8.glyphBytes (trimGlyphs (Utf8.glyphs bs))

/-- Removes leading and trailing blanks from a string. -/
def trimBlank (s : String) : String :=
  String.ofList (((s.toList.dropWhile isBlank).reverse.dropWhile isBlank).reverse)

/-- Splits a glyph list at runs of blanks, keeping the non-empty pieces in order. -/
def splitGlyphFields :
    List Utf8.Glyph → List (List Utf8.Glyph) → List Utf8.Glyph → List (List Utf8.Glyph)
  | [], acc, cur => (if cur.isEmpty then acc else cur.reverse :: acc).reverse
  | g :: rest, acc, cur =>
    if g.isBlank then
      splitGlyphFields rest (if cur.isEmpty then acc else cur.reverse :: acc) []
    else splitGlyphFields rest acc (g :: cur)

/-- The blank-separated fields of a byte string, in order. -/
def Bytes.fields (bs : Bytes) : List Bytes :=
  (splitGlyphFields (Utf8.glyphs bs) [] []).map Utf8.glyphBytes

/-- Whether a string consists of blanks only (the empty string included). -/
def isBlankText (s : String) : Bool := s.toList.all isBlank

end Harvest
