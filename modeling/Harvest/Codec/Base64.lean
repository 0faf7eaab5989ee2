import Harvest.Text.Utf8
/-!
# Harvest.Codec.Base64

The standard base64 alphabet with `=` padding (RFC 4648, section 4).

Writing takes three bytes at a time to four characters, padding the last group with `=`.
Reading accepts exactly that form, ignoring line breaks (carriage returns and line feeds): each
character must be of the alphabet, a padded group must end the input, and (when reading
strictly) the bits a padded group leaves over must be zero. A failure reports the offset of the
first character that cannot be accepted.
-/

namespace Harvest

namespace Base64

/-- The alphabet. -/
def alphabet : Array Char :=
  "ABCDEFGHIJKLMNOPQRSTUVWXYZabcdefghijklmnopqrstuvwxyz0123456789+/".toList.toArray

/-- The character for a six-bit value. -/
def charOf (n : Nat) : Char := alphabet[n % 64]!

/-- Writes bytes in base64. -/
def encode : Bytes → String
  | [] => ""
  | [a] =>
    let n := a.toNat * 65536
    String.ofList [charOf (n / 262144), charOf (n / 4096 % 64), '=', '=']
  | [a, b] =>
    let n := a.toNat * 65536 + b.toNat * 256
    String.ofList [charOf (n / 262144), charOf (n / 4096 % 64), charOf (n / 64 % 64), '=']
  | a :: b :: c :: rest =>
    let n := a.toNat * 65536 + b.toNat * 256 + c.toNat
    String.ofList [charOf (n / 262144), charOf (n / 4096 % 64), charOf (n / 64 % 64),
      charOf (n % 64)] ++ encode rest

/-- The six-bit value of an alphabet character. -/
def valueOf (c : Char) : Option Nat :=
  if 'A' ≤ c && c ≤ 'Z' then some (c.toNat - 65)
  else if 'a' ≤ c && c ≤ 'z' then some (c.toNat - 97 + 26)
  else if '0' ≤ c && c ≤ '9' then some (c.toNat - 48 + 52)
  else if c == '+' then some 62
  else if c == '/' then some 63
  else none

/-- A failed reading, at the offset of the offending character. -/
structure DecodeError where
  offset : Nat
  deriving DecidableEq, Repr

/-- The message of a failed reading. -/
def DecodeError.message (e : DecodeError) : String :=
  "illegal base64 data at input byte " ++ toString e.offset

/-- Reads groups of four characters; `cs` pairs each character with its offset. With `strict`,
the bits a padded group leaves over must be zero. -/
def decodeGroups (strict : Bool) : List (Char × Nat) → Nat → Except DecodeError Bytes
  | [], _ => .ok []
  | [(c, i)], _ => match valueOf c with
    | some _ => .error ⟨i + 1⟩
    | none => .error ⟨i⟩
  | (c1, i1) :: (c2, i2) :: rest, total =>
    match valueOf c1, valueOf c2 with
    | none, _ => .error ⟨i1⟩
    | _, none => .error ⟨i2⟩
    | some v1, some v2 =>
      match rest with
      | [] => .error ⟨total⟩
      | [(c3, i3)] =>
        if c3 == '=' then .error ⟨total⟩
        else match valueOf c3 with
          | none => .error ⟨i3⟩
          | some _ => .error ⟨total⟩
      | (c3, i3) :: (c4, i4) :: more =>
        if c3 == '=' then
          if c4 != '=' then .error ⟨i4⟩
          else if !more.isEmpty then .error ⟨i4 + 1⟩
          else if strict && v2 % 16 != 0 then .error ⟨i2⟩
          else .ok [(v1 * 4 + v2 / 16).toUInt8]
        else
          match valueOf c3 with
          | none => .error ⟨i3⟩
          | some v3 =>
            if c4 == '=' then
              if !more.isEmpty then .error ⟨i4 + 1⟩
              else if strict && v3 % 4 != 0 then .error ⟨i3⟩
              else .ok [(v1 * 4 + v2 / 16).toUInt8, ((v2 % 16) * 16 + v3 / 4).toUInt8]
            else
              match valueOf c4 with
              | none => .error ⟨i4⟩
              | some v4 =>
                (decodeGroups strict more total).map fun tail =>
                  (v1 * 4 + v2 / 16).toUInt8 :: ((v2 % 16) * 16 + v3 / 4).toUInt8 ::
                    ((v3 % 4) * 64 + v4).toUInt8 :: tail

/-- The characters of a text with their offsets, line breaks left out. -/
def indexed (s : String) : List (Char × Nat) :=
  (s.toList.zipIdx).filter fun (c, _) => c != '\r' && c != '\n'

/-- Reads base64 text. -/
def decode (s : String) : Except DecodeError Bytes :=
  decodeGroups true (indexed s) s.length

/-- Reads base64 text, ignoring the bits a padded group leaves over. -/
def decodeLoose (s : String) : Except DecodeError Bytes :=
  decodeGroups false (indexed s) s.length

end Base64

end Harvest
