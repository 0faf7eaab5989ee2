/-!
# Harvest.Text.Duration

Durations written as text, such as `300ms`, `-1.5h` or `2h45m`: an optional sign, then one or
more decimal numbers (with optional fraction), each followed by a unit: `ns`, `us` (or `µs`,
`μs`), `ms`, `s`, `m`, `h`. A bare `0` is zero. The value is in nanoseconds; fractions are
scaled in binary64 and truncated, as a float computation would. Magnitudes beyond the 64-bit
range are invalid.

Failures quote the whole text (or the unknown unit) between double quotes, writing characters
outside printable ASCII as `\x` byte escapes.
-/

namespace Harvest

namespace Duration

/-- Nanoseconds per unit. -/
def unitValue (u : String) : Option Nat :=
  match u with
  | "ns" => some 1
  | "us" | "µs" | "μs" => some 1000
  | "ms" => some 1000000
  | "s" => some 1000000000
  | "m" => some 60000000000
  | "h" => some 3600000000000
  | _ => none

/-- A text quoted for a failure message. -/
def quote (s : String) : String :=
  let hex (n : Nat) : Char := "0123456789abcdef".toList.getD n '0'
  let body := s.toList.flatMap fun c =>
    if c.toNat ≥ 0x80 || c.toNat < 0x20 then
      (String.singleton c).toUTF8.toList.flatMap fun b => ['\\', 'x', hex (b.toNat / 16), hex (b.toNat % 16)]
    else if c == '"' || c == '\\' then ['\\', c]
    else [c]
  "\"" ++ String.ofList body ++ "\""

/-- The largest magnitude, `2^63`. -/
def limit : Nat := Nat.pow 2 63

/-- Leading decimal digits: the value, or none on overflow; and what follows. -/
def leadingInt : List Char → Nat → Option (Nat × List Char)
  | [], x => some (x, [])
  | c :: cs, x =>
    if '0' ≤ c && c ≤ '9' then
      if x > limit / 10 then none
      else
        let x := x * 10 + (c.toNat - 48)
        if x > limit then none else leadingInt cs x
    else some (x, c :: cs)

/-- Leading fraction digits: the digits kept (until precision would overflow), their scale as a
float, and what follows. -/
def leadingFraction : List Char → Nat → Float → Bool → Nat × Float × List Char
  | [], x, scale, _ => (x, scale, [])
  | c :: cs, x, scale, overflow =>
    if '0' ≤ c && c ≤ '9' then
      if overflow then leadingFraction cs x scale true
      else if x > (limit - 1) / 10 then leadingFraction cs x scale true
      else
        let y := x * 10 + (c.toNat - 48)
        if y > limit then leadingFraction cs x scale true
        else leadingFraction cs y (scale * 10) false
    else (x, scale, c :: cs)

/-- Truncates a non-negative float to a natural number. -/
def truncFloat (x : Float) : Nat := x.floor.toUInt64.toNat

/-- Reads the number-unit pairs; answers the total, or the failure. -/
def readParts (orig : String) : Nat → List Char → Nat → Except String Nat
  | 0, _, d => .ok d
  | _, [], d => .ok d
  | fuel + 1, s, d =>
    let invalid : Except String Nat := .error ("time: invalid duration " ++ quote orig)
    match s with
    | [] => .ok d
    | c :: _ =>
      if !(c == '.' || ('0' ≤ c && c ≤ '9')) then invalid
      else
        match leadingInt s 0 with
        | none => invalid
        | some (v, rest) =>
          let pre := rest.length != s.length
          let (f, scale, rest, post) := match rest with
            | '.' :: r =>
              let (f, scale, r') := leadingFraction r 0 1 false
              (f, scale, r', r'.length != r.length)
            | r => (0, 1.0, r, false)
          if !pre && !post then invalid
          else
            let unitChars := rest.takeWhile fun c => !(c == '.' || ('0' ≤ c && c ≤ '9'))
            let rest := rest.drop unitChars.length
            if unitChars.isEmpty then .error ("time: missing unit in duration " ++ quote orig)
            else
              let u := String.ofList unitChars
              match unitValue u with
              | none => .error ("time: unknown unit " ++ quote u ++ " in duration " ++ quote orig)
              | some unit =>
                if v > limit / unit then invalid
                else
                  let v := v * unit
                  let v := if f > 0 then v + truncFloat (Float.ofNat f * (Float.ofNat unit / scale)) else v
                  if v > limit then invalid
                  else
                    let d := d + v
                    if d > limit then invalid else readParts orig fuel rest d

/-- Reads a duration text into nanoseconds. -/
def parse (s : String) : Except String Int :=
  let cs := s.toList
  let (neg, body) := match cs with
    | '-' :: r => (true, r)
    | '+' :: r => (false, r)
    | r => (false, r)
  if body == ['0'] then .ok 0
  else if body.isEmpty then .error ("time: invalid duration " ++ quote s)
  else
    match readParts s (body.length + 1) body 0 with
    | .error e => .error e
    | .ok d =>
      if neg then .ok (-(d : Int))
      else if d > limit - 1 then .error ("time: invalid duration " ++ quote s)
      else .ok d

end Duration

end Harvest
