/-!
# Harvest.Text.Number

Numbers as text: reading integers and binary64 floats, and writing floats in their shortest
form.

Integers are read in a given base, or with base `0` in the base their prefix names (`0b`, `0o`,
`0x`, a bare leading `0` for octal, decimal otherwise); with base `0` an underscore may separate
digits. A failure is either bad syntax or a value out of range; the first of the two met while
reading the digits wins.

A float text is an optional sign and either `inf`, `infinity` or `nan` (any case, no sign for
`nan`), a decimal mantissa with optional point and `e` exponent, or a hexadecimal mantissa with
a mandatory `p` exponent. The value is the binary64 nearest to the exact decimal (ties to even);
a magnitude beyond the largest finite value is out of range.

Writing gives the fewest significant digits that read back to the same float, choosing among
them the digits nearest to the exact value.
-/

namespace Harvest

namespace Number

/-- Why a number text could not be read. -/
inductive NumError where
  | malformed
  | range
  deriving DecidableEq, Repr

/-- The message of a failure, for the named reading function. -/
def NumError.message (fn : String) : NumError → String
  | .malformed => fn ++ ": invalid syntax"
  | .range => fn ++ ": value out of range"

/-- A character in small letters when it is an ASCII capital. -/
def lowerAscii (c : Char) : Char := if 'A' ≤ c && c ≤ 'Z' then Char.ofNat (c.toNat + 32) else c

/-- The value of a digit character in bases up to 36. -/
def digitValue (c : Char) : Option Nat :=
  let c := lowerAscii c
  if '0' ≤ c && c ≤ '9' then some (c.toNat - '0'.toNat)
  else if 'a' ≤ c && c ≤ 'z' then some (c.toNat - 'a'.toNat + 10)
  else none

/-- Whether the underscores of a number text stand only between digits, or between a base prefix
and a digit. -/
def underscoresOk (s : List Char) : Bool :=
  let s := match s with
    | '+' :: r | '-' :: r => r
    | r => r
  let (hex, start, rest) := match s with
    | '0' :: c :: r =>
      let l := lowerAscii c
      if l == 'b' || l == 'o' || l == 'x' then (l == 'x', '0', r) else (false, '^', s)
    | _ => (false, '^', s)
  let step (acc : Option Char) (c : Char) : Option Char :=
    match acc with
    | none => none
    | some saw =>
      if ('0' ≤ c && c ≤ '9') || (hex && 'a' ≤ lowerAscii c && lowerAscii c ≤ 'f') then some '0'
      else if c == '_' then (if saw != '0' then none else some '_')
      else (if saw == '_' then none else some '!')
  match rest.foldl step (some start) with
  | some saw => saw != '_'
  | none => false

/-- Reads the digits of an unsigned integer, failing on a bad digit or once the value passes
`maxVal`; `allowUnderscore` lets underscores through (checked afterwards). -/
def readDigits (base maxVal : Nat) (allowUnderscore : Bool) : List Char → Nat → Except NumError Nat
  | [], n => .ok n
  | c :: cs, n =>
    if c == '_' && allowUnderscore then readDigits base maxVal allowUnderscore cs n
    else
      match digitValue c with
      | none => .error .malformed
      | some d =>
        if d ≥ base then .error .malformed
        else
          let n := n * base + d
          if n > maxVal then .error .range else readDigits base maxVal allowUnderscore cs n

/-- Reads an unsigned integer of `bits` bits in a base (`0` for the base of the prefix). -/
def parseUint (s : String) (base bits : Nat) : Except NumError Nat :=
  let cs := s.toList
  if cs.isEmpty then .error .malformed
  else
    let (b, digits) :=
      if base != 0 then (base, cs)
      else match cs with
        | '0' :: c :: r@(_ :: _) =>
          let l := lowerAscii c
          if l == 'b' then (2, r) else if l == 'o' then (8, r) else if l == 'x' then (16, r)
          else (8, c :: r)
        | '0' :: r => (8, r)
        | _ => (10, cs)
    match readDigits b (Nat.pow 2 bits - 1) (base == 0) digits 0 with
    | .error e => .error e
    | .ok n =>
      if base == 0 && cs.contains '_' && !underscoresOk cs then .error .malformed else .ok n

/-- Reads a signed integer of `bits` bits in a base (`0` for the base of the prefix). -/
def parseInt (s : String) (base bits : Nat) : Except NumError Int :=
  let (neg, body) := match s.toList with
    | '+' :: r => (false, String.ofList r)
    | '-' :: r => (true, String.ofList r)
    | _ => (false, s)
  let cutoff := Nat.pow 2 (bits - 1)
  match parseUint body base bits with
  | .error .malformed => .error .malformed
  | .error .range => .error .range
  | .ok n =>
    if !neg && n ≥ cutoff then .error .range
    else if neg && n > cutoff then .error .range
    else .ok (if neg then -(n : Int) else n)

/-! ## Floats from their parts -/

/-- The number of bits of a natural number. -/
def bitLength (n : Nat) : Nat := if n == 0 then 0 else n.log2 + 1

/-- The float `q * 2 ^ e` for `q < 2 ^ 53`, exact when representable. -/
def scaled (q : Nat) (e : Int) : Float := Float.scaleB (Float.ofNat q) e

/-- Rounds `n / 2 ^ shift` to an integer, ties to even. -/
def roundShift (n shift : Nat) : Nat :=
  if shift == 0 then n
  else
    let q := n >>> shift
    let r := n - (q <<< shift)
    let half := 1 <<< (shift - 1)
    if r > half || (r == half && q % 2 == 1) then q + 1 else q

/-- The binary64 nearest to `n * 2 ^ e` (ties to even), or none when it overflows. -/
def ofBinary (n : Nat) (e : Int) : Option Float :=
  if n == 0 then some 0
  else
    let len := bitLength n
    -- Normal numbers keep 53 bits; below 2^-1022 the last bit is worth 2^-1074.
    let top : Int := e + len
    let keep : Int := if top - 53 < -1074 then len - (-1074 - e) else 53
    if keep ≤ 0 then
      -- Everything is below half of the least subnormal, or exactly around it.
      let shift := (-1074 - e).toNat
      let q := roundShift n shift
      some (scaled q (-1074))
    else
      let shift := len - keep.toNat
      let q := roundShift n shift
      let e' : Int := e + shift
      if e' + bitLength q > 1024 then none else some (scaled q e')

/-- The binary64 nearest to `d * 10 ^ e` (ties to even), or none when it overflows. -/
def ofDecimal (d : Nat) (e : Int) : Option Float :=
  if d == 0 then some 0
  else
    let nd := (toString d).length
    if (nd : Int) + e > 311 then none
    else if (nd : Int) + e < -330 then some 0
    else if e ≥ 0 then ofBinary (d * Nat.pow 10 e.toNat) 0
    else
      let p := Nat.pow 10 (-e).toNat
      -- Scale so that the quotient keeps at least 64 significant bits, then round once.
      let k := 64 + bitLength p - bitLength d + 1100
      let q := (d <<< k) / p
      let r := (d <<< k) % p
      -- A non-zero remainder only matters as a tie breaker: fold it into a sticky bit.
      let q := q * 2 + (if r == 0 then 0 else 1)
      ofBinary q (-(k : Int) - 1)

/-! ## Reading floats -/

/-- The length of the common prefix of a text and a word, ignoring ASCII case. -/
def commonPrefixLen : List Char → List Char → Nat
  | c :: cs, w :: ws => if lowerAscii c == w then commonPrefixLen cs ws + 1 else 0
  | _, _ => 0

/-- The parts of a decimal or hexadecimal float text: sign, mantissa digits, exponent and
whether it is hexadecimal. -/
structure FloatParts where
  neg : Bool
  mantissa : Nat
  exp : Int
  hex : Bool

/-- Reads the exponent digits (underscores allowed) after an exponent mark. -/
def readExponent : List Char → Nat → Bool → Nat × Bool × List Char
  | c :: cs, e, sawDigit =>
    if '0' ≤ c && c ≤ '9' then readExponent cs (min (e * 10 + (c.toNat - 48)) 100000) true
    else if c == '_' then readExponent cs e sawDigit
    else (e, sawDigit, c :: cs)
  | [], e, sawDigit => (e, sawDigit, [])

/-- Reads mantissa digits: the value, the digit count after the point, whether a digit was seen,
and the rest. -/
def readMantissa (base : Nat) : List Char → Nat → Option Nat → Bool → Nat × Option Nat × Bool × List Char
  | c :: cs, m, frac, saw =>
    if c == '_' then readMantissa base cs m frac saw
    else if c == '.' then
      if frac.isSome then (m, frac, saw, c :: cs) else readMantissa base cs m (some 0) saw
    else match digitValue c with
      | some d =>
        if d < base then readMantissa base cs (m * base + d) (frac.map (· + 1)) true
        else (m, frac, saw, c :: cs)
      | none => (m, frac, saw, c :: cs)
  | [], m, frac, saw => (m, frac, saw, [])

/-- Reads a float text into its parts; none on bad syntax. -/
def readFloat (s : List Char) : Option FloatParts :=
  let (neg, body) := match s with
    | '+' :: r => (false, r)
    | '-' :: r => (true, r)
    | r => (false, r)
  let (hex, body) := match body with
    | '0' :: x :: r@(_ :: _) => if lowerAscii x == 'x' then (true, r) else (false, body)
    | _ => (false, body)
  let base := if hex then 16 else 10
  let (m, frac, saw, rest) := readMantissa base body 0 none false
  if !saw then none
  else
    let scale : Int := (frac.getD 0 : Int) * (if hex then 4 else 1)
    let mark := if hex then 'p' else 'e'
    match rest with
    | c :: r =>
      if lowerAscii c != mark then none
      else
        let (esign, r) := match r with
          | '+' :: r => (1, r)
          | '-' :: r => (-1, r)
          | r => ((1 : Int), r)
        match r with
        | d :: _ =>
          if d < '0' || d > '9' then none
          else
            let (e, _, rest) := readExponent r 0 false
            if !rest.isEmpty then none
            else if s.contains '_' && !underscoresOk s then none
            else some ⟨neg, m, esign * e - scale, hex⟩
        | [] => none
    | [] =>
      if hex then none
      else if s.contains '_' && !underscoresOk s then none
      else some ⟨neg, m, -scale, false⟩

/-- Reads a float text. -/
def parseFloat (s : String) : Except NumError Float :=
  let cs := s.toList
  let (sign, body) := match cs with
    | '+' :: r => (1.0, r)
    | '-' :: r => (-1.0, r)
    | r => (1.0, r)
  let n := commonPrefixLen body "infinity".toList
  if (n == 3 || n == 8) && body.length == n then .ok (sign * (1.0 / 0.0))
  else if cs.length == 3 && commonPrefixLen cs "nan".toList == 3 then .ok (0.0 / 0.0)
  else
    match readFloat cs with
    | none => .error .malformed
    | some p =>
      let v := if p.hex then ofBinary p.mantissa p.exp else ofDecimal p.mantissa p.exp
      match v with
      | none => .error .range
      | some x => .ok (if p.neg then -x else x)

/-! ## Writing floats -/

/-- A decimal: digits (no leading or trailing zeros) and the position of the point. -/
structure Decimal where
  digits : List Nat
  point : Int
  deriving DecidableEq, Repr

/-- The exact decimal of `n * 2 ^ e`. -/
def exactDecimal (n : Nat) (e : Int) : Decimal :=
  let (v, places) : Nat × Nat :=
    if e ≥ 0 then (n * Nat.pow 2 e.toNat, 0) else (n * Nat.pow 5 (-e).toNat, (-e).toNat)
  if v == 0 then ⟨[], 0⟩
  else
    let ds := (toString v).toList.map (fun c => c.toNat - 48)
    let trimmed := (ds.reverse.dropWhile (· == 0)).reverse
    ⟨trimmed, (ds.length : Int) - places⟩

/-- The sign, mantissa and exponent of a finite float: `|x| = m * 2 ^ e`, with `m` holding the
hidden bit of normal numbers. -/
def decompose (x : Float) : Bool × Nat × Int :=
  let bits : Nat := x.toBits.toNat
  let neg := bits ≥ Nat.pow 2 63
  let expField : Nat := (bits / Nat.pow 2 52) % 2048
  let frac : Nat := bits % Nat.pow 2 52
  if expField == 0 then (neg, frac, -1074)
  else (neg, frac + Nat.pow 2 52, (expField : Int) - 1075)

/-- The digit of a decimal at a position counted from its first digit (zero past the end). -/
def Decimal.at (d : Decimal) (i : Int) : Nat :=
  if i < 0 then 0 else d.digits.getD i.toNat 0

/-- Keeps the first `n` digits, rounding up. -/
def Decimal.roundUp (d : Decimal) (n : Nat) : Decimal :=
  let kept := d.digits.take n
  -- Add one at the last kept digit, carrying.
  let (rev, carry) := kept.reverse.foldl (fun (acc, c) x =>
    if c == 1 then (if x == 9 then (0 :: acc, 1) else ((x + 1) :: acc, 0)) else (x :: acc, 0))
    ([], 1)
  let ds := rev
  if carry == 1 then ⟨[1], d.point + 1⟩
  else ⟨(ds.reverse.dropWhile (· == 0)).reverse, d.point⟩

/-- Keeps the first `n` digits, rounding down. -/
def Decimal.roundDown (d : Decimal) (n : Nat) : Decimal :=
  ⟨((d.digits.take n).reverse.dropWhile (· == 0)).reverse, d.point⟩

/-- Keeps the first `n` digits, rounding to nearest (a tie to an even last digit). -/
def Decimal.roundNearest (d : Decimal) (n : Nat) : Decimal :=
  let next := d.digits.getD n 0
  let up :=
    if next == 5 && n + 1 == d.digits.length then n > 0 && (d.digits.getD (n - 1) 0) % 2 == 1
    else next ≥ 5
  if n ≥ d.digits.length then d else if up then d.roundUp n else d.roundDown n

/-- The shortest decimal that reads back to a positive finite float. -/
def shortest (x : Float) : Decimal :=
  let (_, m, e) := decompose x
  let d := exactDecimal m e
  let upper := exactDecimal (2 * m + 1) (e - 1)
  let (mlo, elo) : Nat × Int :=
    if m > Nat.pow 2 52 || e == -1074 then (m - 1, e) else (2 * m - 1, e - 1)
  let lower := exactDecimal (2 * mlo + 1) (elo - 1)
  let inclusive := m % 2 == 0
  let rec walk : Nat → Nat → Nat → Decimal
    | 0, _, _ => d
    | fuel + 1, ui, delta =>
      let mi : Int := (ui : Int) - upper.point + d.point
      if mi ≥ d.digits.length then d
      else
        let li : Int := (ui : Int) - upper.point + lower.point
        let l := if li ≥ 0 && li < lower.digits.length then lower.at li else 0
        let mdig := if mi ≥ 0 then d.at mi else 0
        let u := if ui < upper.digits.length then upper.at ui else 0
        let okdown := l != mdig || (inclusive && li + 1 == lower.digits.length)
        let delta :=
          if delta == 0 && mdig + 1 < u then 2
          else if delta == 0 && mdig != u then 1
          else if delta == 1 && (mdig != 9 || u != 0) then 2
          else delta
        let okup := delta > 0 && (inclusive || delta > 1 || ui + 1 < upper.digits.length)
        let n := (mi + 1).toNat
        if okdown && okup then d.roundNearest n
        else if okdown then d.roundDown n
        else if okup then d.roundUp n
        else walk fuel (ui + 1) delta
  walk 1200 0 0

/-- The digits of a decimal as text. -/
def digitText (ds : List Nat) : String := String.ofList (ds.map fun n => Char.ofNat (48 + n))

/-- Plain notation: `123.45`, `0.001`, `1000`. -/
def Decimal.plain (d : Decimal) : String :=
  if d.digits.isEmpty then "0"
  else
    let n := d.digits.length
    let intPart :=
      if d.point ≤ 0 then "0"
      else if d.point.toNat ≥ n then digitText d.digits ++ String.ofList (List.replicate (d.point.toNat - n) '0')
      else digitText (d.digits.take d.point.toNat)
    let fracPart :=
      if d.point ≥ n then ""
      else if d.point ≤ 0 then
        "." ++ String.ofList (List.replicate (-d.point).toNat '0') ++ digitText d.digits
      else "." ++ digitText (d.digits.drop d.point.toNat)
    intPart ++ fracPart

/-- Scientific notation: `1.5e+21`, `1e-07` (the exponent has at least two digits). -/
def Decimal.scientific (d : Decimal) : String :=
  let (first, rest) := match d.digits with
    | [] => (0, [])
    | f :: r => (f, r)
  let exp : Int := if d.digits.isEmpty then 0 else d.point - 1
  let mant := digitText [first] ++ (if rest.isEmpty then "" else "." ++ digitText rest)
  let sign := if exp < 0 then "-" else "+"
  let a := exp.natAbs
  mant ++ "e" ++ sign ++ (if a < 10 then "0" else "") ++ toString a

/-- The shortest plain notation of a float (`NaN`, `+Inf` and `-Inf` for the special values). -/
def formatPlain (x : Float) : String :=
  if x.isNaN then "NaN"
  else if x.isInf then (if x > 0 then "+Inf" else "-Inf")
  else
    let (neg, m, _) := decompose x
    let body := if m == 0 then "0" else (shortest x).plain
    if neg then "-" ++ body else body

/-- A float as a JSON number: plain notation for magnitudes in `[1e-6, 1e21)` (and zero),
scientific notation otherwise with a one-digit negative exponent unpadded. -/
def formatJson (x : Float) : String :=
  let (neg, m, _) := decompose x
  if m == 0 then (if neg then "-0" else "0")
  else
    let a := x.abs
    let body :=
      if a < 1e-6 || a ≥ 1e21 then
        let s := (shortest x).scientific
        let cs := s.toList
        let n := cs.length
        if n ≥ 4 && cs.getD (n - 4) ' ' == 'e' && cs.getD (n - 3) ' ' == '-' &&
            cs.getD (n - 2) ' ' == '0' then
          String.ofList (cs.take (n - 2) ++ [cs.getD (n - 1) '0'])
        else s
      else (shortest x).plain
    if neg then "-" ++ body else body

end Number

end Harvest
