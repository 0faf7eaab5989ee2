import Harvest.Text.Utf8
/-!
# Harvest.Codec.Inflate

Decompression of a raw DEFLATE stream (RFC 1951), reporting where a damaged stream goes wrong.

Bits are taken from the input one whole byte at a time, least significant bit first, and only
when a read needs them: a block header reads until three bits are buffered, a Huffman symbol
until as many bits are buffered as the shortest code of its table (for the literal table of a
dynamic block, the length of the end-of-block code when that is longer) and then until the code
the buffered bits point at is complete. So the number of bytes taken when a fault is seen is
fixed by the stream, and a fault is reported as `corrupt n` with `n` that number, or as
`truncated` when the input ends inside a block.

A code table is accepted when its lengths fill the code space exactly, or when it has a single
code of length one (the missing half then decodes to a fault); a table with no codes is accepted
and faults when used. A stored block drops the buffered bits and copies its bytes straight from
the input. A back reference may reach at most 32 KiB back and never before the first byte
written. The decoder stops after the final block and reports the offset of the first byte it
did not take, where a container's trailer begins.
-/

namespace Harvest

namespace Inflate

/-- Why a stream could not be inflated. -/
inductive Fault where
  /-- The input ended inside a block. -/
  | truncated
  /-- The stream is damaged; the number is the count of bytes taken when that was seen. -/
  | corrupt (offset : Nat)
  deriving DecidableEq, Repr

/-- The message of a fault. -/
def Fault.message : Fault → String
  | .truncated => "unexpected EOF"
  | .corrupt n => "flate: corrupt input before offset " ++ toString n

/-! ## Bit reading -/

/-- The input, the offset of the next byte to take, and the bits taken but not yet used. -/
structure Reader where
  input : ByteArray
  pos : Nat
  bits : Nat
  count : Nat

namespace Reader

/-- Takes one more byte into the bit buffer. -/
def next? (r : Reader) : Option Reader :=
  if r.pos < r.input.size then
    some { r with pos := r.pos + 1, bits := r.bits ||| (r.input.get! r.pos).toNat <<< r.count,
                  count := r.count + 8 }
  else none

/-- Takes bytes until at least `n` bits are buffered. -/
def fill (r : Reader) (n : Nat) : Except Fault Reader :=
  go (n + 1) r
where
  go : Nat → Reader → Except Fault Reader
    | 0, r => .ok r
    | fuel + 1, r =>
      if n ≤ r.count then .ok r
      else match r.next? with
        | some r => go fuel r
        | none => .error .truncated

/-- Uses the lowest `n` buffered bits. -/
def drop (r : Reader) (n : Nat) : Reader := { r with bits := r.bits >>> n, count := r.count - n }

/-- The value of the lowest `n` bits, after buffering them. -/
def take (r : Reader) (n : Nat) : Except Fault (Nat × Reader) := do
  let r ← r.fill n
  return (r.bits % Nat.pow 2 n, r.drop n)

end Reader

/-! ## Code tables -/

/-- A prefix code, as a table indexed by the next `2 ^ maxLen` bits. An entry holds
`symbol * 16 + length`, or `0` where no code matches. -/
structure Code where
  minLen : Nat
  maxLen : Nat
  table : Array Nat

/-- The `len` low bits of `code` in reverse order. -/
def reverseBits (code len : Nat) : Nat :=
  (List.range len).foldl (fun acc i => acc * 2 + (code >>> i) % 2) 0

/-- Sets `count` entries of a table, `step` apart from `start`. -/
def fillTable (t : Array Nat) (start step count v : Nat) : Array Nat :=
  (List.range count).foldl (fun t k => t.set! (start + k * step) v) t

namespace Code

/-- The canonical code of a list of code lengths (indexed by symbol, `0` for unused), when the
lengths describe an acceptable code. -/
def build (lengths : List Nat) : Option Code :=
  let used := lengths.filter (· != 0)
  match used with
  | [] => some ⟨0, 0, #[0]⟩
  | first :: _ =>
    let lo := used.foldl min first
    let hi := used.foldl max first
    let counts := used.foldl (fun c n => c.modify n (· + 1)) (Array.replicate 16 0)
    let (next, total) := (List.range' lo (hi + 1 - lo)).foldl
      (fun (nx, code) i => let code := code * 2; (nx.set! i code, code + counts[i]!))
      (Array.replicate 16 0, 0)
    if total != Nat.pow 2 hi && !(total == 1 && hi == 1) then none
    else
      let (_, table) := lengths.zipIdx.foldl (fun (nx, t) (n, sym) =>
        if n == 0 then (nx, t)
        else
          let code := nx[n]!
          (nx.set! n (code + 1),
            fillTable t (reverseBits code n) (Nat.pow 2 n) (Nat.pow 2 (hi - n)) (sym * 16 + n)))
        (next, Array.replicate (Nat.pow 2 hi) 0)
      some ⟨lo, hi, table⟩

/-- Reads one symbol. -/
def decode (c : Code) (r : Reader) : Except Fault (Nat × Reader) := do
  let r ← r.fill c.minLen
  go 16 r
where
  go : Nat → Reader → Except Fault (Nat × Reader)
    | 0, r => .error (.corrupt r.pos)
    | fuel + 1, r =>
      let e := c.table[r.bits % c.table.size]!
      let n := e % 16
      if n == 0 then .error (.corrupt r.pos)
      else if n ≤ r.count then .ok (e / 16, r.drop n)
      else do
        let r ← r.fill n
        go fuel r

/-- The fixed literal/length code. -/
def fixedLiteral : Code :=
  (build (List.replicate 144 8 ++ List.replicate 112 9 ++ List.replicate 24 7 ++
    List.replicate 8 8)).getD ⟨0, 0, #[0]⟩

end Code

/-! ## Blocks -/

/-- The order in which the code-length code's lengths are sent. -/
def lengthOrder : List Nat := [16, 17, 18, 0, 8, 7, 9, 6, 10, 5, 11, 4, 12, 3, 13, 2, 14, 1, 15]

/-- Reads the code lengths of a dynamic block: `n` lengths in the code-length code `clc`. -/
def readLengths (clc : Code) (n : Nat) : Nat → Reader → Array Nat → Except Fault (Array Nat × Reader)
  | 0, r, acc => .ok (acc, r)
  | fuel + 1, r, acc =>
    if acc.size ≥ n then .ok (acc, r)
    else do
      let (x, r) ← clc.decode r
      if x < 16 then readLengths clc n fuel r (acc.push x)
      else
        let (rep, extra, prev) :=
          if x == 16 then (3, 2, acc.back?) else if x == 17 then (3, 3, some 0) else (11, 7, some 0)
        match prev with
        | none => .error (.corrupt r.pos)
        | some v =>
          let (k, r) ← r.take extra
          let rep := rep + k
          if acc.size + rep > n then .error (.corrupt r.pos)
          else readLengths clc n fuel r (acc ++ Array.replicate rep v)

/-- Reads the code tables of a dynamic block. -/
def readTables (r : Reader) : Except Fault (Code × Code × Reader) := do
  let r ← r.fill 14
  let nlit := r.bits % 32 + 257
  if nlit > 286 then throw (.corrupt r.pos)
  let ndist := (r.bits >>> 5) % 32 + 1
  if ndist > 30 then throw (.corrupt r.pos)
  let nclen := (r.bits >>> 10) % 16 + 4
  let r := r.drop 14
  let (sent, r) ← (lengthOrder.take nclen).foldlM (fun (acc, r) sym => do
    let (v, r) ← r.take 3
    return (acc ++ [(sym, v)], r)) (([] : List (Nat × Nat)), r)
  let clens := (List.range 19).map fun s => ((sent.find? (·.1 == s)).map (·.2)).getD 0
  let some clc := Code.build clens | throw (.corrupt r.pos)
  let (lens, r) ← readLengths clc (nlit + ndist) (nlit + ndist + 1) r #[]
  let lens := lens.toList
  match Code.build (lens.take nlit), Code.build (lens.drop nlit) with
  | some lit, some dist =>
    let eob := lens.getD 256 0
    return ({ lit with minLen := max lit.minLen eob }, dist, r)
  | _, _ => throw (.corrupt r.pos)

/-- The match length of a length symbol, and how many extra bits follow it. -/
def lengthBase (v : Nat) : Nat × Nat :=
  if v < 265 then (v - 254, 0)
  else if v < 269 then (2 * v - 519, 1)
  else if v < 273 then (4 * v - 1057, 2)
  else if v < 277 then (8 * v - 2149, 3)
  else if v < 281 then (16 * v - 4365, 4)
  else if v < 285 then (32 * v - 8861, 5)
  else (258, 0)

/-- Appends `len` bytes copied from `dist` bytes back, the copy overlapping what it writes. -/
def copyBack (out : ByteArray) (dist len : Nat) : ByteArray :=
  (List.range len).foldl (fun o _ => o.push (o.get! (o.size - dist))) out

/-- Reads a distance symbol: five plain bits in a fixed block, a code otherwise. -/
def readDistanceSymbol (dist : Option Code) (r : Reader) : Except Fault (Nat × Reader) :=
  match dist with
  | some c => c.decode r
  | none => do
    let (v, r) ← r.take 5
    return (reverseBits v 5, r)

/-- What is left to do. -/
inductive Mode where
  /-- A block header comes next. -/
  | header
  /-- Symbols of a Huffman block; `dist` is absent for the fixed distance code. -/
  | symbols (final : Bool) (lit : Code) (dist : Option Code)
  /-- The final block has ended. -/
  | finished

/-- A decoder in the middle of a stream. -/
structure State where
  reader : Reader
  out : ByteArray
  /-- The length of `out` before this stream began. -/
  base : Nat
  mode : Mode

/-- The bytes a back reference may reach. -/
def State.history (s : State) : Nat := min (s.out.size - s.base) 32768

/-- Copies a stored block. -/
def storedBlock (s : State) (final : Bool) : Except (Fault × ByteArray) State :=
  let r := { s.reader with bits := 0, count := 0 }
  let avail := r.input.size - r.pos
  if avail < 4 then .error (.truncated, s.out)
  else
    let b i := (r.input.get! (r.pos + i)).toNat
    let n := b 0 + 256 * b 1
    let nn := b 2 + 256 * b 3
    let pos := r.pos + 4
    if nn != 65535 - n then .error (.corrupt pos, s.out)
    else
      let got := min n (r.input.size - pos)
      let out := s.out ++ r.input.extract pos (pos + got)
      let r := { r with pos := pos + got }
      if got < n then .error (.truncated, out)
      else .ok { s with reader := r, out := out, mode := if final then .finished else .header }

/-- Reads a block header and, for a stored block, the whole block. -/
def headerStep (s : State) : Except (Fault × ByteArray) State :=
  match s.reader.take 3 with
  | .error f => .error (f, s.out)
  | .ok (h, r) =>
    let final := h % 2 == 1
    let s := { s with reader := r }
    match h / 2 with
    | 0 => storedBlock s final
    | 1 => .ok { s with mode := .symbols final Code.fixedLiteral none }
    | 2 =>
      match readTables r with
      | .ok (lit, dist, r) => .ok { s with reader := r, mode := .symbols final lit (some dist) }
      | .error f => .error (f, s.out)
    | _ => .error (.corrupt r.pos, s.out)

/-- Reads one symbol of a Huffman block and acts on it. -/
def symbolStep (s : State) (final : Bool) (lit : Code) (dist : Option Code) :
    Except (Fault × ByteArray) State :=
  let fail (f : Fault) : Except (Fault × ByteArray) State := .error (f, s.out)
  match lit.decode s.reader with
  | .error f => fail f
  | .ok (v, r) =>
    if v < 256 then .ok { s with reader := r, out := s.out.push v.toUInt8 }
    else if v == 256 then .ok { s with reader := r, mode := if final then .finished else .header }
    else if v ≥ 286 then fail (.corrupt r.pos)
    else
      let (len, extra) := lengthBase v
      match r.take extra with
      | .error f => fail f
      | .ok (k, r) =>
        let len := len + k
        match readDistanceSymbol dist r with
        | .error f => fail f
        | .ok (d, r) =>
          let decoded : Except Fault (Nat × Reader) :=
            if d < 4 then .ok (d + 1, r)
            else if d < 30 then
              let nb := (d - 2) / 2
              match r.take nb with
              | .error f => .error f
              | .ok (x, r) => .ok (Nat.pow 2 (nb + 1) + 1 + ((d % 2) <<< nb ||| x), r)
            else .error (.corrupt r.pos)
          match decoded with
          | .error f => fail f
          | .ok (d, r) =>
            if d > s.history then fail (.corrupt r.pos)
            else .ok { s with reader := r, out := copyBack s.out d len }

/-- Runs the decoder for at most `fuel` steps. -/
def run : Nat → State → Except (Fault × ByteArray) State
  | 0, s => .error (.truncated, s.out)
  | fuel + 1, s =>
    match s.mode with
    | .finished => .ok s
    | .header => headerStep s >>= run fuel
    | .symbols final lit dist => symbolStep s final lit dist >>= run fuel

/-- What inflating a stream gave: the bytes written (all of them, also when a fault stopped the
stream), the offset of the first byte not taken, and the fault if any. -/
structure Outcome where
  out : ByteArray
  pos : Nat
  fault : Option Fault

/-- Inflates the stream starting at offset `start` of `input`, appending to `out`. -/
def inflateAt (input : ByteArray) (start : Nat) (out : ByteArray) : Outcome :=
  let s : State := ⟨⟨input, start, 0, 0⟩, out, out.size, .header⟩
  match run (8 * (input.size - start) + 2) s with
  | .ok s => ⟨s.out, s.reader.pos, none⟩
  | .error (f, out) => ⟨out, input.size, some f⟩

/-- Inflates a whole raw stream. -/
def inflate (input : Bytes) : Bytes × Option Fault :=
  let o := inflateAt input.toByteArray 0 ByteArray.empty
  (o.out.toList, o.fault)

end Inflate

end Harvest
