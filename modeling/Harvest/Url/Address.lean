import Harvest.Url.Escape
/-!
# Harvest.Url.Address

IP addresses as text: dotted IPv4 (`192.0.2.1`) and colon-separated IPv6 (`2001:db8::1`, with
an optional `%zone` and an optional dotted IPv4 tail), as a bracketed URL host must spell one.

The kind of a text is decided by its first `.`, `:` or `%`: a dot makes it IPv4, a colon IPv6,
and a percent sign before either is an IPv6 address that is missing. An IPv4 address is four
decimal fields of at most 255 without leading zeros. An IPv6 address is at most eight groups of
one to four hex digits, one `::` standing for one or more groups of zeros, and an IPv4 tail only
in place of the last two groups. A failure names the text, the problem and, for most problems,
the rest of the text where reading stopped.
-/

namespace Harvest

namespace Url

/-- An IP address: four bytes, or sixteen bytes and a zone (empty for none). -/
inductive IpAddress where
  | v4 (octets : List UInt8)
  | v6 (bytes : List UInt8) (zone : Bytes)
  deriving DecidableEq, Repr

/-- Whether an address is an IPv4 address. -/
def IpAddress.isV4 : IpAddress → Bool
  | .v4 _ => true
  | .v6 _ _ => false

/-- Why a text is not an IP address: the text, the problem, and the rest of the text where the
problem was found (empty when the problem is about the whole text). -/
structure AddressError where
  input : Bytes
  problem : String
  rest : Bytes := []
  deriving DecidableEq, Repr

/-- The message of an address error: `ParseAddr("<text>"): <problem> (at "<rest>")`. -/
def AddressError.message (e : AddressError) : String :=
  "ParseAddr(" ++ e.input.quoted ++ "): " ++ e.problem ++
    (if e.rest.isEmpty then "" else " (at " ++ e.rest.quoted ++ ")")

/-- Whether a byte is an ASCII digit. -/
def isDigitByte (c : UInt8) : Bool := 0x30 ≤ c && c ≤ 0x39

/-- Reads the fields of a dotted IPv4 address in `seg`; failures name `input`. The state is the
byte before, the value and digit count of the current field, and the finished fields (last
first). -/
def ipv4Fields (input : Bytes) : Bytes → Option UInt8 → Nat → Nat → List UInt8 →
    Except AddressError (List UInt8)
  | [], _, val, _, fields =>
    if fields.length < 3 then .error ⟨input, "IPv4 address too short", []⟩
    else .ok (fields.reverse ++ [val.toUInt8])
  | c :: rest, prev, val, digits, fields =>
    if isDigitByte c then
      if digits == 1 && val == 0 then .error ⟨input, "IPv4 field has octet with leading zero", []⟩
      else
        let val := val * 10 + (c - 0x30).toNat
        if val > 255 then .error ⟨input, "IPv4 field has value >255", []⟩
        else ipv4Fields input rest (some c) val (digits + 1) fields
    else if c == 0x2E then
      if prev.isNone || rest.isEmpty || prev == some 0x2E then
        .error ⟨input, "IPv4 field must have at least one digit", c :: rest⟩
      else if fields.length == 3 then .error ⟨input, "IPv4 address too long", []⟩
      else ipv4Fields input rest (some c) 0 0 (val.toUInt8 :: fields)
    else .error ⟨input, "unexpected character", c :: rest⟩

/-- Reads the hex digits at the start of a group: the value and the number of digits. A fifth
digit fails, naming the group. -/
def hexGroup (input group : Bytes) : Bytes → Nat → Nat → Except AddressError (Nat × Nat)
  | [], acc, n => .ok (acc, n)
  | c :: rest, acc, n =>
    match hexValue c with
    | some v =>
      if n > 3 then .error ⟨input, "each group must have 4 or less digits", group⟩
      else hexGroup input group rest (acc * 16 + v) (n + 1)
    | none => .ok (acc, n)

/-- The state of reading IPv6 groups: the text left, the bytes read, and where `::` stood. -/
structure GroupState where
  rest : Bytes
  bytes : List UInt8
  ellipsis : Option Nat

/-- Reads IPv6 groups until sixteen bytes are read or the text ends. -/
def ipv6Groups (input : Bytes) : Nat → GroupState → Except AddressError GroupState
  | 0, st => .ok st
  | fuel + 1, st => do
    if st.bytes.length ≥ 16 then return st
    let s := st.rest
    let (acc, off) ← hexGroup input s s 0 0
    if off == 0 then throw ⟨input, "each colon-separated field must have at least one digit", s⟩
    if (s.drop off).head? == some 0x2E then
      if st.ellipsis.isNone && st.bytes.length != 12 then
        throw ⟨input, "embedded IPv4 address must replace the final 2 fields of the address", s⟩
      if st.bytes.length + 4 > 16 then
        throw ⟨input, "too many hex fields to fit an embedded IPv4 at the end of the address", s⟩
      let fields ← ipv4Fields input s none 0 0 []
      return { st with rest := [], bytes := st.bytes ++ fields }
    let bytes := st.bytes ++ [(acc / 256).toUInt8, (acc % 256).toUInt8]
    match s.drop off with
    | [] => return { st with rest := [], bytes }
    | [0x3A] => throw ⟨input, "colon must be followed by more characters", [0x3A]⟩
    | 0x3A :: 0x3A :: after =>
      if st.ellipsis.isSome then throw ⟨input, "multiple :: in address", 0x3A :: after⟩
      let st := { rest := after, bytes, ellipsis := some bytes.length }
      if after.isEmpty then return st
      ipv6Groups input fuel st
    | 0x3A :: after => ipv6Groups input fuel { st with rest := after, bytes }
    | other => throw ⟨input, "unexpected character, want colon", other⟩

/-- Reads an IPv6 address. -/
def parseIpv6 (input : Bytes) : Except AddressError IpAddress := do
  let (s, zone) := match cutAtFirst 0x25 input with
    | (s, some zone) => (s, some zone)
    | (s, none) => (s, none)
  if zone == some [] then throw ⟨input, "zone must be a non-empty string", []⟩
  let zone := zone.getD []
  let start : GroupState := match s with
    | 0x3A :: 0x3A :: rest => { rest, bytes := [], ellipsis := some 0 }
    | _ => { rest := s, bytes := [], ellipsis := none }
  if start.ellipsis.isSome && start.rest.isEmpty then return .v6 (List.replicate 16 0) zone
  let st ← ipv6Groups input 9 start
  if !st.rest.isEmpty then throw ⟨input, "trailing garbage after address", st.rest⟩
  let n := st.bytes.length
  if n < 16 then
    match st.ellipsis with
    | none => throw ⟨input, "address string too short", []⟩
    | some e => return .v6 (st.bytes.take e ++ List.replicate (16 - n) 0 ++ st.bytes.drop e) zone
  else if st.ellipsis.isSome then
    throw ⟨input, "the :: must expand to at least one field of zeros", st.rest⟩
  else return .v6 st.bytes zone
where
  cutAtFirst (c : UInt8) : Bytes → Bytes × Option Bytes
    | [] => ([], none)
    | b :: rest =>
      if b == c then ([], some rest)
      else
        let (before, after) := cutAtFirst c rest
        (b :: before, after)

/-- Reads an IP address; its kind is decided by the first `.`, `:` or `%` in the text. -/
def parseIpAddress (input : Bytes) : Except AddressError IpAddress :=
  match input.find? fun c => c == 0x2E || c == 0x3A || c == 0x25 with
  | some 0x2E => (ipv4Fields input input none 0 0 []).map IpAddress.v4
  | some 0x3A => parseIpv6 input
  | some _ => .error ⟨input, "missing IPv6 address", []⟩
  | none => .error ⟨input, "unable to parse IP", []⟩

end Url

end Harvest
