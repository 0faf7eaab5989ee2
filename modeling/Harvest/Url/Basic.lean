import Harvest.Url.Address
import Harvest.Url.Escape
/-!
# Harvest.Url.Basic

URL references: their parts, how a text is read into them, and how they are written back.

A reference is read in a fixed order. A fragment is cut off at the first `#`. A text holding a
control byte is refused. A scheme is a letter followed by letters, digits, `+ - .`, ending at a
`:`; it is stored in small letters. The query is cut off at the first `?` (a lone trailing `?`
is remembered as an empty but present query). What follows a scheme and does not begin with `/`
is kept as written (a *rootless* reference such as `mailto:x`). A reference without scheme whose
first segment holds a colon is refused. An authority follows `//` and ends at the next `/`: user
information up to the last `@`, then the host with an optional port. The rest is the path,
stored decoded together with its raw spelling when that spelling differs from the default
escaping.

Writing puts the parts back with the default escaping of each part, keeping the raw spelling of
a path or fragment when it is a valid escaping of the same bytes.
-/

namespace Harvest

namespace Url

/-- User information of an authority: a name and an optional password, both decoded. -/
structure UserInfo where
  name : Bytes
  password : Option Bytes
  deriving DecidableEq, Repr

/-- A URL reference, split into its parts. -/
structure Ref where
  /-- The scheme in small letters, or empty. -/
  scheme : String := ""
  /-- The text after `scheme:` when it does not begin with `/`. -/
  rootless : String := ""
  user : Option UserInfo := none
  /-- The decoded host, with its port. -/
  host : Bytes := []
  /-- The decoded path. -/
  path : Bytes := []
  /-- The path as written, when that differs from the default escaping of `path`. -/
  rawPath : Bytes := []
  /-- The authority was empty although the scheme was followed by `//`-less `/`. -/
  omitHost : Bool := false
  /-- A `?` was written with nothing after it. -/
  forceQuery : Bool := false
  /-- The query as written, without the `?`. -/
  rawQuery : String := ""
  /-- The decoded fragment. -/
  fragment : Bytes := []
  /-- The fragment as written, when that differs from its default escaping. -/
  rawFragment : Bytes := []
  deriving DecidableEq, Repr

/-- Why a reference could not be read. -/
inductive ParseError where
  | controlByte
  | missingScheme
  | colonInFirstSegment
  | escape (e : EscapeError)
  | missingBracket
  | badPort (colonPort : Bytes)
  | badUserInfo
  /-- A bracketed host that is not an IP address. -/
  | badAddress (e : AddressError)
  /-- A bracketed host that is an IPv4 address, or brackets that do not open the host. -/
  | ipLiteral
  deriving DecidableEq, Repr

/-- The message of a parse error. -/
def ParseError.message : ParseError → String
  | .controlByte => "net/url: invalid control character in URL"
  | .missingScheme => "missing protocol scheme"
  | .colonInFirstSegment => "first path segment in URL cannot contain colon"
  | .escape e => e.message
  | .missingBracket => "missing ']' in host"
  | .badPort p => "invalid port " ++ p.quoted ++ " after host"
  | .badUserInfo => "net/url: invalid userinfo"
  | .badAddress e => "invalid host: " ++ e.message
  | .ipLiteral => "invalid IP-literal"

/-- A failed reading together with the text that was read. -/
structure Failure where
  text : Bytes
  cause : ParseError
  deriving DecidableEq, Repr

/-- The message of a failed reading: `parse "<text>": <cause>`. -/
def Failure.message (f : Failure) : String :=
  "parse " ++ f.text.quoted ++ ": " ++ f.cause.message

/-! ## Small byte-list tools -/

/-- Splits at the first occurrence of a byte: before, and after (when it occurs). -/
def cutAt (c : UInt8) : Bytes → Bytes × Option Bytes
  | [] => ([], none)
  | b :: rest =>
    if b == c then ([], some rest)
    else
      let (before, after) := cutAt c rest
      (b :: before, after)

/-- Splits at the last occurrence of a byte. -/
def cutAtLast (c : UInt8) (bs : Bytes) : Bytes × Option Bytes :=
  match cutAt c bs.reverse with
  | (_, none) => (bs, none)
  | (afterRev, some beforeRev) => (beforeRev.reverse, some afterRev.reverse)

/-- Whether a byte list starts with another. -/
def startsWith (bs pre : Bytes) : Bool := bs.take pre.length == pre

/-- Whether a byte is a control byte. -/
def isControl (b : UInt8) : Bool := b < 0x20 || b == 0x7F

/-! ## Reading -/

/-- Splits off a scheme: the scheme and the rest, or no scheme and the whole text. -/
def splitScheme (bs : Bytes) : Except ParseError (Bytes × Bytes) :=
  go bs []
where
  go : Bytes → Bytes → Except ParseError (Bytes × Bytes)
    | [], _ => .ok ([], bs)
    | c :: rest, acc =>
      if (0x61 ≤ c && c ≤ 0x7A) || (0x41 ≤ c && c ≤ 0x5A) then go rest (c :: acc)
      else if (0x30 ≤ c && c ≤ 0x39) || c == 0x2B || c == 0x2D || c == 0x2E then
        if acc.isEmpty then .ok ([], bs) else go rest (c :: acc)
      else if c == 0x3A then
        if acc.isEmpty then .error .missingScheme else .ok (acc.reverse, rest)
      else .ok ([], bs)

/-- Whether the text after a colon is an optional port: empty, or `:` and digits. -/
def validOptionalPort : Bytes → Bool
  | [] => true
  | 0x3A :: digits => digits.all fun b => 0x30 ≤ b && b ≤ 0x39
  | _ => false

/-- The index of the first occurrence of a sub-list, if any. -/
def findSub (pat : Bytes) (bs : Bytes) : Option Nat :=
  go bs 0 (bs.length + 1)
where
  go : Bytes → Nat → Nat → Option Nat
    | rest, i, fuel + 1 => if startsWith rest pat then some i else
        match rest with
        | [] => none
        | _ :: r => go r (i + 1) fuel
    | _, _, 0 => none

/-- Reads and decodes a host with its optional port. A host holding `[` is an IP literal: the
last `[` must open the host (else the literal is invalid) and the last `]` close the address,
followed by an optional port; the address, decoded (a `%25` starts its zone), must be an IPv6
address. -/
def parseHost (host : Bytes) : Except ParseError Bytes :=
  match cutAtLast 0x5B host with
  | (before, some _) =>
    if !before.isEmpty then .error .ipLiteral
    else
      match cutAtLast 0x5D host with
      | (_, none) => .error .missingBracket
      | (upToClose, some colonPort) =>
        if !validOptionalPort colonPort then .error (.badPort colonPort)
        else
          let inside := upToClose.drop 1
          let decoded : Except EscapeError Bytes :=
            match findSub [0x25, 0x32, 0x35] inside with
            | some z => do
              let h ← unescape (inside.take z) .host
              let zone ← unescape (inside.drop z) .zone
              pure (h ++ zone)
            | none => unescape inside .host
          match decoded with
          | .error e => .error (.escape e)
          | .ok name =>
            match parseIpAddress name with
            | .error e => .error (.badAddress e)
            | .ok addr =>
              if addr.isV4 then .error .ipLiteral
              else .ok ([0x5B] ++ name ++ [0x5D] ++ colonPort)
  | (_, none) =>
    match cutAtLast 0x3A host with
    | (_, some port) =>
      if !validOptionalPort (0x3A :: port) then .error (.badPort (0x3A :: port))
      else (unescape host .host).mapError .escape
    | (_, none) => (unescape host .host).mapError .escape

/-- Whether user information uses only the characters it may hold. -/
def validUserInfo (bs : Bytes) : Bool :=
  bs.all fun c =>
    isAlnum c || c == 0x2D || c == 0x2E || c == 0x5F || c == 0x3A || c == 0x7E ||
      c == 0x21 || c == 0x24 || c == 0x26 || c == 0x27 || c == 0x28 || c == 0x29 ||
      c == 0x2A || c == 0x2B || c == 0x2C || c == 0x3B || c == 0x3D || c == 0x25 || c == 0x40

/-- Reads an authority into user information and host. -/
def parseAuthority (auth : Bytes) : Except ParseError (Option UserInfo × Bytes) := do
  match cutAtLast 0x40 auth with
  | (_, none) =>
    let host ← parseHost auth
    return (none, host)
  | (userText, some hostText) =>
    let host ← parseHost hostText
    if !validUserInfo userText then throw .badUserInfo
    match cutAt 0x3A userText with
    | (name, none) =>
      let name ← (unescape name .userPassword).mapError .escape
      return (some ⟨name, none⟩, host)
    | (name, some pw) =>
      let name ← (unescape name .userPassword).mapError .escape
      let pw ← (unescape pw .userPassword).mapError .escape
      return (some ⟨name, some pw⟩, host)

/-- Decodes a path and remembers its spelling when it is not the default one. -/
def withPath (r : Ref) (p : Bytes) : Except ParseError Ref := do
  let path ← (unescape p .path).mapError .escape
  let raw := if Bytes.ofString (escape path .path) == p then [] else p
  return { r with path := path, rawPath := raw }

/-- Cuts the query off what follows the scheme: the part before it, whether a lone `?` ends the
text (a query that is present but empty), and the query as written. -/
def splitQuery (rest : Bytes) : Bytes × Bool × Bytes :=
  if rest.getLast? == some 0x3F && rest.count 0x3F == 1 then (rest.dropLast, true, [])
  else
    match cutAt 0x3F rest with
    | (before, some q) => (before, false, q)
    | (before, none) => (before, false, [])

/-- Splits the text after `//` at its first `/`: the authority, and the path with that slash. -/
def splitAuthority (afterSlashes : Bytes) : Bytes × Bytes :=
  match cutAt 0x2F afterSlashes with
  | (a, some p) => (a, 0x2F :: p)
  | (a, none) => (a, [])

/-- Reads an authority and the path after it. -/
def parseAuthorityPath (base : Ref) (afterSlashes : Bytes) : Except ParseError Ref := do
  let (auth, path) := splitAuthority afterSlashes
  let (user, host) ← parseAuthority auth
  withPath { base with user := user, host := host } path

/-- Reads what stands between the scheme and the query: a rootless text, an authority and a
path, or a path alone. -/
def parseHierarchy (base : Ref) (rest : Bytes) : Except ParseError Ref :=
  if rest.head? != some 0x2F && !base.scheme.isEmpty then
    .ok { base with rootless := Bytes.toText rest }
  else if rest.head? != some 0x2F && (cutAt 0x2F rest).1.contains 0x3A then
    .error .colonInFirstSegment
  else if (!base.scheme.isEmpty || !startsWith rest [0x2F, 0x2F, 0x2F]) &&
      startsWith rest [0x2F, 0x2F] then
    parseAuthorityPath base (rest.drop 2)
  else if !base.scheme.isEmpty && rest.head? == some 0x2F then
    withPath { base with omitHost := true } rest
  else
    withPath base rest

/-- Reads a reference without its fragment. -/
def parseMain (bs : Bytes) : Except ParseError Ref :=
  if bs.any isControl then .error .controlByte
  else if bs == [0x2A] then .ok { path := [0x2A] }
  else do
    let (schemeBytes, rest) ← splitScheme bs
    let (rest, forceQuery, rawQuery) := splitQuery rest
    parseHierarchy { scheme := (Bytes.toText schemeBytes).toLower, forceQuery := forceQuery,
                     rawQuery := Bytes.toText rawQuery } rest

/-- Reads a URL reference, fragment included. -/
def parse (s : String) : Except Failure Ref :=
  let bs := Bytes.ofString s
  let (main, frag) := cutAt 0x23 bs
  match parseMain main with
  | .error e => .error ⟨main, e⟩
  | .ok r =>
    match frag with
    | none => .ok r
    | some f =>
      match unescape f .fragment with
      | .error e => .error ⟨bs, .escape e⟩
      | .ok decoded =>
        let raw := if Bytes.ofString (escape decoded .fragment) == f then [] else f
        .ok { r with fragment := decoded, rawFragment := raw }

/-! ## Writing -/

/-- Whether a raw spelling decodes, in the given part, to the given bytes. -/
def decodesTo (raw : Bytes) (part : Part) (bs : Bytes) : Bool :=
  match unescape raw part with
  | .ok d => d == bs
  | .error _ => false

/-- The escaped path: the raw spelling when it is a valid escaping of the path. -/
def Ref.escapedPath (r : Ref) : String :=
  if !r.rawPath.isEmpty && validEncoded r.rawPath .path && decodesTo r.rawPath .path r.path then
    Bytes.toText r.rawPath
  else if r.path == [0x2A] then "*"
  else escape r.path .path

/-- The escaped fragment: the raw spelling when it is a valid escaping of the fragment. -/
def Ref.escapedFragment (r : Ref) : String :=
  if !r.rawFragment.isEmpty && validEncoded r.rawFragment .fragment &&
      decodesTo r.rawFragment .fragment r.fragment then Bytes.toText r.rawFragment
  else escape r.fragment .fragment

/-- The written form of user information. -/
def UserInfo.render (u : UserInfo) : String :=
  escape u.name .userPassword ++
    match u.password with
    | some p => ":" ++ escape p .userPassword
    | none => ""

/-- Writes a reference back as text. A path that starts with `//` where no authority is written
has its first slash escaped, so that the text does not read as an authority. -/
def Ref.render (r : Ref) : String :=
  let head := if r.scheme.isEmpty then "" else r.scheme ++ ":"
  let body :=
    if !r.rootless.isEmpty then r.rootless
    else
      let auth :=
        if !r.scheme.isEmpty || !r.host.isEmpty || r.user.isSome then
          if r.omitHost && r.host.isEmpty && r.user.isNone then ""
          else
            (if !r.host.isEmpty || !r.path.isEmpty || r.user.isSome then "//" else "") ++
            (match r.user with
             | some u => u.render ++ "@"
             | none => "") ++
            escape r.host .host
        else ""
      let path := r.escapedPath
      let slash := if !path.isEmpty && path.front != '/' && !r.host.isEmpty then "/" else ""
      let soFar := head ++ auth ++ slash
      let dot :=
        if soFar.isEmpty && ((path.splitOn "/").headD "").contains ':' then "./" else ""
      let path :=
        if auth.isEmpty && path.startsWith "//" then "%2F" ++ String.ofList (path.toList.drop 1)
        else path
      auth ++ slash ++ dot ++ path
  let query := if r.forceQuery || !r.rawQuery.isEmpty then "?" ++ r.rawQuery else ""
  let frag := if r.fragment.isEmpty then "" else "#" ++ r.escapedFragment
  head ++ body ++ query ++ frag

/-- Splits a host into name and port; the port is kept only when it is all digits. -/
def splitHostPort (host : Bytes) : Bytes × Bytes :=
  let (name, port) :=
    match cutAtLast 0x3A host with
    | (before, some after) =>
      if validOptionalPort (0x3A :: after) then (before, after) else (host, [])
    | (_, none) => (host, [])
  let name :=
    if name.head? == some 0x5B && name.getLast? == some 0x5D then (name.drop 1).dropLast
    else name
  (name, port)

/-- The host name without port and brackets. -/
def Ref.hostname (r : Ref) : Bytes := (splitHostPort r.host).1

/-- The port, or empty. -/
def Ref.port (r : Ref) : Bytes := (splitHostPort r.host).2

end Url

end Harvest
