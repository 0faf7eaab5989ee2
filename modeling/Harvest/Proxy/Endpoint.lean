import Harvest.Text.Blank
import Harvest.Text.Decimal
import Harvest.Text.Quoted
import Harvest.Url.Escape
/-!
# Harvest.Proxy.Endpoint

Proxy endpoints: a host and a port, and their `host:port` spelling.

An endpoint is written `host:port`, with the host in brackets when it holds a colon (an IPv6
address). Reading an endpoint trims blanks and one leading `http://`, splits host and port at the
last colon (a bracketed host must be followed directly by that colon), and requires a non-empty
host and a port from 1 to 65535 written as a decimal integer. The zero endpoint (empty host,
port 0) stands for "no proxy".
-/

namespace Harvest

/-- A proxy endpoint. -/
structure Endpoint where
  host : String
  port : Int
  deriving DecidableEq, Repr, Inhabited

namespace Endpoint

/-- The zero endpoint, which stands for "no proxy". -/
def zero : Endpoint := ⟨"", 0⟩

/-- Whether this is the zero endpoint. -/
def isZero (e : Endpoint) : Bool := e.host.isEmpty && e.port == 0

/-- Joins a host and a port, bracketing a host that holds a colon. -/
def joinHostPort (host port : String) : String :=
  if host.contains ':' then "[" ++ host ++ "]:" ++ port else host ++ ":" ++ port

/-- The `host:port` spelling of an endpoint. -/
def render (e : Endpoint) : String := joinHostPort e.host (Decimal.render e.port)

/-- The proxy URL of an endpoint: `http://` and the escaped `host:port`. -/
def proxyUrl (e : Endpoint) : String :=
  "http://" ++ Url.escape (Bytes.ofString e.render) .host

/-- Why an address could not be split into host and port. -/
inductive AddressError where
  | missingPort
  | tooManyColons
  | missingBracket
  | unexpectedOpenBracket
  | unexpectedCloseBracket
  deriving DecidableEq, Repr

/-- The message of an address error for the given address. -/
def AddressError.message (addr : String) (e : AddressError) : String :=
  let why :=
    match e with
    | .missingPort => "missing port in address"
    | .tooManyColons => "too many colons in address"
    | .missingBracket => "missing ']' in address"
    | .unexpectedOpenBracket => "unexpected '[' in address"
    | .unexpectedCloseBracket => "unexpected ']' in address"
  if addr.isEmpty then why else "address " ++ addr ++ ": " ++ why

/-- The position of the first occurrence of a character. -/
def firstIndex (cs : List Char) (c : Char) : Option Nat := cs.findIdx? (· == c)

/-- The position of the last occurrence of a character. -/
def lastIndex (cs : List Char) (c : Char) : Option Nat :=
  (cs.reverse.findIdx? (· == c)).map fun i => cs.length - 1 - i

/-- Splits `host:port`, `[host]:port` into host and port text. -/
def splitHostPort (addr : String) : Except AddressError (String × String) :=
  let cs := addr.toList
  match lastIndex cs ':' with
  | none => .error .missingPort
  | some i =>
    let bracketed := cs.head? == some '['
    let hostPart : Except AddressError (List Char × Nat × Nat) :=
      if bracketed then
        match firstIndex cs ']' with
        | none => .error .missingBracket
        | some endIdx =>
          if endIdx + 1 == cs.length then .error .missingPort
          else if endIdx + 1 == i then .ok ((cs.take endIdx).drop 1, 1, endIdx + 1)
          else if cs[endIdx + 1]? == some ':' then .error .tooManyColons
          else .error .missingPort
      else
        let host := cs.take i
        if host.contains ':' then .error .tooManyColons else .ok (host, 0, 0)
    match hostPart with
    | .error e => .error e
    | .ok (host, j, k) =>
      if (cs.drop j).contains '[' then .error .unexpectedOpenBracket
      else if (cs.drop k).contains ']' then .error .unexpectedCloseBracket
      else .ok (String.ofList host, String.ofList (cs.drop (i + 1)))

/-- Why a proxy entry could not be read. -/
inductive ParseError where
  | address (e : AddressError)
  | emptyHost
  | invalidPort
  deriving DecidableEq, Repr

/-- A failed reading of a proxy entry, with the entry as cleaned before splitting. -/
structure Failure where
  entry : String
  cause : ParseError
  deriving DecidableEq, Repr

/-- The message of a failed reading. -/
def Failure.message (f : Failure) : String :=
  "parse proxy " ++ quoted f.entry ++ ": " ++
    match f.cause with
    | .address e => e.message f.entry
    | .emptyHost => "empty host"
    | .invalidPort => "invalid port"

/-- Reads a proxy entry. -/
def parse (raw : String) : Except Failure Endpoint :=
  let t := trimBlank raw
  let t := if t.startsWith "http://" then String.ofList (t.toList.drop 7) else t
  match splitHostPort t with
  | .error e => .error ⟨t, .address e⟩
  | .ok (host, portText) =>
    if host.isEmpty then .error ⟨t, .emptyHost⟩
    else
      match Decimal.parseInt64? portText with
      | some port => if 0 < port && port ≤ 65535 then .ok ⟨host, port⟩ else .error ⟨t, .invalidPort⟩
      | none => .error ⟨t, .invalidPort⟩

/-- Reads a list of proxy entries, skipping blank ones; the first bad entry fails the list. -/
def parseAll : List String → Except Failure (List Endpoint)
  | [] => .ok []
  | r :: rest =>
    if isBlankText r then parseAll rest
    else
      match parse r with
      | .error f => .error f
      | .ok e => (parseAll rest).map (e :: ·)

end Endpoint

end Harvest
