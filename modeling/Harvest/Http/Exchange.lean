import Harvest.Http.Header
import Harvest.Http.Status
import Harvest.Proxy.Endpoint
import Harvest.Url.Basic
/-!
# Harvest.Http.Exchange

Requests, responses, and the transport that carries one request to one response.

A transport is a function of its own state: it answers a request with a response or with the
text of its failure, and may change its state (a network that remembers what it was asked). A
*scripted* transport answers from a table: the `k`-th request for a URL (written as the request
writes it) gets the `k`-th scripted reply for that URL, the last reply repeating; a URL without
replies has no route, and a request sent through a dead proxy fails. It keeps every request it
was sent.
-/

namespace Harvest

namespace Http

/-- A GET request. -/
structure Request where
  url : Url.Ref
  header : Header := {}
  /-- The proxy the request goes through, if any. -/
  proxy : Option Endpoint := none
  deriving DecidableEq, Repr

/-- A response. -/
structure Response where
  status : Int
  /-- The status line, `"<code> <phrase>"`. -/
  statusText : String
  header : Header := {}
  /-- The body as far as it was received. -/
  body : Bytes := []
  /-- The failure that cut the body off after `body`, when it did not end cleanly. -/
  bodyFault : Option String := none
  deriving DecidableEq, Repr

/-- A transport with state `σ`. -/
structure Transport (σ : Type) where
  exchange : σ → Request → σ × Except String Response

/-! ## Scripted transport -/

/-- One scripted reply: a response, or a failure with its text. -/
structure Reply where
  status : Int := 200
  /-- The reason phrase; the registered one when absent. -/
  reason : Option String := none
  header : Header := {}
  body : Bytes := []
  failure : Option String := none
  deriving DecidableEq, Repr

/-- The response a scripted reply stands for. -/
def Reply.response (r : Reply) : Response :=
  { status := r.status, statusText := statusLine r.status (r.reason.getD (reasonPhrase r.status)),
    header := r.header, body := r.body }

/-- The state of a scripted transport. -/
structure Script where
  routes : List (String × List Reply) := []
  /-- Proxies through which every request fails. -/
  dead : List Endpoint := []
  /-- Requests answered so far, per URL. -/
  hits : List (String × Nat) := []
  /-- Every request sent, in order. -/
  sent : List Request := []
  deriving DecidableEq, Repr

namespace Script

/-- How many requests for a URL were answered. -/
def hitCount (s : Script) (url : String) : Nat :=
  ((s.hits.find? (·.1 == url)).map (·.2)).getD 0

/-- Counts one more request for a URL. -/
def bump (s : Script) (url : String) : Script :=
  let n := s.hitCount url
  { s with hits := (url, n + 1) :: s.hits.filter (·.1 != url) }

/-- Answers one request from the routes. -/
def answer (s : Script) (req : Request) : Script × Except String Response :=
  let url := req.url.render
  match (s.routes.find? (·.1 == url)).map (·.2) with
  | none | some [] => (s, .error ("no route to " ++ url))
  | some (r :: rs) =>
    let k := s.hitCount url
    let reply := (r :: rs).getD k ((r :: rs).getLastD r)
    let s := s.bump url
    match reply.failure with
    | some msg => (s, .error msg)
    | none => (s, .ok reply.response)

/-- Answers one request, keeping it. -/
def exchange (s : Script) (req : Request) : Script × Except String Response :=
  let s := { s with sent := s.sent ++ [req] }
  match req.proxy with
  | some p =>
    if s.dead.contains p then (s, .error ("proxy " ++ p.render ++ " unreachable"))
    else answer s req
  | none => answer s req

/-- The scripted transport. -/
def transport : Transport Script := ⟨exchange⟩

end Script

end Http

end Harvest
