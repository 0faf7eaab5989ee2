import Harvest.Codec.Base64
import Harvest.Http.Exchange
import Harvest.Text.Quoted
import Harvest.Url.Resolve
/-!
# Harvest.Http.Client

Sending a GET request and following its redirects.

A response with status 301, 302, 303, 307 or 308 and a `Location` field is followed: the location
is resolved against the request URL and requested with the header fields of the first request
and the same proxy. The `Referer` field of a follow-up is the first request's when it had one,
and otherwise the previous request URL without its user information, except that a move from
`https` to `http` sends none. At most ten requests are sent; the eleventh is refused. A request
URL with user information and no `Authorization` field is sent with basic credentials.

A failure names the URL it concerns (with any password replaced by `***`) and its cause, and
reads `Get "<url>": <cause>`.
-/

namespace Harvest

namespace Http

/-- Why a request failed: the URL concerned and the cause. -/
structure ClientFailure where
  url : String
  cause : String
  deriving DecidableEq, Repr

/-- The message of a request failure. -/
def ClientFailure.message (f : ClientFailure) : String := "Get " ++ quoted f.url ++ ": " ++ f.cause

/-- Replaces the first occurrence of a non-empty pattern. -/
def replaceFirst (s pat rep : String) : String :=
  match s.splitOn pat with
  | first :: rest@(_ :: _) => first ++ rep ++ String.intercalate pat rest
  | _ => s

/-- A URL as failures name it: a password is shown as `***`. -/
def shownUrl (u : Url.Ref) : String :=
  match u.user with
  | some ui =>
    if ui.password.isSome then
      replaceFirst u.render (ui.render ++ "@") (Bytes.toText ui.name ++ ":***@")
    else u.render
  | none => u.render

/-- Adds basic credentials from the URL's user information when no `Authorization` is set. -/
def withCredentials (req : Request) : Request :=
  match req.url.user with
  | some u =>
    if (req.header.get "Authorization").isEmpty then
      let secret := u.name ++ [0x3A] ++ u.password.getD []
      { req with header := req.header.set "Authorization" ("Basic " ++ Base64.encode secret) }
    else req
  | none => req

/-- Whether a status asks to be redirected. -/
def isRedirect (status : Int) : Bool := [301, 302, 303, 307, 308].contains status

/-- The `Referer` of a follow-up request, or empty for none. -/
def refererFor (last next : Url.Ref) (given : String) : String :=
  if last.scheme == "https" && next.scheme == "http" then ""
  else if !given.isEmpty then given
  else
    match last.user with
    | some ui => replaceFirst last.render (ui.render ++ "@") ""
    | none => last.render

/-- The most requests one call sends. -/
def maxRequests : Nat := 10

/-- Sends `req` and follows redirects; `sent` requests went before it. Answers the request that
got the final response, as sent, and that response. -/
def follow {σ : Type} (t : Transport σ) (first : Header) :
    Nat → σ → Nat → Request → σ × Except ClientFailure (Request × Response)
  | 0, s, _, req => (s, .error ⟨shownUrl req.url, "stopped after 10 redirects"⟩)
  | fuel + 1, s, sent, req =>
    let out := withCredentials req
    match t.exchange s out with
    | (s, .error e) => (s, .error ⟨shownUrl req.url, e⟩)
    | (s, .ok resp) =>
      let loc := resp.header.get "Location"
      if !isRedirect resp.status || loc.isEmpty then (s, .ok (out, resp))
      else
        match req.url.follow loc with
        | .error e =>
          (s, .error ⟨shownUrl out.url,
            "failed to parse Location header " ++ quoted loc ++ ": " ++ e.message⟩)
        | .ok u =>
          let ref := refererFor req.url u (first.get "Referer")
          let header := if ref.isEmpty then first else first.set "Referer" ref
          if sent + 1 ≥ maxRequests then (s, .error ⟨loc, "stopped after 10 redirects"⟩)
          else follow t first fuel s (sent + 1) { url := u, header := header, proxy := req.proxy }

/-- Sends a GET request, following redirects. -/
def get {σ : Type} (t : Transport σ) (s : σ) (req : Request) :
    σ × Except ClientFailure (Request × Response) :=
  follow t req.header (maxRequests + 1) s 0 req

end Http

end Harvest
