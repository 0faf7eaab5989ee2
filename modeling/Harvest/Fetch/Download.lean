import Harvest.Fetch.Decode
import Harvest.Fetch.Disk
import Harvest.Fetch.Outcome
import Harvest.Fetch.Read
import Harvest.Fetch.Settings
import Harvest.Filter
import Harvest.Http.Client
import Harvest.Text.Decimal
/-!
# Harvest.Fetch.Download

One download attempt: a locator in, a decoded body within the ceiling out.

A locator the filter refuses fails at once. A local locator is read from the disk. A remote one
is requested with `User-Agent`, `Referer` and (when compression is on) `Accept-Encoding: gzip,
deflate`, each only when set, plus the conditional fields; redirects are followed. Then:

* status 304 is a success without body, marked *not modified*;
* any other status outside 200–299 is a transport failure carrying the status;
* the raw body is read under the raw ceiling: the filter's ceiling, divided by the compression
  ratio when compression is on and the body is gzip- or deflate-encoded; passing it is a
  too-large failure reporting the raw bytes read, and a body cut off within it is a transport
  failure carrying the status;
* the body is decoded by its `Content-Encoding` under the filter's ceiling; passing it is a
  too-large failure reporting the raw size, and a broken stream is a transport failure carrying
  the status.

A too-large failure always reports the filter's ceiling as its limit.
-/

namespace Harvest

/-- Converts a float to a 64-bit integer by truncation; values out of range (and NaN) give the
least 64-bit integer, as the machine conversion does. -/
def truncateToInt64 (x : Float) : Int :=
  if x.isNaN || x ≥ 9223372036854775808.0 || x < -9223372036854775808.0 then Decimal.int64Min
  else if x ≥ 0 then (x.toUInt64.toNat : Int)
  else -((-x).toUInt64.toNat : Int)

/-- Removes a `:` that ends a host without a port after it. -/
def removeEmptyPort (host : Bytes) : Bytes :=
  let colon := host.reverse.findIdx? (· == 0x3A)
  let bracket := host.reverse.findIdx? (· == 0x5D)
  let hasPort := match colon, bracket with
    | some c, some b => c < b
    | some _, none => true
    | none, _ => false
  if hasPort && host.getLast? == some 0x3A then host.dropLast else host

/-- A downloader: settings and filter. -/
structure Downloader where
  settings : Settings
  filter : Filter

namespace Downloader

/-- The ceiling on decoded bodies, or `-1`. -/
def limit (d : Downloader) : Int := d.filter.readLimit

/-- The ceiling on raw bodies with the given encoding. -/
def rawLimit (d : Downloader) (ce : String) : Int :=
  let l := d.limit
  if l < 0 || !d.settings.compression || !isEncoded ce then l
  else
    let ratio := if d.settings.compressionRatio ≤ 0 then 1 else d.settings.compressionRatio
    truncateToInt64 (Float.ofInt l / ratio)

/-- The header fields of a first request. -/
def requestHeader (d : Downloader) (cond : Conditional) : Http.Header :=
  let h : Http.Header := {}
  let h := if d.settings.userAgent.isEmpty then h else h.set "User-Agent" d.settings.userAgent
  let h := if d.settings.referer.isEmpty then h else h.set "Referer" d.settings.referer
  let h := if d.settings.compression then h.set "Accept-Encoding" "gzip, deflate" else h
  cond.apply h

/-- The too-large failure of a locator. -/
def tooLarge (d : Downloader) (url : String) (read : Nat) : FetchError :=
  .tooLarge url d.filter.maxBytes read

/-- Reads a local file. -/
def fetchLocal (d : Downloader) (disk : Disk) (url : String) : Except FetchError Outcome :=
  let path := Locator.localPath url
  let opening (why : String) : FetchError :=
    .transport url 0 ("open " ++ path ++ ": open " ++ path ++ ": " ++ why)
  match disk.lookup path with
  | .error e => .error (opening e.message)
  | .ok entry =>
    let (data, fault) := entry.contents path
    match readBody data fault d.limit with
    | .exceeded n => .error (d.tooLarge url n)
    | .failed _ e => .error (.transport url 0 ("read " ++ path ++ ": " ++ e))
    | .complete body n => .ok { finalUrl := path, body := body, size := n, rawSize := n }

/-- Requests a remote locator. -/
def fetchRemote {σ : Type} (d : Downloader) (t : Http.Transport σ) (s : σ) (url : String)
    (via : Option Endpoint) (cond : Conditional) : σ × Except FetchError Outcome :=
  match Url.parse url with
  | .error e => (s, .error (.transport url 0 ("build request: " ++ e.message)))
  | .ok ref =>
    let req : Http.Request :=
      { url := { ref with host := removeEmptyPort ref.host }, header := d.requestHeader cond,
        proxy := via }
    match Http.get t s req with
    | (s, .error f) => (s, .error (.transport url 0 ("send request: " ++ f.message)))
    | (s, .ok (final, resp)) =>
      let ce := resp.header.get "Content-Encoding"
      let out : Outcome := { finalUrl := final.url.render, status := resp.status,
                             header := some resp.header, contentEncoding := ce }
      if resp.status == 304 then (s, .ok { out with notModified := true })
      else if resp.status < 200 || resp.status ≥ 300 then
        (s, .error (.transport url resp.status ("unexpected status " ++ quoted resp.statusText)))
      else
        match readBody resp.body resp.bodyFault (d.rawLimit ce) with
        | .exceeded n => (s, .error (d.tooLarge url n))
        | .failed _ e => (s, .error (.transport url resp.status ("read body: " ++ e)))
        | .complete raw rawSize =>
          match decodeBody ce raw d.limit with
          | .error .exceeded => (s, .error (d.tooLarge url rawSize))
          | .error e => (s, .error (.transport url resp.status e.message))
          | .ok body =>
            (s, .ok { out with body := body, size := body.length, rawSize := rawSize })

/-- One attempt at a locator, through `via` when given. A success is marked ok and carries the
locator. -/
def fetch {σ : Type} (d : Downloader) (t : Http.Transport σ) (disk : Disk) (s : σ) (url : String)
    (via : Option Endpoint) (cond : Conditional) : σ × Except FetchError Outcome :=
  if !d.filter.permits url then (s, .error (.filtered url))
  else
    let (s, r) :=
      if Locator.isLocal url then (s, d.fetchLocal disk url) else d.fetchRemote t s url via cond
    (s, r.map fun out => { out with url := url, ok := true })

end Downloader

end Harvest
