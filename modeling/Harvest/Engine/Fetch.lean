import Harvest.Engine.Basic
import Harvest.Fetch.Retry
import Harvest.Text.Blank
import Harvest.Text.Case
/-!
# Harvest.Engine.Fetch

Fetching single locators through the engine.

A fetch runs the attempt loop over the downloader, through the engine's proxy ring; every
successful attempt is counted. A failed fetch yields an outcome that is not ok, carries the
failure and names the locator; the failure is reported as `fetch <url>: <failure>`. When asked
to, the outcome is delivered to the observers outside any batch.

On top of it: a fetch that answers the outcome only on success, a document fetch that hands the
body to the engine's parser, and a text download that passes the body through text strippers.
-/

namespace Harvest

/-- A fetched document: the body itself when the engine has no parser, else what the parser
made of it. -/
inductive Document where
  | body (data : Bytes)
  | parsed (doc : Json.Value)

/-- A text transformation applied to downloaded text. -/
inductive Stripper where
  | upper
  | lower
  /-- Removes surrounding blanks. -/
  | trim
  /-- Joins the blank-separated words with single spaces. -/
  | collapse
  /-- Reverses the characters. -/
  | reverse
  /-- A missing stripper, skipped. -/
  | skip
  deriving DecidableEq, Repr

/-- Applies a stripper to text held as bytes. -/
def Stripper.apply : Stripper → Bytes → Bytes
  | .upper, t => t.upperCase
  | .lower, t => t.lowerCase
  | .trim, t => t.trimBlank
  | .collapse, t => (t.fields.intersperse [0x20]).flatten
  | .reverse, t => Utf8.encodeChars (Utf8.decode t).reverse
  | .skip, t => t

/-- Whether a byte string occurs in another. -/
def Bytes.occursIn (pat : Bytes) : Bytes → Bool
  | [] => pat.isEmpty
  | b :: rest => (b :: rest).take pat.length == pat || Bytes.occursIn pat rest

/-- A parser that describes the document it is given, refusing bodies that hold `PARSE_ERROR`.
The body is given back as `text` when it is UTF-8, else in base64 as `text_b64`. -/
def DocumentParser.echo : DocumentParser :=
  ⟨fun body uri asXml =>
    if Bytes.occursIn (Bytes.ofString "PARSE_ERROR") body then .error "parse failed"
    else
      let text := if Utf8.valid body then ("text", Json.Value.str (Bytes.toText body))
        else ("text_b64", Json.Value.str (Base64.encode body))
      .ok (.obj [("as_xml", .bool asXml), text, ("uri", .str uri)])⟩

/-- A parser that refuses every document. -/
def DocumentParser.refusing : DocumentParser := ⟨fun _ _ _ => .error "parse failed"⟩

namespace Engine

variable {σ : Type} (e : Engine σ)

/-- The attempt loop's view of the engine, for one locator and its conditions. -/
def retryHooks (url : String) (cond : Conditional) : RetryHooks (World σ) where
  head w := w.ring.head?
  attempt w via :=
    match e.downloader.fetch e.transport w.disk w.net url via cond with
    | (net, .ok out) =>
      let (c, t) := w.counters.record w.totals (Int64.ofInt out.size)
      ({ w with net := net, counters := c, totals := t }, .ok out)
    | (net, .error err) => ({ w with net := net }, .error err)
  succeeded w ep :=
    let (r, probed) := w.ring.recordSuccess e.config.liveness ep
    { w with ring := r, probes := w.probes ++ probed }
  failed w ep := { w with ring := w.ring.rotateAway ep }

/-- The attempt loop over a locator, as batches use it. -/
def attemptAll (w : World σ) (url : String) (cond : Conditional) (canceled : Bool) :
    World σ × Outcome × Option FetchError :=
  Retry.fetch (e.retryHooks url cond) e.config.settings.maxRetries canceled url w

/-- Fetches a locator; delivers the outcome when asked. -/
def fetch (w : World σ) (url : String) (cond : Conditional) (deliver canceled : Bool) :
    World σ × Outcome × Option FetchError :=
  let (w, out, err) := e.attemptAll w url cond canceled
  let out := match err with
    | some er => { out with url := if out.url.isEmpty then url else out.url, ok := false,
                            err := some er }
    | none => out
  let w := if deliver then (e.dispatch w "" out).1 else w
  (w, out, err.map (.about url))

/-- Fetches a locator; answers the outcome only on success. -/
def fetchOne (w : World σ) (url : String) (deliver : Bool) : World σ × Option Outcome :=
  match e.fetch w url {} deliver false with
  | (w, out, none) => (w, some out)
  | (w, _, some _) => (w, none)

/-- Fetches a document and parses it with the engine's parser. -/
def fetchDocument (w : World σ) (url : String) (asXml deliver : Bool) : World σ × Option Document :=
  match e.fetchOne w url deliver with
  | (w, none) => (w, none)
  | (w, some out) =>
    match e.config.parser with
    | none => (w, some (.body out.body))
    | some p =>
      let uri := if out.finalUrl.isEmpty then url else out.finalUrl
      match p.parse out.body uri asXml with
      | .ok doc => (w, some (.parsed doc))
      | .error _ => (w, none)

/-- Downloads a locator's text through strippers in order; empty on failure. -/
def download (w : World σ) (url : String) (strip : List Stripper) : World σ × Bytes :=
  match e.fetchOne w url false with
  | (w, none) => (w, [])
  | (w, some out) => (w, strip.foldl (fun t s => s.apply t) out.body)

end Engine

end Harvest
