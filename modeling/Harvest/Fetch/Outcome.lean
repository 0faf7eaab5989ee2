import Harvest.Fetch.Error
import Harvest.Http.Header
import Harvest.Text.Utf8
import Harvest.Time
/-!
# Harvest.Fetch.Outcome

The outcome of fetching one locator, and the validators a later conditional fetch sends back.

An outcome is *ok* exactly when it carries no failure. The validators of an outcome are the
first `ETag` value of its response and its `Last-Modified` time when that reads as an HTTP date;
a conditional fetch sends them as `If-None-Match` and `If-Modified-Since`.
-/

namespace Harvest

/-- What a conditional fetch sends: a time and an entity tag, each possibly absent. -/
structure Conditional where
  ifModifiedSince : Instant := Instant.zero
  etag : String := ""
  deriving DecidableEq, Repr

/-- Adds the conditional fields to request headers. -/
def Conditional.apply (c : Conditional) (h : Http.Header) : Http.Header :=
  let h := if c.ifModifiedSince.isZero then h
    else h.set "If-Modified-Since" c.ifModifiedSince.httpDate
  if c.etag.isEmpty then h else h.set "If-None-Match" c.etag

/-- The outcome of fetching one locator. -/
structure Outcome where
  url : String := ""
  finalUrl : String := ""
  status : Int := 0
  /-- The response header, absent when no response was received. -/
  header : Option Http.Header := none
  body : Bytes := []
  contentEncoding : String := ""
  size : Int := 0
  rawSize : Int := 0
  attempts : Int := 0
  notModified : Bool := false
  ok : Bool := false
  err : Option FetchError := none
  deriving DecidableEq, Repr, Inhabited

namespace Outcome

/-- The outcome of a locator that failed. -/
def failed (url : String) (e : FetchError) : Outcome := { url := url, err := some e }

/-- The entity tag of the response, or empty. -/
def etag (o : Outcome) : String :=
  match o.header with
  | some h => h.get "ETag"
  | none => ""

/-- The modification time of the response, or the zero instant. -/
def lastModified (o : Outcome) : Instant :=
  match o.header with
  | some h => (Instant.parseHttpDate (h.get "Last-Modified")).getD Instant.zero
  | none => Instant.zero

/-- The validators for a conditional fetch of the same locator. -/
def validators (o : Outcome) : Conditional := ⟨o.lastModified, o.etag⟩

end Outcome

end Harvest
