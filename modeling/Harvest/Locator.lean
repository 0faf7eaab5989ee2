import Harvest.Url.Basic
import Harvest.Url.Query
import Harvest.Text.Blank
import Harvest.Text.Case
import Harvest.Text.SlashPath
/-!
# Harvest.Locator

Locators: the strings that name a document to fetch, either an HTTP(S) URL or a path on the
local file system (optionally written with a `file://` prefix).

A locator is *remote* when, trimmed and in small letters, it begins with `http://` or
`https://`; every other locator is *local*. The identity of a fetch task is its *key*: for a
local locator the cleaned path, for a remote one the normalized URL, which has scheme and host in
small letters, no default port (`:80` for http, `:443` for https), no fragment and the query in
canonical order. A remote locator that cannot be read as a URL is its own key, so that it still
reaches the fetcher and fails there.

The *extension* of a locator is the part of its last path element after the last dot, in small
letters; the query and fragment of a remote locator do not count.
-/

namespace Harvest

namespace Locator

/-- Whether a text starts with a prefix. -/
def hasPrefix (s pre : String) : Bool := s.startsWith pre

/-- Whether a locator names a local file rather than an HTTP(S) resource. -/
def isLocal (raw : String) : Bool :=
  let lower := lowerText (trimBlank raw)
  !hasPrefix lower "http://" && !hasPrefix lower "https://"

/-- The path of a local locator: trimmed, with a `file://` prefix removed. -/
def localPath (raw : String) : String :=
  let t := trimBlank raw
  if hasPrefix (lowerText t) "file://" then Bytes.toText ((Bytes.ofString t).drop 7) else t

/-- Why a locator could not be normalized. -/
structure NormalizeError where
  failure : Url.Failure
  deriving DecidableEq, Repr

/-- The message of a normalization failure. -/
def NormalizeError.message (e : NormalizeError) : String := "parse url: " ++ e.failure.message

/-- Removes a suffix from bytes when present. -/
def dropSuffix (bs suffix : Bytes) : Bytes :=
  if bs.length ≥ suffix.length && bs.drop (bs.length - suffix.length) == suffix then
    bs.take (bs.length - suffix.length)
  else bs

/-- Normalizes a parsed reference: host in small letters, default port dropped, fragment
dropped, query canonical. -/
def normalizedRef (r : Url.Ref) : Url.Ref :=
  let host := r.host.lowerCase
  let host :=
    if r.scheme == "http" then dropSuffix host (Bytes.ofString ":80")
    else if r.scheme == "https" then dropSuffix host (Bytes.ofString ":443")
    else host
  { r with host := host, fragment := [],
           rawQuery := Url.canonicalQuery (Bytes.ofString r.rawQuery) }

/-- The normalized text of a URL. -/
def normalize (raw : String) : Except NormalizeError String :=
  match Url.parse (trimBlank raw) with
  | .error f => .error ⟨f⟩
  | .ok r => .ok (normalizedRef r).render

/-- The identity of a fetch task. -/
def key (raw : String) : String :=
  let t := trimBlank raw
  if isLocal t then SlashPath.clean (localPath t)
  else
    match normalize t with
    | .ok n => n
    | .error _ => t

/-- The extension of a locator's last path element, in small letters, or empty. -/
def extension (raw : String) : String :=
  let p :=
    if !isLocal raw then
      match Url.parse raw with
      | .ok r => Bytes.toText r.path
      | .error _ => raw
    else localPath raw
  -- backslashes are read as slashes, one character for one
  let b := SlashPath.base (String.ofList (p.toList.map fun c => if c = '\\' then '/' else c))
  let cs := b.toList
  match (cs.reverse.span (· != '.')) with
  | (_, []) => ""
  | ([], _) => ""
  | (extRev, _) => lowerText (String.ofList extRev.reverse)

/-- The host a request to a locator goes to, in small letters: `local` for local locators and
`unknown` when there is none. -/
def requestHost (raw : String) : String :=
  if isLocal raw then "local"
  else
    match Url.parse raw with
    | .ok r => if r.hostname.isEmpty then "unknown" else lowerText (Bytes.toText r.hostname)
    | .error _ => "unknown"

/-- The site a locator belongs to, for labelling: `local` for paths, `unknown` when no host can
be read; a text without a scheme is read as if `http://` were in front of it. -/
def site (raw : String) : String :=
  if raw.isEmpty then "unknown"
  else if hasPrefix raw "/" || hasPrefix (lowerText raw) "file://" then "local"
  else
    let text := if hasPrefix raw "http" then raw else "http://" ++ raw
    match Url.parse text with
    | .ok r => if r.hostname.isEmpty then "unknown" else lowerText (Bytes.toText r.hostname)
    | .error _ => "unknown"

end Locator

end Harvest
