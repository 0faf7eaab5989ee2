import Harvest.Url.Basic
/-!
# Harvest.Url.Resolve

Resolving a reference against a base (RFC 3986, section 5.2), as a redirect target is resolved
against the request it answers.

A reference with a scheme, a host or user information keeps its own authority; a rootless one
keeps its text. Otherwise the base's authority is used and the paths are merged: an empty
reference path keeps the base path (and, when the reference has no query either, the base query,
and without a fragment the base fragment); a relative one replaces the last segment of the base
path. The merged path then has its `.` and `..` segments removed; a `..` that climbs back to the
root starts the path afresh, so an empty segment right after it adds no slash, and a path that
ended in one of them keeps a trailing slash.
-/

namespace Harvest

namespace Url

/-- The character index of the last `/` of a text. -/
def lastSlash (s : String) : Option Nat :=
  let cs := s.toList
  (cs.reverse.findIdx? (· == '/')).map fun j => cs.length - 1 - j

/-- Removes dot segments from an escaped path, merged from a base and a reference path. -/
def resolvePath (base ref : String) : String :=
  let full :=
    if ref.isEmpty then base
    else if ref.front != '/' then
      match (base.splitOn "/").dropLast with
      | [] => ref
      | dirs => String.intercalate "/" dirs ++ "/" ++ ref
    else ref
  if full.isEmpty then ""
  else
    let segs := full.splitOn "/"
    let step (acc : String × Bool) (elem : String) : String × Bool :=
      let (dst, first) := acc
      if elem == "." then (dst, false)
      else if elem == ".." then
        let str := String.ofList (dst.toList.drop 1)
        match lastSlash str with
        | none | some 0 => ("/", true)
        | some i => ("/" ++ String.ofList (str.toList.take i), first)
      else ((if first then dst else dst ++ "/") ++ elem, false)
    let (dst, _) := segs.foldl step ("/", true)
    let last := segs.getLastD ""
    let dst := if last == "." || last == ".." then dst ++ "/" else dst
    if dst.length > 1 && dst.toList.getD 1 ' ' == '/' then String.ofList (dst.toList.drop 1)
    else dst

/-- Sets the path of a reference from its escaped form. -/
def Ref.withEscapedPath (r : Ref) (p : String) : Ref :=
  match withPath r (Bytes.ofString p) with
  | .ok r => r
  | .error _ => r

/-- Resolves a reference against a base. -/
def Ref.resolve (base ref : Ref) : Ref :=
  let url := if ref.scheme.isEmpty then { ref with scheme := base.scheme } else ref
  if !ref.scheme.isEmpty || !ref.host.isEmpty || ref.user.isSome then
    url.withEscapedPath (resolvePath ref.escapedPath "")
  else if !ref.rootless.isEmpty then
    { url with user := none, host := [], path := [], rawPath := [] }
  else
    let url :=
      if ref.path.isEmpty && !ref.forceQuery && ref.rawQuery.isEmpty then
        let url := { url with rawQuery := base.rawQuery }
        if ref.fragment.isEmpty then
          { url with fragment := base.fragment, rawFragment := base.rawFragment }
        else url
      else url
    if ref.path.isEmpty && !base.rootless.isEmpty then
      { url with rootless := base.rootless, user := none, host := [], path := [], rawPath := [] }
    else
      { url with host := base.host, user := base.user }.withEscapedPath
        (resolvePath base.escapedPath ref.escapedPath)

/-- Reads a reference and resolves it against a base. -/
def Ref.follow (base : Ref) (text : String) : Except Failure Ref :=
  (parse text).map base.resolve

end Url

end Harvest
