import Harvest.Locator
/-!
# Harvest.Filter

The download filter: which locators may be fetched at all, and how large a body may be.

A filter holds a set of allowed extensions, a set of denied extensions and a byte ceiling.
Extensions are given without the dot and compared in small letters; blanks around a given
extension and one leading dot are ignored, and an extension that is then empty is dropped.
A locator is denied when its extension is non-empty and denied; otherwise it is permitted when
no extension is allowed explicitly, or when its extension is allowed. A ceiling of zero or less
means that bodies are unbounded, which is recorded as the ceiling `-1`.
-/

namespace Harvest

/-- The rules of a download filter as configured. -/
structure FilterRules where
  allow : List String := []
  deny : List String := []
  maxBytes : Int := 0
  deriving DecidableEq, Repr

/-- A built download filter. -/
structure Filter where
  allow : List String
  deny : List String
  /-- The byte ceiling, or `-1` for none. -/
  maxBytes : Int
  deriving DecidableEq, Repr

namespace Filter

/-- The ceiling that stands for "no ceiling". -/
def unbounded : Int := -1

/-- The normalized form of a configured extension, or none when it is empty. -/
def normalizeType (t : String) : Option String :=
  let t := trimBlank t
  let t := if t.startsWith "." then String.ofList (t.toList.drop 1) else t
  let t := lowerText t
  if t.isEmpty then none else some t

/-- Builds a filter from its rules. -/
def build (rules : FilterRules) : Filter where
  allow := rules.allow.filterMap normalizeType
  deny := rules.deny.filterMap normalizeType
  maxBytes := if rules.maxBytes ≤ 0 then unbounded else rules.maxBytes

/-- The filter that permits everything and bounds nothing. -/
def permissive : Filter := build {}

/-- Whether a locator passes the extension rules. -/
def permits (f : Filter) (raw : String) : Bool :=
  let ext := Locator.extension raw
  if !ext.isEmpty && f.deny.contains ext then false
  else if f.allow.isEmpty then true
  else f.allow.contains ext

/-- Whether a byte ceiling is in force. -/
def bounded (f : Filter) : Bool := f.maxBytes > 0

/-- The ceiling a reader applies: the byte ceiling, or `-1` when unbounded. -/
def readLimit (f : Filter) : Int := if f.bounded then f.maxBytes else unbounded

end Filter

end Harvest
