import Harvest.Url.Escape
/-!
# Harvest.Url.Query

Query strings as ordered name/value pairs, and their canonical spelling.

A query is read by cutting at `&`; a piece holding `;` is dropped (a semicolon is no separator
here), an empty piece is skipped, and the rest is cut at the first `=` into a name and a value,
both decoded with `+` read as a space. A piece whose name or value has a bad escape is dropped.
A query of more than ten thousand pieces is refused as a whole and reads as empty.

The canonical spelling groups the values by name, writes the names in byte order and, under each
name, the values in the order they were read, every name and value escaped as a query component.
-/

namespace Harvest

namespace Url

/-- Lexicographic byte order. -/
def bytesBefore : Bytes → Bytes → Bool
  | [], [] => false
  | [], _ :: _ => true
  | _ :: _, [] => false
  | a :: as, b :: bs => if a < b then true else if b < a then false else bytesBefore as bs

/-- Splits bytes at every occurrence of a separator. -/
def splitOn (sep : UInt8) : Bytes → List Bytes
  | [] => [[]]
  | b :: rest =>
    if b == sep then [] :: splitOn sep rest
    else
      match splitOn sep rest with
      | first :: more => (b :: first) :: more
      | [] => [[b]]

/-- Reads one `name=value` piece, if it is well formed. -/
def readPair (piece : Bytes) : Option (Bytes × Bytes) :=
  if piece.contains 0x3B || piece.isEmpty then none
  else
    let (name, value) :=
      match piece.span (· != 0x3D) with
      | (n, []) => (n, [])
      | (n, _ :: v) => (n, v)
    match unescape name .queryComponent, unescape value .queryComponent with
    | .ok n, .ok v => some (n, v)
    | _, _ => none

/-- The most pieces a query may be cut into; a longer query reads as no pairs at all. -/
def maxQueryPieces : Nat := 10000

/-- The pairs of a raw query, in the order they were written. -/
def queryPairs (raw : Bytes) : List (Bytes × Bytes) :=
  if raw.count 0x26 + 1 > maxQueryPieces then []
  else (splitOn 0x26 raw).filterMap readPair

/-- Adds a value under its name in a name-sorted table, after the values already there. -/
def insertValue (name value : Bytes) : List (Bytes × List Bytes) → List (Bytes × List Bytes)
  | [] => [(name, [value])]
  | (k, vs) :: rest =>
    if k == name then (k, vs ++ [value]) :: rest
    else if bytesBefore name k then (name, [value]) :: (k, vs) :: rest
    else (k, vs) :: insertValue name value rest

/-- The values of a query grouped by name, names in byte order. -/
def groupValues (pairs : List (Bytes × Bytes)) : List (Bytes × List Bytes) :=
  pairs.foldl (fun acc (n, v) => insertValue n v acc) []

/-- The canonical spelling of grouped query values. -/
def encodeValues (table : List (Bytes × List Bytes)) : String :=
  "&".intercalate <| table.flatMap fun (name, values) =>
    values.map fun v => escape name .queryComponent ++ "=" ++ escape v .queryComponent

/-- The canonical spelling of a raw query. -/
def canonicalQuery (raw : Bytes) : String := encodeValues (groupValues (queryPairs raw))

end Url

end Harvest
