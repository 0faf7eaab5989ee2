/-!
# Harvest.Http.Header

HTTP header fields: canonical names and a table from names to their values.

A field name is canonical when its first letter and every letter after a `-` are capitals and all
other letters are small (`Content-Type`, `Etag`). A name holding a byte that is not a token
character (RFC 7230) is left exactly as written; so is one that holds a space. The table keeps
names in byte order, each with its values in the order they were added.
-/

namespace Harvest

namespace Http

/-- Whether a character may appear in a header field name (an RFC 7230 token character). -/
def isTokenChar (c : Char) : Bool :=
  c.toNat < 0x80 && (c.isAlphanum || "!#$%&'*+-.^_`|~".toList.contains c)

/-- The canonical form of a header field name. -/
def canonicalName (name : String) : String :=
  let cs := name.toList
  if cs.isEmpty || !cs.all isTokenChar then name
  else
    let (out, _) := cs.foldl (fun (acc, upper) c =>
      let c' := if upper && 'a' ≤ c && c ≤ 'z' then Char.ofNat (c.toNat - 32)
        else if !upper && 'A' ≤ c && c ≤ 'Z' then Char.ofNat (c.toNat + 32)
        else c
      (c' :: acc, c' == '-')) ([], true)
    String.ofList out.reverse

/-- A header table: canonical names in byte order, each with its values. -/
structure Header where
  fields : List (String × List String) := []
  deriving DecidableEq, Repr, Inhabited

namespace Header

/-- The empty table. -/
def empty : Header := {}

/-- Inserts a value after the existing values of a name, keeping names ordered. -/
def insertValue (name value : String) : List (String × List String) → List (String × List String)
  | [] => [(name, [value])]
  | (k, vs) :: rest =>
    if k == name then (k, vs ++ [value]) :: rest
    else if name < k then (name, [value]) :: (k, vs) :: rest
    else (k, vs) :: insertValue name value rest

/-- Replaces the values of a name by one value. -/
def setValue (name value : String) : List (String × List String) → List (String × List String)
  | [] => [(name, [value])]
  | (k, vs) :: rest =>
    if k == name then (k, [value]) :: rest
    else if name < k then (name, [value]) :: (k, vs) :: rest
    else (k, vs) :: setValue name value rest

/-- Adds a value to a field. -/
def add (h : Header) (name value : String) : Header :=
  ⟨insertValue (canonicalName name) value h.fields⟩

/-- Sets a field to a single value. -/
def set (h : Header) (name value : String) : Header :=
  ⟨setValue (canonicalName name) value h.fields⟩

/-- The values of a field. -/
def values (h : Header) (name : String) : List String :=
  let n := canonicalName name
  match h.fields.find? (·.1 == n) with
  | some (_, vs) => vs
  | none => []

/-- The first value of a field, or empty. -/
def get (h : Header) (name : String) : String := (h.values name).headD ""

end Header

end Http

end Harvest
