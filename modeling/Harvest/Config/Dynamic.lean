/-!
# Harvest.Config.Dynamic

Loosely typed values, as configuration sources deliver them before they are decoded into
settings.

A value remembers the type it was read as, because decoding treats the types differently and
its messages name them: integers are plain (`int`), 64-bit (`int64`), unsigned (`uint64`) or
durations in nanoseconds (`time.Duration`); lists are either of arbitrary values or of strings;
maps have text keys; dates and times are instants or local dates, times or both.
-/

namespace Harvest

/-- The type an integer was read as. -/
inductive IntKind where
  | int
  | int64
  | uint64
  | duration
  deriving DecidableEq, Repr, Inhabited

/-- The type of a date or time value. -/
inductive TimeType where
  /-- An instant: a date and time of day in a zone. -/
  | instant
  /-- A date and time of day without a zone. -/
  | localDateTime
  /-- A date without a time of day. -/
  | localDate
  /-- A time of day without a date. -/
  | localTime
  deriving DecidableEq, Repr, Inhabited

/-- The name of a date or time type. -/
def TimeType.name : TimeType → String
  | .instant => "time.Time"
  | .localDateTime => "toml.LocalDateTime"
  | .localDate => "toml.LocalDate"
  | .localTime => "toml.LocalTime"

/-- A loosely typed value. -/
inductive Dyn where
  | null
  | bool (b : Bool)
  | int (n : Int) (kind : IntKind)
  | float (x : Float)
  | str (s : String)
  /-- A list of arbitrary values. -/
  | list (items : List Dyn)
  /-- A list of strings. -/
  | strings (items : List String)
  | map (entries : List (String × Dyn))
  /-- A date or time, with the text it prints as. -/
  | time (type : TimeType) (shown : String)
  deriving Inhabited

namespace Dyn

/-- The name of the value's type. -/
def typeName : Dyn → String
  | .null => "<nil>"
  | .bool _ => "bool"
  | .int _ .int => "int"
  | .int _ .int64 => "int64"
  | .int _ .uint64 => "uint64"
  | .int _ .duration => "time.Duration"
  | .float _ => "float64"
  | .str _ => "string"
  | .list _ => "[]interface \x7b\x7d"
  | .strings _ => "[]string"
  | .map _ => "map[string]interface \x7b\x7d"
  | .time t _ => t.name

/-- The name of the value's kind: like the type, but every list is a `slice`, every map a
`map`, a duration an `int64`, and a date or time a `struct`. -/
def kindName : Dyn → String
  | .null => "invalid"
  | .bool _ => "bool"
  | .int _ .int => "int"
  | .int _ .int64 => "int64"
  | .int _ .uint64 => "uint64"
  | .int _ .duration => "int64"
  | .float _ => "float64"
  | .str _ => "string"
  | .list _ => "slice"
  | .strings _ => "slice"
  | .map _ => "map"
  | .time _ _ => "struct"

/-- Whether the value is a map. -/
def isMap : Dyn → Bool
  | .map _ => true
  | _ => false

/-- The entry of a map under a key. -/
def lookup (entries : List (String × Dyn)) (k : String) : Option Dyn :=
  (entries.find? (·.1 == k)).map (·.2)

/-- Sets the entry under a key, replacing an earlier one in place. -/
def insert (entries : List (String × Dyn)) (k : String) (v : Dyn) : List (String × Dyn) :=
  if entries.any (·.1 == k) then entries.map fun e => if e.1 == k then (k, v) else e
  else entries ++ [(k, v)]

end Dyn

end Harvest
