import Harvest.Config.Dynamic
import Harvest.Text.Duration
import Harvest.Text.Number
/-!
# Harvest.Config.Weak

Weakly typed decoding of loosely typed values into typed fields.

Each field decoder takes the field's dotted name, the value found for it (none or null leaves
the field as it is) and answers the decoded value, or records an error `'<name>' <problem>` and
leaves the field unchanged. Decoding goes on after an error, so every problem is reported, in
field order.

The conversions are lenient:

* integers take integers (wrapped to the field's width), floats (truncated; a float beyond the
  64-bit range or NaN gives the least 64-bit value), booleans (1 or 0) and texts read as
  integers in the base their prefix names (an empty text is 0);
* durations also take duration texts such as `1m30s`;
* booleans take numbers (non-zero is true) and the texts `1 t T TRUE true True 0 f F FALSE
  false False` (an empty text is false);
* texts take numbers and booleans (`1`/`0`);
* floats take numbers, booleans and float texts;
* lists of texts take lists (item by item), a text split at commas (the empty text is the empty
  list), an empty map (the empty list), or a single value.

Anything else is `expected type '<field type>', got unconvertible type '<value type>'`.

A field takes the entry named exactly as it is, else the first entry whose name equals the
field's after folding case.
-/

namespace Harvest

namespace Weak

/-- Decoding steps: the errors so far, in order. -/
abbrev DecodeM := StateM (List String)

/-- Records an error about a named field. -/
def report (name msg : String) : DecodeM Unit := modify (· ++ ["'" ++ name ++ "' " ++ msg])

/-- An integer wrapped to a signed width. -/
def wrapSigned (bits : Nat) (n : Int) : Int :=
  let m : Int := Int.pow 2 bits
  let r := n % m
  if r ≥ Int.pow 2 (bits - 1) then r - m else r

/-- The 64-bit integer a float converts to: truncated toward zero, and the least value when
out of range or NaN. -/
def floatToInt64 (x : Float) : Int :=
  let least : Int := -(Int.pow 2 63)
  if x.isNaN || x.isInf then least
  else
    let (neg, m, e) := Number.decompose x
    let mag : Nat := if e ≥ 0 then m * Nat.pow 2 e.toNat else m / Nat.pow 2 (-e).toNat
    let v : Int := if neg then -(mag : Int) else mag
    if v < least || v ≥ Int.pow 2 63 then least else v

/-- The float nearest to an integer. -/
def intToFloat (n : Int) : Float :=
  let mag := (Number.ofBinary n.natAbs 0).getD (1.0 / 0.0)
  if n < 0 then -mag else mag

/-- The message of an impossible conversion. -/
def unconvertible (target : String) (d : Dyn) : String :=
  "expected type '" ++ target ++ "', got unconvertible type '" ++ d.typeName ++ "'"

/-- An integer field of `bits` bits, of the named type. -/
def intField (name : String) (bits : Nat) (typeName : String) (d : Option Dyn) (current : Int) :
    DecodeM Int :=
  match d with
  | none | some .null => pure current
  | some (.int n _) => pure (wrapSigned bits n)
  | some (.float x) => pure (wrapSigned bits (floatToInt64 x))
  | some (.bool b) => pure (if b then 1 else 0)
  | some (.str s) =>
    match Number.parseInt (if s.isEmpty then "0" else s) 0 bits with
    | .ok n => pure n
    | .error e => do
      report name ("cannot parse value as '" ++ typeName ++ "': " ++ e.message "strconv.ParseInt")
      pure current
  | some v => do
    report name (unconvertible typeName v)
    pure current

/-- A failure of a duration text, shortened to its kind: the unknown-unit failure loses its
details, any other loses its last word (the quoted text). -/
def shortenDurationError (msg : String) : String :=
  if msg.startsWith "time: unknown unit " then "time: unknown unit"
  else if msg.startsWith "time: " then
    let cs := msg.toList
    match (List.range cs.length).reverse.find? (fun i => cs.getD i 'x' == ' ') with
    | some i => String.ofList (cs.take i)
    | none => msg
  else msg

/-- A duration field, in nanoseconds. -/
def durationField (name : String) (d : Option Dyn) (current : Int) : DecodeM Int :=
  match d with
  | some (.str s) =>
    match Duration.parse s with
    | .ok n => pure n
    | .error e => do
      report name (shortenDurationError e)
      pure current
  | _ => intField name 64 "time.Duration" d current

/-- A boolean field. -/
def boolField (name : String) (d : Option Dyn) (current : Bool) : DecodeM Bool :=
  match d with
  | none | some .null => pure current
  | some (.bool b) => pure b
  | some (.int n _) => pure (n != 0)
  | some (.float x) => pure (x != 0)
  | some (.str s) =>
    if ["1", "t", "T", "TRUE", "true", "True"].contains s then pure true
    else if ["0", "f", "F", "FALSE", "false", "False"].contains s then pure false
    else if s.isEmpty then pure false
    else do
      report name "cannot parse value as 'bool': strconv.ParseBool: invalid syntax"
      pure current
  | some v => do
    report name (unconvertible "bool" v)
    pure current

/-- The text a scalar converts to, if it converts. -/
def textOf : Dyn → Option String
  | .str s => some s
  | .bool b => some (if b then "1" else "0")
  | .int n _ => some (toString n)
  | .float x => some (Number.formatPlain x)
  | _ => none

/-- A text field. -/
def stringField (name : String) (d : Option Dyn) (current : String) : DecodeM String :=
  match d with
  | none | some .null => pure current
  | some v =>
    match textOf v with
    | some s => pure s
    | none => do
      report name (unconvertible "string" v)
      pure current

/-- A float field. -/
def floatField (name : String) (d : Option Dyn) (current : Float) : DecodeM Float :=
  match d with
  | none | some .null => pure current
  | some (.int n _) => pure (intToFloat n)
  | some (.float x) => pure x
  | some (.bool b) => pure (if b then 1 else 0)
  | some (.str s) =>
    match Number.parseFloat (if s.isEmpty then "0" else s) with
    | .ok x => pure x
    | .error e => do
      report name ("cannot parse value as 'float64': " ++ e.message "strconv.ParseFloat")
      pure current
  | some v => do
    report name (unconvertible "float64" v)
    pure current

/-- Decodes list items as texts, naming each `<name>[i]`. -/
def textItems (name : String) : Nat → List Dyn → DecodeM (List String)
  | _, [] => pure []
  | i, d :: ds => do
    let s ← stringField (name ++ "[" ++ toString i ++ "]") (some d) ""
    let rest ← textItems name (i + 1) ds
    pure (s :: rest)

/-- A list-of-texts field. -/
def stringsField (name : String) (d : Option Dyn) (current : Option (List String)) :
    DecodeM (Option (List String)) :=
  match d with
  | none | some .null => pure current
  | some (.str s) => pure (some (if s.isEmpty then [] else s.splitOn ","))
  | some (.strings xs) => pure (some xs)
  | some (.list items) => some <$> textItems name 0 items
  | some (.map []) => pure (some [])
  | some v => some <$> textItems name 0 [v]

/-- The entries of a map a section is decoded from. A date or time has no entries a section
can use, so it leaves the section as it is; anything else is an error. -/
def sectionEntries (name : String) (d : Option Dyn) : DecodeM (Option (List (String × Dyn))) :=
  match d with
  | none | some .null => pure none
  | some (.map entries) => pure (some entries)
  | some (.time _ _) => pure (some [])
  | some v => do
    report name ("expected a map or struct, got " ++ "\"" ++ v.kindName ++ "\"")
    pure none

/-- Folds a character of a key for comparing it with a field name: capitals to small letters,
and the long s and the Kelvin sign to the ASCII letters they fold to. -/
def foldKeyChar (c : Char) : Char :=
  if c.toNat == 0x17F then 's'
  else if c.toNat == 0x212A then 'k'
  else c.toLower

/-- Whether a key names a field (field names are small ASCII letters, digits and `_`): they are
equal after folding the key's case. -/
def keyFoldsTo (key field : String) : Bool := key.map foldKeyChar == field

/-- The value of a field in a section's entries: the entry named exactly as the field, else the
first whose name equals it after folding case. -/
def fieldOf (entries : Option (List (String × Dyn))) (key : String) : Option Dyn :=
  entries.bind fun es =>
    match Dyn.lookup es key with
    | some v => some v
    | none => (es.find? fun (k, _) => keyFoldsTo k key).map (·.2)

end Weak

end Harvest
