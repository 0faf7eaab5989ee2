import Harvest.Json.Parse
/-!
# Harvest.Api.Body

Reading request bodies: the first JSON value of the body, decoded into the request's fields.

Only the first value counts; what follows it is not read. A body that holds no value, or a value
cut short or malformed, cannot be read. `null` leaves every field unset. Otherwise the value must
be an object; a member whose name equals a field's name, exactly or after folding case, sets that
field, a later member overriding an earlier one, and members naming no field are ignored. A
member's value must fit its field: a string for a text, `true`/`false` for a flag, an array of
strings for a list of texts; `null` leaves a text or a flag unchanged and empties a list. Any value
that does not fit makes the whole body unreadable.

A list of texts is read into the storage the list already has: an item overwrites the slot at its
place, and a `null` item keeps what the slot held, even a slot past the end of the list before.
Storage that runs out is replaced by a larger one that keeps the old slots and adds empty ones; its
size grows as the runtime grows a slice of strings (doubling while small, by about a quarter once
large, rounded up to an allocation size class). An empty array, or `null`, leaves no storage.
-/

namespace Harvest

namespace Api

open Json

/-- Folds a character of a member name: ASCII capitals to small letters, and the two non-ASCII
letters that fold onto ASCII ones (long s and the Kelvin sign). -/
def foldChar (c : Char) : Char :=
  if c.toNat == 0x17F then 's'
  else if c.toNat == 0x212A then 'k'
  else c.toLower

/-- Whether a member name names a field (field names are small ASCII letters). -/
def namesField (field key : String) : Bool := key == field || key.map foldChar == field

/-- The value of a text field after a member. -/
def textValue (current : String) : Tree → Option String
  | .str s => some s
  | .null => some current
  | _ => none

/-- The value of a flag after a member. -/
def flagValue (current : Bool) : Tree → Option Bool
  | .bool b => some b
  | .null => some current
  | _ => none

/-- A list of texts with its storage: the list is the first `length` slots. -/
structure TextSlice where
  slots : List String := []
  length : Nat := 0
  deriving Repr

/-- The texts of a list. -/
def TextSlice.items (s : TextSlice) : List String := s.slots.take s.length

/-- The allocation size classes, in bytes, for small objects. -/
def sizeClasses : List Nat :=
  [8, 16, 24, 32, 48, 64, 80, 96, 112, 128, 144, 160, 176, 192, 208, 224, 240, 256, 288, 320, 352,
   384, 416, 448, 480, 512, 576, 640, 704, 768, 896, 1024, 1152, 1280, 1408, 1536, 1792, 2048,
   2304, 2688, 3072, 3200, 3456, 4096, 4864, 5376, 6144, 6528, 6784, 6912, 8192, 9472, 9728,
   10240, 10880, 12288, 13568, 14336, 16384, 18432, 19072, 20480, 21760, 24576, 27264, 28672,
   32768]

/-- The bytes an allocation of a size with pointers gets, less its header: a small size above 512
bytes carries an 8-byte header and rounds up to a size class, a large one rounds up to 8 KiB
pages. -/
def allocationSize (size : Nat) : Nat :=
  if size ≤ 32760 then
    let header := if size > 512 then 8 else 0
    let req := size + header
    ((sizeClasses.find? (req ≤ ·)).getD req) - header
  else (size + 8191) / 8192 * 8192

/-- The storage size after growing a full storage of strings (16 bytes each) by one slot. -/
def grownCapacity (cap : Nat) : Nat :=
  let wanted :=
    if cap == 0 then 1
    else if cap < 256 then 2 * cap
    else cap + (cap + 768) / 4
  allocationSize (wanted * 16) / 16

/-- Reads array items into storage from slot `i`, growing it when it is full; gives the storage
and the number of items. -/
def fillSlots : Nat → List String → List Tree → Option (List String × Nat)
  | i, slots, [] => some (slots, i)
  | i, slots, t :: ts => do
    let slots :=
      if i < slots.length then slots
      else slots ++ List.replicate (grownCapacity slots.length - slots.length) ""
    let s ← textValue (slots.getD i "") t
    fillSlots (i + 1) (slots.set i s) ts

/-- The value of a list-of-texts field after a member. -/
def textsValue (current : TextSlice) : Tree → Option TextSlice
  | .null => some {}
  | .arr items => (fillSlots 0 current.slots items).map fun (slots, n) =>
      if n == 0 then {} else { slots, length := n }
  | _ => none

/-- The members of the body's object, or none for `null`; anything else cannot be read. -/
def bodyMembers (body : String) : Option (List (String × Tree)) :=
  match parseFirst (Bytes.ofString body) with
  | .ok .null => some []
  | .ok (.obj members) => some members
  | _ => none

/-- A batch submission: the locators and whether to answer only once the batch has run. -/
structure BatchRequest where
  urls : TextSlice := {}
  wait : Bool := false
  deriving Repr

/-- Applies one member to a batch submission. -/
def BatchRequest.apply (r : BatchRequest) (m : String × Tree) : Option BatchRequest :=
  if namesField "urls" m.1 then (textsValue r.urls m.2).map fun urls => { r with urls }
  else if namesField "wait" m.1 then (flagValue r.wait m.2).map fun wait => { r with wait }
  else some r

/-- Reads a batch submission; none when the body cannot be read. -/
def BatchRequest.read (body : String) : Option BatchRequest :=
  (bodyMembers body).bind fun ms => ms.foldlM BatchRequest.apply {}

/-- A proxy to add, as written. -/
structure ProxyRequest where
  endpoint : String := ""
  deriving Repr

/-- Reads a proxy to add; none when the body cannot be read. -/
def ProxyRequest.read (body : String) : Option ProxyRequest :=
  (bodyMembers body).bind fun ms => ms.foldlM (fun r m =>
    if namesField "endpoint" m.1 then (textValue r.endpoint m.2).map fun endpoint => { endpoint }
    else some r) {}

end Api

end Harvest
