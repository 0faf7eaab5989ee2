/-!
# Harvest.Time

Instants on the UTC time line, their calendar reading, and the two text forms the library uses:
the RFC 3339 timestamp (`2024-05-01T10:00:00Z`) and the HTTP date of RFC 7231
(`Wed, 01 May 2024 10:00:00 GMT`).

An HTTP date is read in any of its three historical forms, each a layout of fields and literal
text: the IMF fixed date, the RFC 850 date with a two-character year (69 to 99 in the 1900s, the
rest in the 2000s, a sign allowed) and a zone, and the C `asctime` date with a space-padded day.
Names of days and months are matched without regard to case; the day of the week is not checked
against the date. A space in a layout matches a run of spaces. Fields must lie in their ranges,
the day must exist in its month, and nothing may follow the date. A fractional second after the
seconds is accepted and kept. A zone is recognised by its shape (`UTC`, `GMT` with an optional
hour offset, `ChST`, `MeST`, an hour offset, three capitals, or four or five ending in `T`) but
never moves the instant: the date reads as UTC.
-/

namespace Harvest

/-- An instant: seconds since 1970-01-01T00:00:00Z and nanoseconds within the second. -/
structure Instant where
  seconds : Int
  nanos : Nat := 0
  deriving DecidableEq, Repr, Inhabited

namespace Instant

/-- The instant that stands for "no time": 0001-01-01T00:00:00Z. -/
def zero : Instant := ⟨-62135596800, 0⟩

/-- Whether this is the instant that stands for "no time". -/
def isZero (t : Instant) : Bool := t == zero

/-- The day number (days since 1970-01-01) of a civil date. -/
def daysFromCivil (y : Int) (m d : Nat) : Int :=
  let y := if m ≤ 2 then y - 1 else y
  let era := y / 400
  let yoe := y - era * 400
  let mp : Int := if m > 2 then m - 3 else m + 9
  let doy := (153 * mp + 2) / 5 + d - 1
  let doe := yoe * 365 + yoe / 4 - yoe / 100 + doy
  era * 146097 + doe - 719468

/-- The civil date (year, month, day) of a day number. -/
def civilFromDays (z : Int) : Int × Nat × Nat :=
  let z := z + 719468
  let era := z / 146097
  let doe := z - era * 146097
  let yoe := (doe - doe / 1460 + doe / 36524 - doe / 146096) / 365
  let y := yoe + era * 400
  let doy := doe - (365 * yoe + yoe / 4 - yoe / 100)
  let mp := (5 * doy + 2) / 153
  let d := doy - (153 * mp + 2) / 5 + 1
  let m := if mp < 10 then mp + 3 else mp - 9
  ((if m ≤ 2 then y + 1 else y), m.toNat, d.toNat)

/-- Whether a year is a leap year. -/
def isLeap (y : Int) : Bool := (y % 4 == 0 && y % 100 != 0) || y % 400 == 0

/-- The number of days of a month. -/
def daysIn (y : Int) (m : Nat) : Nat :=
  if m == 2 then (if isLeap y then 29 else 28)
  else if m == 4 || m == 6 || m == 9 || m == 11 then 30
  else 31

/-- Two-digit zero-padded text. -/
def pad2 (n : Nat) : String := if n < 10 then "0" ++ toString n else toString n

/-- Four-digit zero-padded year text (negative years get a sign). -/
def padYear (y : Int) : String :=
  let a := y.natAbs
  let digits := toString a
  let body := String.ofList (List.replicate (4 - digits.length) '0') ++ digits
  if y < 0 then "-" ++ body else body

/-- The calendar fields of an instant in UTC. -/
def fields (t : Instant) : Int × Nat × Nat × Nat × Nat × Nat :=
  let days := t.seconds / 86400
  let secs := (t.seconds % 86400).toNat
  let (y, m, d) := civilFromDays days
  (y, m, d, secs / 3600, secs / 60 % 60, secs % 60)

/-- The RFC 3339 text of an instant in UTC, without fractional seconds. -/
def rfc3339 (t : Instant) : String :=
  let (y, m, d, hh, mm, ss) := t.fields
  padYear y ++ "-" ++ pad2 m ++ "-" ++ pad2 d ++ "T" ++ pad2 hh ++ ":" ++ pad2 mm ++ ":" ++
    pad2 ss ++ "Z"

/-- Short day names, Sunday first. -/
def dayNames : List String := ["Sun", "Mon", "Tue", "Wed", "Thu", "Fri", "Sat"]

/-- Long day names, Sunday first. -/
def longDayNames : List String :=
  ["Sunday", "Monday", "Tuesday", "Wednesday", "Thursday", "Friday", "Saturday"]

/-- Short month names, January first. -/
def monthNames : List String :=
  ["Jan", "Feb", "Mar", "Apr", "May", "Jun", "Jul", "Aug", "Sep", "Oct", "Nov", "Dec"]

/-- The HTTP date of an instant. -/
def httpDate (t : Instant) : String :=
  let (y, m, d, hh, mm, ss) := t.fields
  let weekday := ((t.seconds / 86400 + 4) % 7).toNat
  dayNames.getD weekday "" ++ ", " ++ pad2 d ++ " " ++ monthNames.getD (m - 1) "" ++ " " ++
    padYear y ++ " " ++ pad2 hh ++ ":" ++ pad2 mm ++ ":" ++ pad2 ss ++ " GMT"

/-- The instant `n` whole seconds later. -/
def addSeconds (t : Instant) (n : Int) : Instant := { t with seconds := t.seconds + n }

/-! ## Reading -/

/-- A text being read, as characters. -/
abbrev Cursor := List Char

/-- Reads a literal. -/
def lit (s : String) (cs : Cursor) : Option Cursor :=
  let l := s.toList
  if cs.take l.length == l then some (cs.drop l.length) else none

/-- Reads a number of one or two digits; with `fixed`, exactly two. -/
def num2 (fixed : Bool) : Cursor → Option (Nat × Cursor)
  | a :: b :: rest =>
    if a.isDigit && b.isDigit then some ((a.toNat - 48) * 10 + (b.toNat - 48), rest)
    else if a.isDigit && !fixed then some (a.toNat - 48, b :: rest)
    else none
  | [a] => if a.isDigit && !fixed then some (a.toNat - 48, []) else none
  | [] => none

/-- Reads exactly four digits. -/
def num4 : Cursor → Option (Nat × Cursor)
  | a :: b :: c :: d :: rest =>
    if a.isDigit && b.isDigit && c.isDigit && d.isDigit then
      some (((a.toNat - 48) * 10 + (b.toNat - 48)) * 100 + (c.toNat - 48) * 10 + (d.toNat - 48),
        rest)
    else none
  | _ => none

/-- Small letters of an ASCII text. -/
def asciiLower (s : List Char) : List Char := s.map Char.toLower

/-- Reads one of the given names without regard to case; gives its index. -/
def name (names : List String) (cs : Cursor) : Option (Nat × Cursor) :=
  (names.zipIdx.find? fun (n, _) =>
    asciiLower (cs.take n.length) == asciiLower n.toList).map fun (n, i) => (i, cs.drop n.length)

/-- Reads an optional fractional second after `.` or `,`. -/
def fraction : Cursor → Nat × Cursor
  | sep :: d :: rest =>
    if (sep == '.' || sep == ',') && d.isDigit then
      let digits := d :: rest.takeWhile Char.isDigit
      let after := rest.dropWhile Char.isDigit
      let nine := (digits ++ List.replicate 9 '0').take 9
      (nine.foldl (fun acc c => acc * 10 + (c.toNat - 48)) 0, after)
    else (0, sep :: d :: rest)
  | cs => (0, cs)

/-- Reads a time of day `hh:mm:ss` with an optional fraction. -/
def clock (cs : Cursor) : Option ((Nat × Nat × Nat × Nat) × Cursor) := do
  let (hh, cs) ← num2 false cs
  let cs ← lit ":" cs
  let (mm, cs) ← num2 true cs
  let cs ← lit ":" cs
  let (ss, cs) ← num2 true cs
  let (ns, cs) := fraction cs
  return ((hh, mm, ss, ns), cs)

/-- The instant of checked calendar fields at a UTC offset in seconds. -/
def ofFields (y : Int) (m d hh mm ss ns : Nat) (offset : Int) : Option Instant :=
  if m < 1 || m > 12 || d < 1 || d > daysIn y m || hh > 23 || mm > 59 || ss > 59 then none
  else
    some ⟨daysFromCivil y m d * 86400 + hh * 3600 + mm * 60 + ss - offset, ns⟩

/-! ### HTTP dates -/

/-- One element of a date layout. -/
inductive DatePiece where
  /-- Literal text; a space in it matches a run of spaces, or the end of the text. -/
  | text (s : String)
  | weekday
  | longWeekday
  | month
  /-- The day: two digits, or (space-padded) one or two digits. -/
  | day (twoDigits : Bool)
  /-- A two-character year: 69 to 99 in the 1900s, the rest in the 2000s. -/
  | shortYear
  | year
  | hour
  | minute
  /-- The second, with an optional fraction after `.` or `,`. -/
  | second
  /-- A zone name or offset; it is read but does not move the instant. -/
  | zone
  deriving DecidableEq, Repr

/-- The fields a layout reads. -/
structure DateFields where
  year : Int := 0
  month : Nat := 1
  day : Nat := 0
  hour : Nat := 0
  minute : Nat := 0
  second : Nat := 0
  nanos : Nat := 0
  deriving Repr

/-- The IMF fixed date: `Wed, 01 May 2024 10:00:00 GMT`. -/
def imfLayout : List DatePiece :=
  [.weekday, .text ", ", .day true, .text " ", .month, .text " ", .year, .text " ", .hour,
   .text ":", .minute, .text ":", .second, .text " GMT"]

/-- The RFC 850 date: `Wednesday, 01-May-24 10:00:00 GMT`. -/
def rfc850Layout : List DatePiece :=
  [.longWeekday, .text ", ", .day true, .text "-", .month, .text "-", .shortYear, .text " ",
   .hour, .text ":", .minute, .text ":", .second, .text " ", .zone]

/-- The `asctime` date: `Wed May  1 10:00:00 2024`. -/
def asctimeLayout : List DatePiece :=
  [.weekday, .text " ", .month, .text " ", .day false, .text " ", .hour, .text ":", .minute,
   .text ":", .second, .text " ", .year]

/-- Drops leading spaces. -/
def dropSpaces (cs : Cursor) : Cursor := cs.dropWhile (· == ' ')

/-- Matches literal layout text: characters match themselves, and a run of spaces in the layout
matches a run of spaces in the text, or its end. `inRun` while inside a run of layout spaces
whose text spaces were already taken. -/
def skipText : List Char → Cursor → Bool → Option Cursor
  | [], cs, _ => some cs
  | ' ' :: rest, cs, true => skipText rest cs true
  | ' ' :: rest, cs, false =>
    match cs with
    | c :: _ => if c != ' ' then none else skipText rest (dropSpaces cs) true
    | [] => skipText rest [] true
  | p :: rest, c :: cs, _ => if p == c then skipText rest cs false else none
  | _ :: _, [], _ => none

/-- Reads one or two digits; with `fixed`, exactly two. -/
def digits (fixed : Bool) (cs : Cursor) : Option (Nat × Cursor) := num2 fixed cs

/-- Reads a signed decimal: an optional sign, then digits only. -/
def signedDecimal (cs : List Char) : Option Int :=
  let (neg, body) := match cs with
    | '-' :: r => (true, r)
    | '+' :: r => (false, r)
    | r => (false, r)
  if body.all Char.isDigit then
    let n : Int := body.foldl (fun acc c => acc * 10 + (c.toNat - 48)) 0
    some (if neg then -n else n)
  else none

/-- The length of a signed hour offset at the start of the text (`+3`, `-04`): a sign and digits
worth at most 23; zero when there is none. -/
def offsetLength (cs : Cursor) : Nat :=
  match cs with
  | s :: rest =>
    if s == '+' || s == '-' then
      let ds := rest.takeWhile Char.isDigit
      if ds.isEmpty || ds.foldl (fun acc c => acc * 10 + (c.toNat - 48)) 0 > 23 then 0
      else ds.length + 1
    else 0
  | [] => 0

/-- The length of a zone at the start of the text, if it looks like one: `ChST` or `MeST`; `GMT`
with an optional hour offset; a bare hour offset; three capitals; or four or five capitals
ending in `T` (and `WITA`). -/
def zoneLength (cs : Cursor) : Option Nat :=
  if cs.length < 3 then none
  else if cs.take 4 == "ChST".toList || cs.take 4 == "MeST".toList then some 4
  else if cs.take 3 == "GMT".toList then some (3 + offsetLength (cs.drop 3))
  else if cs.head? == some '+' || cs.head? == some '-' then
    let n := offsetLength cs
    if n > 0 then some n else none
  else
    let upper := ((cs.take 6).takeWhile fun c => 'A' ≤ c && c ≤ 'Z').length
    if upper == 3 then some 3
    else if upper == 4 && (cs.getD 3 ' ' == 'T' || cs.take 4 == "WITA".toList) then some 4
    else if upper == 5 && cs.getD 4 ' ' == 'T' then some 5
    else none

/-- Reads one element of a layout into date fields. -/
def readPiece (piece : DatePiece) (f : DateFields) (cs : Cursor) : Option (DateFields × Cursor) :=
  match piece with
  | .text s => (skipText s.toList cs false).map fun cs => (f, cs)
  | .weekday => (name dayNames cs).map fun (_, cs) => (f, cs)
  | .longWeekday => (name longDayNames cs).map fun (_, cs) => (f, cs)
  | .month => (name monthNames cs).map fun (m, cs) => ({ f with month := m + 1 }, cs)
  | .day twoDigits =>
    let cs := if !twoDigits then (match cs with | ' ' :: r => r | r => r) else cs
    (digits twoDigits cs).map fun (d, cs) => ({ f with day := d }, cs)
  | .shortYear =>
    if cs.length < 2 then none
    else (signedDecimal (cs.take 2)).map fun y =>
      ({ f with year := if y ≥ 69 then y + 1900 else y + 2000 }, cs.drop 2)
  | .year =>
    match cs with
    | c :: _ =>
      if c.isDigit && cs.length ≥ 4 then
        (signedDecimal (cs.take 4)).map fun y => ({ f with year := y }, cs.drop 4)
      else none
    | [] => none
  | .hour =>
    (digits false cs).bind fun (h, cs) => if h ≥ 24 then none else some ({ f with hour := h }, cs)
  | .minute =>
    (digits true cs).bind fun (m, cs) => if m ≥ 60 then none else some ({ f with minute := m }, cs)
  | .second =>
    (digits true cs).bind fun (sec, cs) =>
      if sec ≥ 60 then none
      else
        let (ns, cs) := fraction cs
        some ({ f with second := sec, nanos := ns }, cs)
  | .zone =>
    if cs.take 3 == "UTC".toList then some (f, cs.drop 3)
    else (zoneLength cs).map fun n => (f, cs.drop n)

/-- Reads the text by a layout into date fields, one element after another. -/
def readLayout : List DatePiece → DateFields → Cursor → Option (DateFields × Cursor)
  | [], f, cs => some (f, cs)
  | piece :: rest, f, cs => do
    let (f, cs) ← readPiece piece f cs
    readLayout rest f cs

/-- Reads a text by a layout into an instant: the whole text must be read and the day must exist
in its month. -/
def readDate (layout : List DatePiece) (cs : Cursor) : Option Instant := do
  let (f, rest) ← readLayout layout {} cs
  if !rest.isEmpty then none
  if f.day < 1 || f.day > daysIn f.year f.month then none
  some ⟨daysFromCivil f.year f.month f.day * 86400 + f.hour * 3600 + f.minute * 60 + f.second,
    f.nanos⟩

/-- Reads an HTTP date in any of its three forms. -/
def parseHttpDate (s : String) : Option Instant :=
  let cs := s.toList
  (readDate imfLayout cs).orElse fun _ =>
    (readDate rfc850Layout cs).orElse fun _ => readDate asctimeLayout cs

/-- Reads an RFC 3339 timestamp: `2024-05-01T10:00:00Z` or with a `±hh:mm` offset. -/
def parseRfc3339 (s : String) : Option Instant := do
  let cs := s.toList
  let (y, cs) ← num4 cs
  let cs ← lit "-" cs
  let (m, cs) ← num2 true cs
  let cs ← lit "-" cs
  let (d, cs) ← num2 true cs
  let cs ← lit "T" cs
  let ((hh, mm, ss, ns), cs) ← clock cs
  let (offset, cs) ← match cs with
    | 'Z' :: rest => some (0, rest)
    | sign :: rest =>
      if sign == '+' || sign == '-' then do
        let (oh, rest) ← num2 true rest
        let rest ← lit ":" rest
        let (om, rest) ← num2 true rest
        let o : Int := oh * 3600 + om * 60
        some (if sign == '-' then -o else o, rest)
      else none
    | [] => none
  if !cs.isEmpty then none
  ofFields y m d hh mm ss ns offset

end Instant

/-! ## Calendar readings -/

/-- A calendar date and time of day with the zone it was read in: none for UTC, else a zone
without a name, `offset` seconds east of UTC. -/
structure CivilTime where
  year : Int
  month : Nat
  day : Nat
  hour : Nat := 0
  minute : Nat := 0
  second : Nat := 0
  nanos : Nat := 0
  offset : Option Int := none
  deriving DecidableEq, Repr

namespace CivilTime

/-- The decimal digits of a number, zero-padded to a width. -/
def padded (width n : Nat) : String :=
  let s := toString n
  String.ofList (List.replicate (width - s.length) '0') ++ s

/-- A fraction of a second given in nanoseconds, as `.` and its digits without trailing zeros;
empty for none. -/
def fractionText (ns : Nat) : String :=
  if ns == 0 then ""
  else "." ++ String.ofList ((padded 9 ns).toList.reverse.dropWhile (· == '0')).reverse

/-- An offset in seconds as `+hhmm` or `-hhmm`. -/
def offsetText (o : Int) : String :=
  let m := o.natAbs / 60
  (if o < 0 then "-" else "+") ++ padded 2 (m / 60) ++ padded 2 (m % 60)

/-- The text a time prints as: `2006-01-02 15:04:05.999999999 -0700 MST`, the fraction without
trailing zeros, and a zone without a name written as its offset again. -/
def text (t : CivilTime) : String :=
  let year := (if t.year < 0 then "-" else "") ++ padded 4 t.year.natAbs
  let zone := match t.offset with
    | none => "+0000 UTC"
    | some o => offsetText o ++ " " ++ offsetText o
  year ++ "-" ++ padded 2 t.month ++ "-" ++ padded 2 t.day ++ " " ++ padded 2 t.hour ++ ":" ++
    padded 2 t.minute ++ ":" ++ padded 2 t.second ++ fractionText t.nanos ++ " " ++ zone

end CivilTime

end Harvest
