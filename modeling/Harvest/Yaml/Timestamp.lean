import Harvest.Time
/-!
# Harvest.Yaml.Timestamp

Plain scalars that read as timestamps.

A timestamp starts with a four-digit year and a dash; the month and the day follow with one or two
digits each. It is a date alone, or a date with a time of day after `T`, `t` or a run of spaces:
hours, minutes and seconds of one or two digits each, and an optional fraction of a second after
`.` or `,` (digits beyond the ninth are read but dropped). After `T` or `t` a zone is required:
`Z` for UTC or `±hh:mm`, with at most 24 hours and 60 minutes; after spaces there is no zone and
the time is UTC. Fields must lie in their ranges, the day must exist in its month, and nothing
may follow.
-/

namespace Harvest

namespace Yaml

open Instant (num2 num4 lit fraction skipText daysIn)

/-- Reads a time of day: hours below 24, minutes and seconds below 60, one or two digits each,
and an optional fraction of a second. Gives hours, minutes, seconds and nanoseconds. -/
def clockOf (cs : List Char) : Option ((Nat × Nat × Nat × Nat) × List Char) := do
  let (h, cs) ← num2 false cs
  if h ≥ 24 then none
  let cs ← lit ":" cs
  let (m, cs) ← num2 false cs
  if m ≥ 60 then none
  let cs ← lit ":" cs
  let (s, cs) ← num2 false cs
  if s ≥ 60 then none
  let (ns, cs) := fraction cs
  return ((h, m, s, ns), cs)

/-- Reads a zone: `Z`, or a sign and `hh:mm` with at most 24 hours and 60 minutes. Gives the
offset east of UTC in seconds, none for UTC (and for a zero offset). -/
def zoneOf (cs : List Char) : Option (Option Int × List Char) :=
  match cs with
  | 'Z' :: rest => some (none, rest)
  | _ => do
    if cs.length < 6 || cs.getD 3 ' ' != ':' then none
    let (h, _) ← num2 true ((cs.drop 1).take 2)
    let (m, _) ← num2 true ((cs.drop 4).take 2)
    if h > 24 || m > 60 then none
    let o : Int := ((h * 60 + m) * 60 : Nat)
    let offset : Option Int := if o == 0 then none else some o
    match cs.head? with
    | some '+' => some (offset, cs.drop 6)
    | some '-' => some (offset.map (- ·), cs.drop 6)
    | _ => none

/-- Reads a plain scalar as a timestamp, if it is one. -/
def parseTimestamp (s : String) : Option CivilTime := do
  let (y, cs) ← num4 s.toList
  let cs ← lit "-" cs
  let (mo, cs) ← num2 false cs
  if mo < 1 || mo > 12 then none
  let cs ← lit "-" cs
  let (d, cs) ← num2 false cs
  let date : CivilTime := { year := y, month := mo, day := d }
  let t ← match cs with
    | [] => some date
    | c :: rest =>
      if c == 'T' || c == 't' then do
        let ((hour, minute, second, nanos), rest) ← clockOf rest
        let (offset, rest) ← zoneOf rest
        if !rest.isEmpty then none
        some { date with hour, minute, second, nanos, offset }
      else if c == ' ' then do
        let rest ← skipText [' '] cs false
        let ((hour, minute, second, nanos), rest) ← clockOf rest
        if !rest.isEmpty then none
        some { date with hour, minute, second, nanos }
      else none
  if t.day < 1 || t.day > daysIn t.year t.month then none
  return t

end Yaml

end Harvest
