import Harvest.Proxy.Endpoint
/-!
# Harvest.Proxy.Ring

The proxy ring: the live proxy endpoints in turn order, the endpoints evicted for good, and the
cadence that moves the turn on after a number of successes.

The head of the ring is the endpoint requests go through. A *disabled* ring sends requests
direct: a ring built without endpoints starts disabled, evicting its last endpoint disables it, and
adding an endpoint enables it again unless an endpoint was ever evicted. *Rotating* moves the head to the back (a ring of fewer than two endpoints stays as it is)
and restarts the success count. *Rotating away* from an endpoint rotates only when that endpoint
is the head, so several reports of one failure move the ring once. *Evicting* removes an
endpoint for good; an evicted endpoint is never added again, and once the ring has been emptied
by eviction nothing can be added.

With a cadence of `n > 0`, the `n`-th success reported for the head since the count last
restarted makes the ring look for the next live endpoint: the endpoints after the head are probed
in turn, those that fail the probe are evicted, and the first live one becomes the head.
-/

namespace Harvest

/-- How the liveness of an endpoint is learned: assumed without asking, or probed, where the
probe answers yes exactly for the listed endpoints and every probe is recorded. -/
inductive Liveness where
  | assumed
  | probed (alive : List Endpoint)
  deriving DecidableEq, Repr

/-- Asks about one endpoint: its liveness and the endpoints probed in asking. -/
def Liveness.ask (l : Liveness) (e : Endpoint) : Bool × List Endpoint :=
  match l with
  | .assumed => (true, [])
  | .probed alive => (alive.contains e, [e])

/-- The proxy ring. -/
structure Ring where
  /-- Live endpoints in turn order, head first. -/
  members : List Endpoint
  /-- Endpoints evicted for good, in eviction order. -/
  evicted : List Endpoint
  /-- Whether requests go direct. -/
  disabled : Bool
  /-- Successes reported for the head since the count last restarted. -/
  successes : Nat
  /-- Successes per turn; zero or less never moves the turn on. -/
  cadence : Int
  deriving DecidableEq, Repr

namespace Ring

/-- Keeps the first occurrence of every non-zero endpoint. -/
def distinctNonZero : List Endpoint → List Endpoint → List Endpoint
  | [], _ => []
  | e :: rest, seen =>
    if e.isZero || seen.contains e then distinctNonZero rest seen
    else e :: distinctNonZero rest (e :: seen)

/-- A ring over the given endpoints, duplicates and zero endpoints dropped. -/
def build (endpoints : List Endpoint) (cadence : Int) : Ring :=
  let members := distinctNonZero endpoints []
  ⟨members, [], members.isEmpty, 0, cadence⟩

/-- Whether requests go through a proxy. -/
def active (r : Ring) : Bool := !r.disabled

/-- The endpoint requests currently go through. -/
def head? (r : Ring) : Option Endpoint := if r.disabled then none else r.members.head?

/-- Moves the head to the back and restarts the success count; fewer than two endpoints stay. -/
def rotate (r : Ring) : Ring :=
  match r.members with
  | h :: t@(_ :: _) => { r with members := t ++ [h], successes := 0 }
  | _ => r

/-- Rotates when the failed endpoint is the head. -/
def rotateAway (r : Ring) (failed : Endpoint) : Ring :=
  if r.head? == some failed then r.rotate else r

/-- Evicts an endpoint of the ring, disabling the ring when it was the last; says whether it was
there. -/
def evict (r : Ring) (e : Endpoint) : Ring × Bool :=
  if r.members.contains e then
    ({ r with members := r.members.erase e, evicted := r.evicted ++ [e],
              disabled := r.disabled || (r.members.erase e).isEmpty }, true)
  else (r, false)

/-- Evicts the given endpoints in turn. -/
def evictAll (r : Ring) (ds : List Endpoint) : Ring := ds.foldl (fun acc e => (acc.evict e).1) r

/-- Turns the ring so that its endpoint at place `i` becomes the head, and restarts the success
count. -/
def turn (r : Ring) (i : Nat) : Ring :=
  { r with members := r.members.drop i ++ r.members.take i, successes := 0 }

/-- Adds an endpoint at the back and enables the ring; refused for the zero endpoint, an evicted
or present one, and for a disabled ring that has evicted an endpoint. -/
def add (r : Ring) (e : Endpoint) : Ring × Bool :=
  if e.isZero || r.evicted.contains e then (r, false)
  else if r.disabled && !r.evicted.isEmpty then (r, false)
  else if r.members.contains e then (r, false)
  else ({ r with members := r.members ++ [e], disabled := false }, true)

/-- Probes candidates in order up to the first live one: the dead ones before it, the live one,
and every endpoint probed. -/
def findLive (l : Liveness) : List Endpoint → List Endpoint × Option Endpoint × List Endpoint
  | [] => ([], none, [])
  | e :: rest =>
    let (alive, asked) := l.ask e
    if alive then ([], some e, asked)
    else
      let (dead, next, asked') := findLive l rest
      (e :: dead, next, asked ++ asked')

/-- Reports a success through `used`; returns the ring and the endpoints probed. -/
def recordSuccess (r : Ring) (l : Liveness) (used : Endpoint) : Ring × List Endpoint :=
  if r.head? != some used then (r, [])
  else
    let count := r.successes + 1
    if r.cadence ≤ 0 || (count : Int) < r.cadence then ({ r with successes := count }, [])
    else
      let r := { r with successes := 0 }
      let (dead, next, asked) := findLive l r.members.tail
      let r := r.evictAll dead
      match next with
      | none => (r, asked)
      | some n =>
        if r.head? != some used then (r, asked)
        else
          match r.members.findIdx? (· == n) with
          | some i => if i == 0 then (r, asked) else (r.turn i, asked)
          | none => (r, asked)

/-! ## Scripted use -/

/-- One operation on a ring. -/
inductive Command where
  | current
  | rotate
  | rotateAway (e : Endpoint)
  | evict (e : Endpoint)
  | add (e : Endpoint)
  | probe (e : Endpoint)
  | recordSuccess (e : Endpoint)
  | active
  | state
  deriving DecidableEq, Repr

/-- What an operation answers. -/
inductive Reply where
  /-- The head after the operation, if any. -/
  | head (e : Option Endpoint)
  | flag (b : Bool)
  | nothing
  deriving DecidableEq, Repr

/-- Runs one operation on a ring that may be missing; a missing ring answers "no head", `false`,
and `true` for a probe, and never changes. Returns the ring, the answer and the endpoints
probed. -/
def exec (l : Liveness) : Option Ring → Command → Option Ring × Reply × List Endpoint
  | none, .current => (none, .head none, [])
  | none, .rotate => (none, .head none, [])
  | none, .rotateAway _ => (none, .head none, [])
  | none, .evict _ => (none, .flag false, [])
  | none, .add _ => (none, .flag false, [])
  | none, .probe _ => (none, .flag true, [])
  | none, .recordSuccess _ => (none, .nothing, [])
  | none, .active => (none, .flag false, [])
  | none, .state => (none, .nothing, [])
  | some r, .current => (some r, .head r.head?, [])
  | some r, .rotate => let r := r.rotate; (some r, .head r.head?, [])
  | some r, .rotateAway e => let r := r.rotateAway e; (some r, .head r.head?, [])
  | some r, .evict e => let (r, ok) := r.evict e; (some r, .flag ok, [])
  | some r, .add e => let (r, ok) := r.add e; (some r, .flag ok, [])
  | some r, .probe e => let (ok, asked) := l.ask e; (some r, .flag ok, asked)
  | some r, .recordSuccess e => let (r, asked) := r.recordSuccess l e; (some r, .nothing, asked)
  | some r, .active => (some r, .flag r.active, [])
  | some r, .state => (some r, .nothing, [])

end Ring

end Harvest
