/-!
# Harvest.Watchdog

The overall-timeout watchdog of a download, on its paths that never fire.

A watchdog is armed when a download starts. Disarming an armed watchdog makes it disarmed;
disarming answers whether the watchdog had fired, and a disarmed or fired watchdog stays as it
is. A watchdog with a timeout of zero or less is armed but never supervised, so it never fires.
States are numbered 0 (armed), 1 (disarmed) and 2 (fired); every other number names no state.
-/

namespace Harvest

/-- The state of a watchdog. -/
inductive Watchdog where
  | armed
  | disarmed
  | fired
  deriving DecidableEq, Repr

namespace Watchdog

/-- The name of a state. -/
def name : Watchdog → String
  | .armed => "armed"
  | .disarmed => "disarmed"
  | .fired => "fired"

/-- The name of a state number: the state's name, or `unknown`. -/
def nameOfCode (n : Int) : String :=
  if n == 0 then armed.name
  else if n == 1 then disarmed.name
  else if n == 2 then fired.name
  else "unknown"

/-- Whether a watchdog (possibly none at all) has fired. -/
def hasFired : Option Watchdog → Bool
  | some .fired => true
  | _ => false

/-- Disarms a watchdog, if there is one; answers whether it had fired. -/
def disarm : Option Watchdog → Option Watchdog × Bool
  | none => (none, false)
  | some .armed => (some .disarmed, false)
  | some w => (some w, hasFired (some w))

end Watchdog

end Harvest
