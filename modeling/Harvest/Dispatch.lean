/-!
# Harvest.Dispatch

Handing an outcome to every registered observer.

A dispatcher holds its observers in registration order; registering an absent observer does
nothing. Observers are called once each, in registration order, whatever earlier ones answer. The
dispatch fails when some observer fails; its message lists the failures in order, one per line,
each as `observer <i>: <message>` where `i` counts registered observers from zero.
-/

namespace Harvest

namespace Dispatch

/-- The failure lines of the observers' answers, in order. -/
def failureLines (answers : List (Option String)) : List String :=
  answers.zipIdx.filterMap fun (a, i) => a.map fun msg => "observer " ++ toString i ++ ": " ++ msg

/-- The joined failure of a dispatch, if some observer failed. -/
def joined (answers : List (Option String)) : Option String :=
  match failureLines answers with
  | [] => none
  | lines => some ("\n".intercalate lines)

/-- Calls every observer in order and joins their failures. -/
def run {m : Type → Type} [Monad m] {α : Type} (observers : List (α → m (Option String)))
    (x : α) : m (Option String) := do
  let answers ← observers.mapM fun obs => obs x
  return joined answers

end Dispatch

/-- A dispatcher: its observers, in the order they were registered. -/
structure Dispatcher (ω : Type) where
  observers : List ω := []

namespace Dispatcher

variable {ω : Type}

/-- Adds an observer after the others; an absent observer is ignored. -/
def register (d : Dispatcher ω) : Option ω → Dispatcher ω
  | some obs => ⟨d.observers ++ [obs]⟩
  | none => d

/-- A dispatcher with an initial set of observers, registered one after another. -/
def new (observers : List (Option ω)) : Dispatcher ω := observers.foldl register {}

/-- The number of registered observers. -/
def len (d : Dispatcher ω) : Nat := d.observers.length

/-- Hands a value to every registered observer in order; answers the joined failure. -/
def dispatch {m : Type → Type} [Monad m] {α : Type} (d : Dispatcher (α → m (Option String)))
    (x : α) : m (Option String) :=
  Dispatch.run d.observers x

end Dispatcher

end Harvest
