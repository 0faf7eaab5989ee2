import Harvest.Batch.Crew
/-!
# Harvest.Engine.Callers

Callers of one engine at the same time, each action of the program one atomic step.

Each caller makes one call. A fetch of one locator (`Fetch`, `FetchOne`, `Download`) goes straight
to the fetcher and returns when it answers. A batch (`Start`, `Run`, `RunPending`, over the
engine's pending set or the caller's) first takes the engine's run slot, a channel with room for
one, and waits while another batch holds it; it then runs with a crew of workers
(`Harvest.Crew`), each action of the crew one step of the engine, and gives the slot back once
its batch has answered. A fetch of another caller changes the engine's world between two steps
of the crew.

The crew of a batch has `MaxConcurrency` workers, or the default of ten when that is zero or
less (`crewSize`).
-/

namespace Harvest

namespace Callers

/-- The workers of a batch's crew for a configured `MaxConcurrency`. -/
def crewSize (maxConcurrency : Int) : Nat :=
  if maxConcurrency ≤ 0 then 10 else maxConcurrency.toNat

/-- One call on an engine. -/
inductive Call where
  /-- Fetch one locator, handing the outcome to the observers when `deliver`. -/
  | fetch (u : String) (deliver : Bool)
  /-- Run the batch `batchId` over the pending set `p`, keeping its successes when `collect`. -/
  | batch (batchId : String) (p : Pending) (collect : Bool)
  deriving Repr

/-- Where one caller stands. -/
inductive Caller where
  /-- About to make its call; a batch waits here for the run slot. -/
  | ready (c : Call)
  /-- Its locator is with the fetcher. -/
  | fetching (u : String) (deliver : Bool)
  /-- Holds the run slot while its batch runs. -/
  | running
  /-- Its call has returned. -/
  | done
  deriving Repr

/-- An engine with its callers: the engine's world, where each caller stands, and the batch that
holds the run slot, with its caller and its crew. The crew's own record of the world is the one
it last left; the engine's `world` is the current one. -/
structure Scene (σ : Type) (m n : Nat) where
  world : σ
  callers : Fin m → Caller
  run : Option (Fin m × Crew.State σ n) := none

variable {σ : Type} {m n : Nat}

/-- The engine before any call: its world, and every caller about to make its call. -/
def Scene.initial (world : σ) (calls : Fin m → Call) : Scene σ m n :=
  { world := world, callers := fun i => .ready (calls i) }

/-- Caller `i` moves to `x`. -/
def Scene.move (s : Scene σ m n) (i : Fin m) (x : Caller) : Scene σ m n :=
  { s with callers := fun j => if j = i then x else s.callers j }

variable (hooks : String → BatchHooks σ) (single : σ → String → Bool → σ) (limit : Int)

/-- The atomic actions of an engine and its callers, given the hooks of each batch by its id, what
a fetch of one locator does to the world, and the failure ceiling of every batch. -/
inductive Step : Scene σ m n → Scene σ m n → Prop where
  /-- A caller hands its locator to the fetcher. -/
  | call {s : Scene σ m n} {u : String} {d : Bool} (i : Fin m)
      (hc : s.callers i = .ready (.fetch u d)) :
      Step s (s.move i (.fetching u d))
  /-- The fetcher answers a caller, which returns. -/
  | answer {s : Scene σ m n} {u : String} {d : Bool} (i : Fin m)
      (hc : s.callers i = .fetching u d) :
      Step s { s.move i .done with world := single s.world u d }
  /-- A batch takes the free run slot and starts its crew on the engine's world. -/
  | acquire {s : Scene σ m n} {b : String} {p : Pending} {collect : Bool} (i : Fin m)
      (hc : s.callers i = .ready (.batch b p collect)) (hr : s.run = none) :
      Step s { s.move i .running with run := some (i, Crew.start b p s.world collect limit) }
  /-- The running batch's crew takes a step on the engine's world. -/
  | crew {s : Scene σ m n} {i : Fin m} {c c' : Crew.State σ n} {evs : List Crew.Event}
      (hr : s.run = some (i, c)) (hs : Crew.Step (hooks c.batchId) { c with world := s.world } evs c') :
      Step s { s with world := c'.world, run := some (i, c') }
  /-- The batch has answered: its caller returns, and gives the run slot back. -/
  | release {s : Scene σ m n} {i : Fin m} {c : Crew.State σ n} {r : BatchResult}
      {err : Option FetchError} (hr : s.run = some (i, c)) (hst : c.stage = .returned r err) :
      Step s { s.move i .done with run := none }

/-- The scenes reachable from a scene. -/
inductive Reaches (s₀ : Scene σ m n) : Scene σ m n → Prop where
  | refl : Reaches s₀ s₀
  | step {s s' : Scene σ m n} : Reaches s₀ s → Step hooks single limit s s' → Reaches s₀ s'

end Callers

end Harvest
