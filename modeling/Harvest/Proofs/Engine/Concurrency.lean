import Mathlib.Algebra.BigOperators.Fin
import Mathlib.Data.BitVec
import Mathlib.Data.Fin.VecNotation
import Harvest.Engine.Callers
import Harvest.Proofs.Batch.Crew
import Harvest.Proofs.Engine.Books
/-!
# Harvest.Proofs.Engine.Concurrency

What an engine has at work when any number of callers use it at once, each action of the program
one atomic step (`Harvest.Callers`).

The run slot admits one batch at a time and a batch has a crew of `crewSize` workers, so the
workers at work on a fetch are never more than the crew. The worker gauge moves by one when a
worker starts on a locator and back by one when it finishes with it, and nothing else moves it
(`BatchHooks.Gauged`); so it stands above where it stood before any call by the number of active
workers of the running batch (`Crew.Step.gauge`, `Callers.Gauge.step`), and by none once that
batch has answered, its workers having all gone (`Crew.Gone`). Over every interleaving of the
callers of an engine it thus exceeds its start by at most the crew
(`Engine.callers_within_crew`).

A fetch of one locator takes no slot: each caller fetching one locator has a fetch at work beside
the crew's, and two such callers of an engine whose crew is one worker have two fetches at work at
once (`Engine.single_fetches_overlap`).
-/

namespace Harvest

variable {σ : Type}

/-- Hooks that move a gauge of the world, valued in a group, up by one when a worker starts and
down by one when it finishes, and that leave it alone otherwise. -/
structure BatchHooks.Gauged {G : Type} [AddCommGroupWithOne G] (h : BatchHooks σ) (g : σ → G) :
    Prop where
  started : ∀ w, g (h.workerStarted w) = g w + 1
  finished : ∀ w, g (h.workerFinished w) = g w - 1
  fetch : ∀ w u, g (h.fetch w u).1 = g w
  deliver : ∀ w out, g (h.deliver w out).1 = g w
  batchFailure : ∀ w, g (h.batchFailure w) = g w

namespace Crew

variable {n : Nat}

namespace Hand

/-- Whether a worker is active: started on a locator and not yet finished with it. -/
def active : Hand → Nat
  | started _ | limiting _ | fetching _ | fetched .. | recording .. | delivering _ => 1
  | _ => 0

/-- Whether a worker's locator is with the fetcher. -/
def inFetch : Hand → Nat
  | fetching _ => 1
  | _ => 0

theorem active_le_one (x : Hand) : x.active ≤ 1 := by
  cases x <;> simp [active]

theorem inFetch_le_one (x : Hand) : x.inFetch ≤ 1 := by
  cases x <;> simp [inFetch]

end Hand

/-! ## The gauge of one run -/

section Gauge

variable {G : Type} [AddCommGroupWithOne G] {g : σ → G}

/-- When one worker moves and the world moves with it as the worker's activity does, the gauge
less the active workers stays where it was. -/
theorem gauge_set {s : State σ n} {i : Fin n} {y : Hand} {W : σ}
    (hW : g W + (((s.hands i).active : Nat) : G) = g s.world + ((y.active : Nat) : G)) :
    g W + ((load Hand.active s.hands : Nat) : G) =
      g s.world + ((load Hand.active (s.set i y).hands : Nat) : G) := by
  have hset : ((load Hand.active (s.set i y).hands : Nat) : G) +
      (((s.hands i).active : Nat) : G) =
      ((load Hand.active s.hands : Nat) : G) + ((y.active : Nat) : G) := by
    rw [← Nat.cast_add, ← Nat.cast_add, load_set]
  have hg : g W = g s.world + ((y.active : Nat) : G) - (((s.hands i).active : Nat) : G) :=
    eq_sub_of_add_eq hW
  have hl : ((load Hand.active s.hands : Nat) : G) =
      ((load Hand.active (s.set i y).hands : Nat) : G) + (((s.hands i).active : Nat) : G) -
        ((y.active : Nat) : G) :=
    eq_sub_of_add_eq hset.symm
  rw [hg, hl]
  abel

/-- Every step keeps the gauge less the active workers: a worker that starts raises both, one that
finishes lowers both, and every other step moves neither. -/
theorem Step.gauge {h : BatchHooks σ} (hg : h.Gauged g) {s s' : State σ n} {evs : List Event}
    (hs : Step h s evs s') :
    g s'.world + ((load Hand.active s.hands : Nat) : G) =
      g s.world + ((load Hand.active s'.hands : Nat) : G) := by
  cases hs with
  | hand i _ hw => exact gauge_set (by simp [hw, Hand.active])
  | leave i hw _ => exact gauge_set (by simp [hw, Hand.active])
  | receivedAborted i hw _ => exact gauge_set (by simp [hw, Hand.active])
  | receivedGoesOn i hw _ => exact gauge_set (by simp [hw, Hand.active])
  | clearedStopped i hw _ => exact gauge_set (by simp [hw, Hand.active])
  | begin i hw _ => exact gauge_set (by simp [hw, Hand.active, hg.started])
  | refuse i hw _ => exact gauge_set (by simp [hw, Hand.active])
  | permit i hw _ => exact gauge_set (by simp [hw, Hand.active])
  | attempt i hw => exact gauge_set (by simp [hw, Hand.active])
  | limiterStopped i hw _ => exact gauge_set (by simp [hw, Hand.active, hg.finished])
  | @fetchReturns u w out err i hw hf =>
    have hkeep := hg.fetch s.world u
    rw [hf] at hkeep
    exact gauge_set (by simp [hw, Hand.active, hkeep])
  | fetchedStopped i hw _ => exact gauge_set (by simp [hw, Hand.active, hg.finished])
  | fetchedGoesOn i hw _ => exact gauge_set (by simp [hw, Hand.active])
  | succeed i hw _ => exact gauge_set (by simp [hw, Hand.active])
  | ignore i hw _ => exact gauge_set (by simp [hw, Hand.active])
  | fetcherRefused i hw _ => exact gauge_set (by simp [hw, Hand.active])
  | fail i hw _ _ => exact gauge_set (by simp [hw, Hand.active, hg.batchFailure])
  | trip i hw _ _ _ =>
    exact gauge_set (by simp [hw, Hand.active, hg.finished, hg.batchFailure])
  | failAfterAbort i hw _ _ =>
    exact gauge_set (by simp [hw, Hand.active, hg.finished, hg.batchFailure])
  | @deliver out w calls i hw hd =>
    have hkeep := hg.deliver s.world out
    rw [hd] at hkeep
    exact gauge_set (by simp [hw, Hand.active, hg.finished, hkeep])
  | add i hw _ => exact gauge_set (by simp [hw, Hand.active])
  | finish i hw => exact gauge_set (by simp [hw, Hand.active])
  | _ => rfl

end Gauge

/-! ## A run's workers are gone once it settles -/

/-- No worker moves once it has gone. -/
theorem Move.not_from_exited {ab st : Bool} {evs : List Event} {y : Hand}
    (hm : Move ab st .exited evs y) : False := by
  cases hm

/-- The run is still draining, or every worker of its crew has gone. -/
def Gone (s : State σ n) : Prop := s.stage = .draining ∨ ∀ j, s.hands j = .exited

/-- A run about to start is draining. -/
theorem gone_start (b : String) (p : Pending) (w : σ) (collect : Bool) (limit : Int) :
    Gone (start b p w collect limit : State σ n) :=
  .inl rfl

/-- Every step keeps `Gone`: a draining run drains on, or settles once every worker has gone, and
no worker moves once it has gone. -/
theorem Step.gone {h : BatchHooks σ} {s s' : State σ n} {evs : List Event} (hs : Step h s evs s')
    (hg : Gone s) : Gone s' := by
  rcases hg with hd | hx
  · cases hs with
    | settle _ _ hw => exact .inr hw
    | answer hst => rw [hd] at hst; cases hst
    | _ => exact .inl hd
  · rcases hs.moves with ⟨heq, -⟩ | ⟨i, y, -, hm⟩
    · exact .inr (by rw [heq]; exact hx)
    · rw [hx i] at hm
      exact hm.not_from_exited.elim

/-- A run that has answered has no worker left. -/
theorem Gone.exited_of_returned {s : State σ n} (hg : Gone s) {r : BatchResult}
    {err : Option FetchError} (hst : s.stage = .returned r err) : ∀ j, s.hands j = .exited := by
  rcases hg with hd | hx
  · rw [hd] at hst
    cases hst
  · exact hx

/-- A crew that has gone has no active worker. -/
theorem load_active_exited {hands : Fin n → Hand} (hx : ∀ j, hands j = .exited) :
    load Hand.active hands = 0 := by
  simp [load, hx, Hand.active]

/-- A crew about to start has no active worker. -/
theorem load_active_start (b : String) (p : Pending) (w : σ) (collect : Bool) (limit : Int) :
    load Hand.active (start b p w collect limit : State σ n).hands = 0 := by
  simp [load, start, Hand.active]

end Crew

namespace Callers

variable {m n : Nat}

/-- Whether a caller's locator is with the fetcher. -/
def Caller.inFetch : Caller → Nat
  | .fetching .. => 1
  | _ => 0

namespace Scene

/-- A weight summed over the crew of the running batch; nothing when no batch runs. -/
def crewLoad (c : Crew.Hand → Nat) (s : Scene σ m n) : Nat :=
  match s.run with
  | none => 0
  | some (_, r) => Crew.load c r.hands

/-- The callers whose locator is with the fetcher. -/
def singleFetches (s : Scene σ m n) : Nat := ∑ i, (s.callers i).inFetch

/-- The fetches at work: those of the callers fetching one locator, and those of the running
batch's workers. -/
def fetches (s : Scene σ m n) : Nat := s.singleFetches + s.crewLoad Crew.Hand.inFetch

/-- A weight of at most one is summed to at most the crew. -/
theorem crewLoad_le {c : Crew.Hand → Nat} (hc : ∀ x, c x ≤ 1) (s : Scene σ m n) :
    s.crewLoad c ≤ n := by
  unfold crewLoad
  split
  · exact Nat.zero_le n
  · exact Crew.load_le hc _

@[simp] theorem move_world (s : Scene σ m n) (i : Fin m) (x : Caller) :
    (s.move i x).world = s.world := rfl

@[simp] theorem move_run (s : Scene σ m n) (i : Fin m) (x : Caller) :
    (s.move i x).run = s.run := rfl

theorem move_callers_ne (s : Scene σ m n) {i j : Fin m} (x : Caller) (hji : j ≠ i) :
    (s.move i x).callers j = s.callers j := by
  simp [move, hji]

end Scene

/-! ## The gauge over every interleaving of the callers -/

section Gauge

variable {G : Type} [AddCommGroupWithOne G] {g : σ → G} {hooks : String → BatchHooks σ}
  {single : σ → String → Bool → σ} {limit : Int}

/-- The gauge stands above `g₀` by the active workers of the running batch, whose crew is still
draining or has gone. -/
structure Gauge (g : σ → G) (g₀ : G) (s : Scene σ m n) : Prop where
  gauge : g s.world = g₀ + ((s.crewLoad Crew.Hand.active : Nat) : G)
  gone : ∀ i c, s.run = some (i, c) → Crew.Gone c

/-- While a batch runs, the gauge stands above `g₀` by its crew's active workers. -/
theorem Gauge.of_running {g₀ : G} {s : Scene σ m n} (hi : Gauge g g₀ s) {i : Fin m}
    {c : Crew.State σ n} (hr : s.run = some (i, c)) :
    g s.world = g₀ + ((Crew.load Crew.Hand.active c.hands : Nat) : G) := by
  simpa only [Scene.crewLoad, hr] using hi.gauge

/-- Before any call no batch runs, and the gauge stands where it stands. -/
theorem Gauge.initial (g : σ → G) (w : σ) (calls : Fin m → Call) :
    Gauge g (g w) (Scene.initial w calls : Scene σ m n) where
  gauge := by simp [Scene.initial, Scene.crewLoad]
  gone := fun _ _ h => by cases h

/-- Every step of an engine with its callers keeps `Gauge`, when the batches' hooks move the gauge
as workers start and finish and a fetch of one locator leaves it alone. -/
theorem Gauge.step (hg : ∀ b, (hooks b).Gauged g) (hsingle : ∀ w u d, g (single w u d) = g w)
    {g₀ : G} {s s' : Scene σ m n} (hi : Gauge g g₀ s) (hs : Step hooks single limit s s') :
    Gauge g g₀ s' := by
  cases hs with
  | call i hc => exact ⟨by simpa [Scene.crewLoad] using hi.gauge, by simpa using hi.gone⟩
  | answer i hc =>
    refine ⟨?_, by simpa using hi.gone⟩
    simpa [Scene.crewLoad, hsingle] using hi.gauge
  | acquire i hc hr =>
    -- the batch starts with every worker idle
    refine ⟨?_, ?_⟩
    · have h0 := hi.gauge
      simp only [Scene.crewLoad, hr] at h0
      simp [Scene.crewLoad, Crew.load_active_start, h0]
    · intro j c hrun
      simp only [Option.some.injEq, Prod.mk.injEq] at hrun
      rw [← hrun.2]
      exact Crew.gone_start _ _ _ _ _
  | @crew i c c' evs hr hcs =>
    -- the crew moves the gauge as its workers' activity
    have h0 := hi.of_running hr
    have hstep := Crew.Step.gauge (hg c.batchId) hcs
    refine ⟨?_, ?_⟩
    · simp only [Scene.crewLoad]
      have hw : g c'.world = g s.world + ((Crew.load Crew.Hand.active c'.hands : Nat) : G) -
          ((Crew.load Crew.Hand.active c.hands : Nat) : G) := eq_sub_of_add_eq hstep
      rw [hw, h0]
      abel
    · intro j d hrun
      simp only [Option.some.injEq, Prod.mk.injEq] at hrun
      rw [← hrun.2]
      exact Crew.Step.gone hcs (hi.gone i c hr)
  | @release i c r err hr hst =>
    -- the batch has answered: its workers have all gone, and none is active
    refine ⟨?_, fun _ _ h => by cases h⟩
    have h0 := hi.of_running hr
    rw [Crew.load_active_exited ((hi.gone i c hr).exited_of_returned hst)] at h0
    simpa [Scene.crewLoad] using h0

/-- Every scene reached keeps `Gauge`. -/
theorem Reaches.gauge (hg : ∀ b, (hooks b).Gauged g) (hsingle : ∀ w u d, g (single w u d) = g w)
    {g₀ : G} {s₀ s : Scene σ m n} (hr : Reaches hooks single limit s₀ s) (h₀ : Gauge g g₀ s₀) :
    Gauge g g₀ s := by
  induction hr with
  | refl => exact h₀
  | step _ hs ih => exact ih.step hg hsingle hs

end Gauge

end Callers

/-! ## An engine's worker gauge -/

namespace Engine

variable {τ : Type} (e : Engine τ)

/-- Recording downloads leaves the worker gauge alone. -/
theorem recordAll_activeWorkers (c : Counters) (t : Totals) (outs : List Outcome) :
    (c.recordAll t outs).1.activeWorkers = c.activeWorkers := by
  rw [Counters.recordAll_eq]

/-- A world whose books are another's with some downloads recorded has its worker gauge. -/
theorem activeWorkers_of_ledger {w w' : World τ} {outs : List Outcome}
    (h : w'.ledger = w.counters.recordAll w.totals outs) :
    w'.counters.activeWorkers = w.counters.activeWorkers := by
  have hc := congrArg Prod.fst h
  simp only [World.ledger] at hc
  rw [hc, recordAll_activeWorkers]

/-- The attempt loop leaves the worker gauge alone. -/
theorem attemptAll_activeWorkers (w : World τ) (url : String) (cond : Conditional)
    (canceled : Bool) :
    (e.attemptAll w url cond canceled).1.counters.activeWorkers = w.counters.activeWorkers :=
  activeWorkers_of_ledger (e.attemptAll_ledger w url cond canceled)

/-- A fetch of one locator leaves the worker gauge alone. -/
theorem fetch_activeWorkers (w : World τ) (url : String) (cond : Conditional)
    (deliver canceled : Bool) :
    (e.fetch w url cond deliver canceled).1.counters.activeWorkers = w.counters.activeWorkers :=
  activeWorkers_of_ledger (e.fetch_ledger w url cond deliver canceled)

/-- The hooks of every batch of an engine move the worker gauge by the workers alone. -/
theorem batchHooks_gauged (batchId : String) (callback : Option (Outcome → List String)) :
    (e.batchHooks batchId callback).Gauged fun p => p.1.counters.activeWorkers.toBitVec where
  started _ := by simp [batchHooks, Counters.workerStarted]
  finished _ := by simp [batchHooks, Counters.workerFinished]
  fetch p u := by
    simp only [batchHooks]
    rw [e.attemptAll_activeWorkers]
  deliver p out := by
    have hd := congrArg Prod.fst (e.dispatch_ledger p.1 batchId out)
    simp only [World.ledger] at hd
    simp only [batchHooks]
    cases callback <;> simp [hd]
  batchFailure _ := by simp [batchHooks, Counters.batchFailure]

/-- A gauge that stands a number of workers above its start, read back as a counter. -/
theorem activeWorkers_of_toBitVec {a a₀ : Int64} {k : Nat}
    (h : a.toBitVec = a₀.toBitVec + (k : BitVec 64)) : a = a₀ + Int64.ofNat k := by
  apply Int64.toBitVec_inj.1
  rw [h, Int64.toBitVec_add]
  congr 1

end Engine

namespace Callers

variable {τ : Type} {m n : Nat}

/-- What an engine shows at a scene whose batches have crews of `n` workers, its worker gauge
having stood at `a₀` before any call. -/
structure WithinCrew (a₀ : Int64) (s : Scene (World τ × List Outcome) m n) : Prop where
  /-- The running batch's workers at work on a fetch are at most the crew. -/
  crewFetches : s.crewLoad Crew.Hand.inFetch ≤ n
  /-- The fetches at work exceed the crew by at most the callers fetching one locator. -/
  fetches : s.fetches ≤ n + s.singleFetches
  /-- The worker gauge stands above its start by the running batch's active workers, at most the
  crew. -/
  gauge : ∃ k ≤ n, s.world.1.counters.activeWorkers = a₀ + Int64.ofNat k
  /-- From zero, the worker gauge never exceeds the crew. -/
  fresh : a₀ = 0 → n < 2 ^ 63 → s.world.1.counters.activeWorkers.toInt ≤ n

end Callers

namespace Engine

variable {τ : Type} {m : Nat} (e : Engine τ)

/-- Any number of callers of one engine at once, in any interleaving of their steps, each batch
with a crew of `crewSize mc` workers and any callbacks: every scene reached is `WithinCrew` the
worker gauge the engine had before any call. -/
theorem callers_within_crew (cbs : String → Option (Outcome → List String)) (mc : Int)
    (w₀ : World τ) (calls : Fin m → Callers.Call)
    {s : Callers.Scene (World τ × List Outcome) m (Callers.crewSize mc)}
    (hs : Callers.Reaches (fun b => e.batchHooks b (cbs b))
      (fun p u d => ((e.fetch p.1 u {} d false).1, p.2)) e.config.maxFailures
      (Callers.Scene.initial (w₀, []) calls) s) :
    Callers.WithinCrew w₀.counters.activeWorkers s := by
  have hsingle : ∀ (p : World τ × List Outcome) u d,
      ((e.fetch p.1 u {} d false).1, p.2).1.counters.activeWorkers.toBitVec =
        p.1.counters.activeWorkers.toBitVec := fun p u d => by
    rw [e.fetch_activeWorkers]
  have hg := Callers.Reaches.gauge (fun b => e.batchHooks_gauged b (cbs b)) hsingle hs
    (Callers.Gauge.initial _ (w₀, []) calls)
  have hk := s.crewLoad_le Crew.Hand.active_le_one
  have haw := activeWorkers_of_toBitVec hg.gauge
  refine ⟨s.crewLoad_le Crew.Hand.inFetch_le_one, ?_, ⟨_, hk, haw⟩, fun h0 hn => ?_⟩
  · have := s.crewLoad_le Crew.Hand.inFetch_le_one
    unfold Callers.Scene.fetches
    omega
  · rw [haw, h0, Int64.zero_add, Int64.toInt_ofNat_of_lt (by omega)]
    exact_mod_cast hk

/-- An engine with the default settings over the scripted transport. -/
def scripted : Engine Http.Script := { config := {}, transport := Http.Script.transport }

/-- A batch caller and a fetch caller at work together: the batch's one worker has started on its
locator while the other caller fetches, and the scene is still within the crew. -/
theorem callers_within_crew_batch_beside_fetch :
    ∃ s : Callers.Scene (World Http.Script × List Outcome) 2 (Callers.crewSize 1),
      Callers.Reaches (fun b => scripted.batchHooks b none)
        (fun p u d => ((scripted.fetch p.1 u {} d false).1, p.2)) scripted.config.maxFailures
        (Callers.Scene.initial (scripted.initial {} {} Instant.zero, [])
          ![.batch "b" ⟨[("http://e.com/a", "http://e.com/a")]⟩ false,
            .fetch "http://e.com/b" false]) s ∧
      s.singleFetches = 1 ∧ s.crewLoad Crew.Hand.active = 1 ∧
      Callers.WithinCrew (scripted.initial {} {} Instant.zero).counters.activeWorkers s := by
  let H := fun b => scripted.batchHooks b none
  let F := fun (p : World Http.Script × List Outcome) u d =>
    ((scripted.fetch p.1 u {} d false).1, p.2)
  let L := scripted.config.maxFailures
  let a := "http://e.com/a"
  let i : Fin (Callers.crewSize 1) := ⟨0, by decide⟩
  let s₀ : Callers.Scene (World Http.Script × List Outcome) 2 (Callers.crewSize 1) :=
    Callers.Scene.initial (scripted.initial {} {} Instant.zero, [])
      ![.batch "b" ⟨[(a, a)]⟩ false, .fetch "http://e.com/b" false]
  -- the first caller takes the run slot, and the second hands its locator to the fetcher
  let c₀ : Crew.State (World Http.Script × List Outcome) (Callers.crewSize 1) :=
    Crew.start "b" ⟨[(a, a)]⟩ s₀.world false L
  let s₁ := { s₀.move 0 .running with run := some (0, c₀) }
  have h₁ : Callers.Step H F L s₀ s₁ := .acquire 0 rfl rfl
  let s₂ := s₁.move 1 (.fetching "http://e.com/b" false)
  have h₂ : Callers.Step H F L s₁ s₂ :=
    .call 1 (by rw [Callers.Scene.move_callers_ne _ _ (by decide)]; rfl)
  -- meanwhile the batch's feeder takes the one locator and hands it to the worker, who starts;
  -- the scene is `s₂` with the crew at `c`
  let running := fun c : Crew.State (World Http.Script × List Outcome) (Callers.crewSize 1) =>
    ({ s₂ with world := c.world, run := some (0, c) } :
      Callers.Scene (World Http.Script × List Outcome) 2 (Callers.crewSize 1))
  let c₁ := { c₀ with feeder := .pop }
  have h₃ : Callers.Step H F L s₂ (running c₁) := .crew rfl (.feederGoesOn rfl rfl)
  let c₂ := { c₁ with pending := ⟨[]⟩, feeder := .offering a,
                      tally := c₁.tally.dispatch (Locator.key a) }
  have h₄ : Callers.Step H F L (running c₁) (running c₂) :=
    .crew rfl (.popNew rfl rfl (by simp [c₁, c₀, Crew.start]))
  let c₃ := { c₂.set i (.received a) with feeder := .loop }
  have h₅ : Callers.Step H F L (running c₂) (running c₃) := .crew rfl (.hand i rfl rfl)
  let c₄ := c₃.set i (.cleared a)
  have h₆ : Callers.Step H F L (running c₃) (running c₄) :=
    .crew rfl (.receivedGoesOn i (by simp [c₃, Crew.State.set]) rfl)
  let c₅ := { c₄.set i (.started a) with world := (H "b").workerStarted c₄.world }
  have h₇ : Callers.Step H F L (running c₄) (running c₅) :=
    .crew rfl (.begin i (by simp [c₄, Crew.State.set]) rfl)
  have hr := ((((((Callers.Reaches.refl.step h₁).step h₂).step h₃).step h₄).step h₅).step h₆).step h₇
  refine ⟨_, hr, ?_, ?_, callers_within_crew scripted (fun _ => none) 1 _ _ hr⟩
  · simp [Callers.Scene.singleFetches, Fin.sum_univ_two, Callers.Caller.inFetch, running, s₂, s₁,
      s₀, Callers.Scene.move, Callers.Scene.initial]
  · -- the crew has the one worker `i`
    have hsize : Callers.crewSize 1 = 1 := by decide
    have hone : ∀ j : Fin (Callers.crewSize 1), j = i := fun j =>
      Fin.ext (show (j : Nat) = 0 by have := j.isLt; omega)
    simp only [running, Callers.Scene.crewLoad, Crew.load]
    rw [Fintype.sum_eq_single i (fun j hj => absurd (hone j) hj)]
    simp [c₅, Crew.State.set, Crew.Hand.active]

/-- Callers fetching one locator take no slot: two of them, on an engine whose batches have a
crew of one worker, have two fetches at work at once. -/
theorem single_fetches_overlap (cbs : String → Option (Outcome → List String))
    (w₀ : World τ) (u v : String) :
    ∃ s : Callers.Scene (World τ × List Outcome) 2 (Callers.crewSize 1),
      Callers.Reaches (fun b => e.batchHooks b (cbs b))
        (fun p u d => ((e.fetch p.1 u {} d false).1, p.2)) e.config.maxFailures
        (Callers.Scene.initial (w₀, []) ![.fetch u false, .fetch v false]) s ∧
      s.fetches = 2 ∧ Callers.crewSize 1 = 1 := by
  let s₀ : Callers.Scene (World τ × List Outcome) 2 (Callers.crewSize 1) :=
    Callers.Scene.initial (w₀, []) ![.fetch u false, .fetch v false]
  let s₁ := s₀.move 0 (.fetching u false)
  -- each caller hands its locator to the fetcher, neither waiting for the other
  have h₁ : Callers.Step (fun b => e.batchHooks b (cbs b))
      (fun p u d => ((e.fetch p.1 u {} d false).1, p.2)) e.config.maxFailures s₀ s₁ :=
    .call 0 rfl
  have h₂ : Callers.Step (fun b => e.batchHooks b (cbs b))
      (fun p u d => ((e.fetch p.1 u {} d false).1, p.2)) e.config.maxFailures s₁
      (s₁.move 1 (.fetching v false)) :=
    .call 1 (by rw [Callers.Scene.move_callers_ne _ _ (by decide)]; rfl)
  refine ⟨_, .step (.step .refl h₁) h₂, ?_, by decide⟩
  simp [Callers.Scene.fetches, Callers.Scene.singleFetches, Callers.Scene.crewLoad,
    Fin.sum_univ_two, Callers.Caller.inFetch, s₁, s₀, Callers.Scene.move, Callers.Scene.initial]

/-- With the default settings and a crew of one, two callers each fetching one page of a fresh
engine have two fetches at work at once. -/
theorem single_fetches_exceed_crew :
    ∃ s : Callers.Scene (World Http.Script × List Outcome) 2 (Callers.crewSize 1),
      Callers.Reaches (fun b => scripted.batchHooks b none)
        (fun p u d => ((scripted.fetch p.1 u {} d false).1, p.2)) scripted.config.maxFailures
        (Callers.Scene.initial (scripted.initial {} {} Instant.zero, [])
          ![.fetch "http://e.com/a" false, .fetch "http://e.com/b" false]) s ∧
      s.fetches = 2 ∧ Callers.crewSize 1 = 1 :=
  single_fetches_overlap scripted (fun _ => none) _ _ _

end Engine

end Harvest
