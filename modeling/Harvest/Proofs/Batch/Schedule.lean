import Harvest.Batch.Run
/-!
# Harvest.Proofs.Batch.Schedule

The order in which `Batch.run` lets the parties move is one of the orders `Batch.Step` allows:
each action of `eagerStep` is a step (`Step.of_eagerStep`), so `drive` reaches, from the state it
starts in, the state it stops in, showing the events `events` lists (`reaches_drive`). Whatever
holds of every run therefore holds of the run the program takes.

The converse does not hold: the scheduler never cancels and its rate limiter always lets the
worker through, so it shows only some of the runs.

A run over one locator takes a fixed sequence of steps for each way the worker settles it
(`run_one_world`): six to hand the locator out, one to refuse it or three to fetch it and settle
the outcome, and ten to wind down.
-/

namespace Harvest

namespace Batch

variable {σ : Type} {h : BatchHooks σ}

/-- The events of the steps `drive` takes, in order. -/
def events (h : BatchHooks σ) : Nat → State σ → List Event
  | 0, _ => []
  | n + 1, s =>
    match eagerStep h s with
    | some (s', evs) => evs ++ events h n s'
    | none => []

section Sound

variable {s s' : State σ} {evs : List Event}

theorem Step.of_feederStep (he : feederStep s = some (s', evs)) : Step h s evs s' := by
  unfold feederStep at he
  split at he
  · next hf =>
    split at he
    · next ha => cases he; exact .feederSeesAbort hf ha
    · next ha => cases he; exact .feederGoesOn hf (by simpa using ha)
  · next hf =>
    split at he
    · next q hp => cases he; exact .popEmpty hf (by rw [hp])
    · next u q hp =>
      split at he
      · next hk => cases he; exact .popSeen hf hp (by simpa using hk)
      · next hk => cases he; exact .popNew hf hp (by simpa using hk)
  · next hf =>
    split at he
    · next hi => cases he; exact .emptyIdle hf hi
    · next hi => cases he; exact .emptyBusy hf hi
  · next hf =>
    split at he
    · next hn => cases he; exact .recheckDone hf hn
    · next hn => cases he; exact .recheckMore hf hn
  · next hf =>
    split at he
    · next hw => cases he; exact .wakeUp hf hw
    · split at he
      · next hst => cases he; exact .waitStopped hf hst
      · cases he
  · next u hf =>
    split at he
    · next hw => cases he; exact .hand hf hw
    · split at he
      · next hst => cases he; exact .drop hf hst
      · cases he
  · cases he

theorem Step.of_settleFetched {u : String} {out : Outcome} {err : Option FetchError}
    (hw : s.worker = .fetched u out err) (hst : s.stopped = false)
    (he : settleFetched h s u out err = (s', evs)) : Step h s evs s' := by
  unfold settleFetched at he
  split at he
  · next =>
    split at he
    next w calls hd => cases he; exact .succeed hw hst hd
  · next e =>
    split at he
    · next hfl =>
      rcases hdc : h.deliver s.world { out with ok := false, err := some e } with ⟨w, calls⟩
      simp only [hdc] at he
      cases he
      exact .fetcherRefused hw hst hfl hdc
    · next hfl =>
      split at he
      · next t ht => cases he; exact .trip hw hst (by simpa using hfl) ht
      · next t ht =>
        rcases hdc : h.deliver (h.batchFailure s.world) { out with ok := false, err := some e } with
          ⟨w, calls⟩
        simp only [hdc] at he
        cases he
        exact .fail hw hst (by simpa using hfl) ht hdc

theorem Step.of_workerStep (he : workerStep h s = some (s', evs)) : Step h s evs s' := by
  unfold workerStep at he
  split at he
  · next hw =>
    split at he
    · next hf => cases he; exact .leave hw hf
    · cases he
  · next u hw =>
    split at he
    · next hst => cases he; exact .abandonReceived hw hst
    · next hst =>
      split at he
      · next hp => cases he; exact .permit hw (by simpa using hst) hp
      · next hp =>
        rcases hd : h.deliver (h.workerStarted s.world) (Outcome.failed u (.filtered u)) with
          ⟨w, calls⟩
        simp only [hd] at he
        cases he
        exact .refuse hw (by simpa using hst) (by simpa using hp) hd
  · next u hw =>
    split at he
    next w out err hf => cases he; exact .fetch hw hf
  · next u out err hw =>
    split at he
    · next hst => cases he; exact .fetchedStopped hw hst
    · next hst =>
      cases hsf : settleFetched h s u out err with
      | mk s₁ evs₁ =>
        rw [hsf] at he
        cases he
        exact Step.of_settleFetched hw (by simpa using hst) hsf
  · next c cs hw =>
    split at he
    next q n ha => cases he; exact .add hw ha
  · next hw => cases he; exact .finish hw
  · cases he

theorem Step.of_closeStep (he : closeStep s = some (s', evs)) : Step h s evs s' := by
  unfold closeStep at he
  split at he
  · next hst hf hw => cases he; exact .settle hst hf hw
  · next l hst => cases he; exact .answer hst
  · cases he

/-- Each action the scheduler takes is a step of the run. -/
theorem Step.of_eagerStep (he : eagerStep h s = some (s', evs)) : Step h s evs s' := by
  unfold eagerStep at he
  split at he
  · next r hfs => cases he; exact Step.of_feederStep hfs
  · split at he
    · next r hws => cases he; exact Step.of_workerStep hws
    · exact Step.of_closeStep he

end Sound

/-- A run followed by a run is a run. -/
theorem Reaches.trans {s₀ s₁ s : State σ} {tr₁ tr₂ : List Event} (h₁ : Reaches h s₀ tr₁ s₁)
    (h₂ : Reaches h s₁ tr₂ s) : Reaches h s₀ (tr₁ ++ tr₂) s := by
  induction h₂ with
  | refl => simpa using h₁
  | step _ hs ih =>
    rw [← List.append_assoc]
    exact .step ih hs

/-- A step followed by a run is a run. -/
theorem Reaches.cons {s₀ s₁ s : State σ} {evs tr : List Event} (hs : Step h s₀ evs s₁)
    (hr : Reaches h s₁ tr s) : Reaches h s₀ (evs ++ tr) s := by
  simpa using (Reaches.step .refl hs).trans hr

/-- The scheduler's run is a run: `drive` reaches the state it stops in, showing `events`. -/
theorem reaches_drive (n : Nat) (s : State σ) : Reaches h s (events h n s) (drive h n s) := by
  induction n generalizing s with
  | zero => exact .refl
  | succ n ih =>
    cases he : eagerStep h s with
    | none =>
      simp only [events, drive, he]
      exact .refl
    | some r =>
      obtain ⟨s', evs⟩ := r
      simp only [events, drive, he]
      exact Reaches.cons (Step.of_eagerStep he) (ih s')

/-! ## A run over one locator

The scheduler's run over a pending set that holds one locator, phase by phase: the feeder hands
the locator out (`drive_handOut`), the worker refuses it (`drive_refuseOne`) or fetches it and
settles the outcome (`drive_fetchOne`), and the run winds down (`drive_windDown`). -/

section OneLocator

variable (h)

/-- A step the scheduler takes is the first of the steps it drives. -/
theorem drive_succ {s s' : State σ} {evs : List Event} (he : eagerStep h s = some (s', evs))
    (n : Nat) : drive h (n + 1) s = drive h n s' := by
  simp only [drive, he]

/-- A run that can take no step stays where it is, however far it is driven. -/
theorem drive_stuck {s : State σ} (n : Nat) (he : eagerStep h s = none) : drive h n s = s := by
  cases n <;> simp only [drive, he]

/-- Driving `a` steps and then `b` more is driving `b + a` steps: a run that stops on the way
stays stopped. -/
theorem drive_add (a b : Nat) (s : State σ) : drive h (b + a) s = drive h b (drive h a s) := by
  induction a generalizing s with
  | zero => rfl
  | succ a ih =>
    cases he : eagerStep h s with
    | none =>
      rw [← Nat.add_assoc, drive_stuck h _ he, drive_stuck h _ he, drive_stuck h _ he]
    | some r =>
      obtain ⟨s', evs⟩ := r
      rw [← Nat.add_assoc, drive_succ h he, drive_succ h he, ih]

/-- The bookkeeping of a run over one locator once the feeder has taken it: its key seen, it in
flight. -/
def tallyOne (c : Bool) (L : Int) (u : String) : Tally :=
  { collect := c, limit := L, seen := [Locator.key u], inflight := 1 }

/-- A run over one locator once the feeder has handed it to the worker and waits, the set
empty. -/
def handedOne (b u : String) (w : σ) (c : Bool) (L : Int) : State σ :=
  { batchId := b, world := w, pending := Pending.empty, tally := tallyOne c L u,
    feeder := .waiting, worker := .received u }

/-- A run over one locator once the worker has settled it with a delivery that added nothing. -/
def settledOne (b : String) (w : σ) (t : Tally) : State σ :=
  { batchId := b, world := w, pending := Pending.empty, tally := t, feeder := .waiting,
    worker := .adding [[]] }

/-- The feeder takes the one locator, offers it, hands it to the worker, looks again, finds the
set empty with the locator in flight and waits: six steps. -/
theorem drive_handOut (b u k : String) (w : σ) (c : Bool) (L : Int) (n : Nat) :
    drive h (n + 6) (start b ⟨[(u, k)]⟩ w c L) = drive h n (handedOne b u w c L) := rfl

variable {b u : String} {w w₂ w₃ : σ} {c : Bool} {L : Int}

/-- A locator the filter refuses is delivered refused and counted as filtered, in one step. -/
theorem drive_refuseOne (hp : h.permits u = false)
    (hd : h.deliver (h.workerStarted w) (Outcome.failed u (.filtered u)) = (w₃, [[]])) (n : Nat) :
    drive h (n + 1) (handedOne b u w c L) =
      drive h n (settledOne b (h.workerFinished w₃) (tallyOne c L u).recordFiltered) := by
  have hstep : eagerStep h (handedOne b u w c L) =
      some (settledOne b (h.workerFinished w₃) (tallyOne c L u).recordFiltered,
        [.checked u, .delivered (Outcome.failed u (.filtered u))]) := by
    simp only [eagerStep, workerStep, handedOne, State.stopped, hp, hd]
    rfl
  exact drive_succ h hstep n

/-- The run over one locator once the worker has passed the filter check. -/
def checkedOne (b u : String) (w : σ) (c : Bool) (L : Int) : State σ :=
  { handedOne b u w c L with worker := .limiting u }

/-- The run over one locator once the worker has fetched it. -/
def fetchedOne (b u : String) (w : σ) (c : Bool) (L : Int) (out : Outcome)
    (err : Option FetchError) : State σ :=
  { handedOne b u w c L with worker := .fetched u out err }

/-- A locator the filter permits is fetched and its outcome settled, in three steps. -/
theorem drive_fetchOne {out : Outcome} {err : Option FetchError} (hp : h.permits u = true)
    (hf : h.fetch (h.workerStarted w) u = (w₂, out, err)) {s' : State σ} {evs : List Event}
    (hs : settleFetched h (fetchedOne b u w₂ c L out err) u out err = (s', evs)) (n : Nat) :
    drive h (n + 3) (handedOne b u w c L) = drive h n s' := by
  -- the feeder waits while the worker passes the filter, fetches and settles the outcome
  have hcheck : eagerStep h (handedOne b u w c L) =
      some (checkedOne b u (h.workerStarted w) c L, [.checked u]) := by
    simp only [eagerStep, workerStep, handedOne, State.stopped, hp]
    rfl
  have hfetch : eagerStep h (checkedOne b u (h.workerStarted w) c L) =
      some (fetchedOne b u w₂ c L out err, [.fetched u]) := by
    simp only [eagerStep, workerStep, checkedOne, handedOne, hf]
    rfl
  have hsettle : eagerStep h (fetchedOne b u w₂ c L out err) = some (s', evs) := by
    simp only [eagerStep, workerStep, fetchedOne, handedOne, State.stopped]
    rw [← hs]
    rfl
  rw [drive_succ h hcheck, drive_succ h hfetch, drive_succ h hsettle]

/-- Once the worker has settled the one locator and the run goes on, the worker marks the locator
finished, the feeder wakes, finds nothing pending and nothing in flight and leaves, the worker
leaves, and the run answers: ten steps, after which the run takes none, the world as the worker
left it. -/
theorem drive_windDown {t : Tally} (ha : t.aborted = false) (hi : t.inflight = 1)
    (hw : t.wake = false) (n : Nat) : (drive h (n + 10) (settledOne b w t)).world = w := by
  obtain ⟨collect, limit, seen, outcomes, succeeded, failed, filtered, skipped, aborted, abandoned,
    inflight, wake⟩ := t
  dsimp only at ha hi hw
  subst ha hi hw
  rw [drive_add h 10 n, drive_stuck h n]
  · rfl
  · rfl

/-- A run over one locator that the worker settles within three steps of being handed it, the run
going on, ends with the world the worker left. -/
theorem run_one_world {k : String} {j : Nat} {t : Tally} (hj : j ≤ 3)
    (hk : ∀ n, drive h (n + j) (handedOne b u w c L) = drive h n (settledOne b w₃ t))
    (ha : t.aborted = false) (hi : t.inflight = 1) (hw : t.wake = false) :
    (run h b L c ⟨[(u, k)]⟩ w).1 = w₃ := by
  have hfuel : fuel = fuel - (16 + j) + 10 + j + 6 := by unfold fuel; omega
  show (drive h fuel (start b ⟨[(u, k)]⟩ w c L)).world = w₃
  rw [hfuel, drive_handOut, hk, drive_windDown h ha hi hw]

/-- A success is counted and delivered. -/
theorem settleFetched_success {out : Outcome} (hd : h.deliver w₂ out = (w₃, [[]])) :
    settleFetched h (fetchedOne b u w₂ c L out none) u out none = (settledOne b (h.workerFinished w₃) ((tallyOne c L u).success out),
        [.succeeded out, .delivered out]) := by
  simp only [settleFetched, fetchedOne, handedOne, hd]
  rfl

/-- A refusal met on the way is counted as filtered and delivered. -/
theorem settleFetched_filtered {out : Outcome} {er : FetchError} (he : er.isFiltered = true)
    (hd : h.deliver w₂ { out with ok := false, err := some er } = (w₃, [[]])) :
    settleFetched h (fetchedOne b u w₂ c L out (some er)) u out (some er) = (settledOne b (h.workerFinished w₃) (tallyOne c L u).recordFiltered,
        [.delivered { out with ok := false, err := some er }]) := by
  simp only [settleFetched, he, ↓reduceIte, fetchedOne, handedOne, hd]
  rfl

/-- Any other failure is counted and, staying below the ceiling, delivered. -/
theorem settleFetched_failed {out : Outcome} {er : FetchError} (he : er.isFiltered = false)
    (hL : L ≤ 0 ∨ 1 < L)
    (hd : h.deliver (h.batchFailure w₂) { out with ok := false, err := some er } = (w₃, [[]])) :
    settleFetched h (fetchedOne b u w₂ c L out (some er)) u out (some er) = (settledOne b (h.workerFinished w₃) { tallyOne c L u with failed := 1 },
        [.failed u er, .delivered { out with ok := false, err := some er }]) := by
  -- one failure stays below the ceiling
  have hfail : (tallyOne c L u).failure = ({ tallyOne c L u with failed := 1 }, false) := by
    dsimp only [Tally.failure, tallyOne]
    rw [if_pos]
    simpa using hL
  simp only [settleFetched, he, Bool.false_eq_true, if_false, fetchedOne, handedOne, hfail, hd]
  rfl

end OneLocator

/-- A world for sample runs: the filter permits every locator; every fetch succeeds at once or,
when `fails`, fails with a transport failure; delivering the outcome of `a` has the caller add
`b` and `a` again, and delivering any other adds nothing. -/
def sampleHooks (fails : Bool) : BatchHooks Unit where
  permits _ := true
  fetch w u :=
    if fails then (w, { url := u }, some (.transport u 0 "refused"))
    else (w, { url := u, ok := true }, none)
  deliver w out := (w, if out.url == "a" then [["b", "a"]] else [])
  workerStarted w := w
  workerFinished w := w
  batchFailure w := w

/-- A run of that world over `a` and `c`. -/
def sampleStart (collect : Bool) (limit : Int) : State Unit :=
  start "b" (Pending.ofList ["a", "c"]) () collect limit

end Batch

end Harvest
