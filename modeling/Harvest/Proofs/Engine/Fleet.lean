import Mathlib.Logic.Function.Basic
import Harvest.Proofs.Engine.Books
/-!
# Harvest.Proofs.Engine.Fleet

The books of engines that share one byte total, over any sequence of calls.

A call of an engine (`Call`) is one of its operations as a caller makes it, and `Engine.Does`
relates a world, a call, the world after it and what the call produced: its successful outcomes,
in order, and the summary of the batch it ran, if any. A batch call is any run of the batch
machine that answered, in any interleaving of its feeder and its worker, with a caller that does
not cancel; the engine's own scheduled run is one of them when it answers (`Engine.does_run`).
Each call moves the books by what it produced and nothing else (`Engine.Does.books`).

A fleet (`Fleet`) is a family of engines, each with its world, that share one total, which a
caller may also reset; `Fleet.Runs` are its runs, with the log of what each call produced. Over
any run from fresh counters and a zero total (`Fleet.Runs.stats_eq_produced`) the statistics of
each engine are read off the log: its downloads are the successes of its single fetches and the
successes its batches counted, its bytes the sum of their amounts and its last download the
amount of the last one; its batch failures are the failures its batches counted; no worker is
active between calls; and the shared total holds the amounts every engine recorded since the
last reset.
-/

namespace Harvest

/-- One call of an engine, as a caller makes it. -/
inductive Call where
  | add (urls : List String)
  | fetch (url : String) (cond : Conditional) (deliver canceled : Bool)
  | fetchOne (url : String) (deliver : Bool)
  | download (url : String) (strip : List Stripper)
  | run (batchId : String) (callback : Option (Outcome → List String))
  | runPending (batchId : String) (pending : Pending)
  | start (callback : Option (Outcome → List String))

/-- What a call produced for the books: its successful outcomes, in order, and the summary of the
batch it ran, if it ran one. -/
structure Produced where
  ok : List Outcome := []
  batch : Option BatchResult := none

namespace Produced

/-- The downloads a call reports: the successes its batch counted, or its successful outcomes. -/
def downloads (p : Produced) : Nat :=
  match p.batch with
  | some r => r.succeeded
  | none => p.ok.length

/-- The failures a call's batch counted. -/
def failures (p : Produced) : Nat :=
  match p.batch with
  | some r => r.failed
  | none => 0

end Produced

namespace Engine

variable {σ : Type} (e : Engine σ)

/-- One call of the engine `e` from the world `w`, ending in `w'` and producing `p`. -/
inductive Does : World σ → Call → World σ → Produced → Prop where
  | add (w : World σ) (urls : List String) : Does w (.add urls) (Engine.add w urls).1 {}
  | fetch (w : World σ) (url : String) (cond : Conditional) (deliver canceled : Bool) :
      Does w (.fetch url cond deliver canceled) (e.fetch w url cond deliver canceled).1
        { ok := Retry.okOutcomes (e.fetch w url cond deliver canceled).2 }
  | fetchOne (w : World σ) (url : String) (deliver : Bool) :
      Does w (.fetchOne url deliver) (e.fetchOne w url deliver).1
        { ok := (e.fetchOne w url deliver).2.toList }
  | download (w : World σ) (url : String) (strip : List Stripper) :
      Does w (.download url strip) (e.download w url strip).1
        { ok := (e.fetchOne w url false).2.toList }
  /-- A batch over the engine's pending set: a run of the batch machine that answered, its caller
  not having cancelled. -/
  | run {w : World σ} {batchId : String} {cb : Option (Outcome → List String)} {tr : List Event}
      {s : Batch.State (World σ × List Outcome)} {r : BatchResult} {err : Option FetchError}
      (hr : Batch.Reaches (e.batchHooks batchId cb)
        (Batch.start batchId w.pending (w, []) cb.isNone e.config.maxFailures) tr s)
      (hst : s.stage = .returned r err) (hc : s.canceled = false) :
      Does w (.run batchId cb) { s.world.1 with pending := s.pending }
        { ok := Batch.successes tr, batch := some r }
  | runPending {w w' : World σ} {batchId : String} {q : Pending} {p : Produced}
      (hd : Does { w with pending := q } (.run batchId none) w' p) :
      Does w (.runPending batchId q) { w' with pending := w.pending } p
  | startRefused {w w' : World σ} {msg : String} {cb : Option (Outcome → List String)}
      (hid : e.newBatchId w = (w', .error msg)) : Does w (.start cb) w' {}
  | start {w w₁ w' : World σ} {batchId : String} {cb : Option (Outcome → List String)}
      {p : Produced} (hid : e.newBatchId w = (w₁, .ok batchId))
      (hd : Does w₁ (.run batchId cb) w' p) : Does w (.start cb) w' p

/-- Each call moves the books by what it produced: it records its successful outcomes, counts the
failures of its batch, and leaves the worker gauge as it found it; and the downloads it reports
are its successful outcomes. -/
theorem Does.books {w w' : World σ} {c : Call} {p : Produced} (hd : e.Does w c w' p) :
    w'.ledger = w.counters.runBooks w.totals p.ok 0 p.failures ∧ p.downloads = p.ok.length := by
  induction hd with
  | add w urls => exact ⟨(Counters.runBooks_start _ _).symm, rfl⟩
  | fetch w url cond deliver canceled =>
    refine ⟨?_, rfl⟩
    dsimp only [Produced.failures]
    rw [Counters.runBooks_idle]
    exact e.fetch_ledger w url cond deliver canceled
  | fetchOne w url deliver =>
    refine ⟨?_, rfl⟩
    dsimp only [Produced.failures]
    rw [Counters.runBooks_idle]
    exact e.fetchOne_ledger w url deliver
  | download w url strip =>
    refine ⟨?_, rfl⟩
    dsimp only [Produced.failures]
    rw [Counters.runBooks_idle]
    exact e.download_ledger w url strip
  | run hr hst hc => exact Batch.Reaches.books_returned hr hc hst
  | runPending hd ih => exact ih
  | @startRefused w w' msg cb hid =>
    refine ⟨?_, rfl⟩
    dsimp only [Produced.failures]
    rw [Counters.runBooks_start]
    have hl := e.newBatchId_ledger w
    rwa [hid] at hl
  | @start w w₁ w' batchId cb p hid hd ih =>
    have hl := e.newBatchId_ledger w
    rw [hid] at hl
    obtain ⟨hc, ht⟩ := Prod.ext_iff.1 hl
    simp only [World.ledger] at hc ht
    rw [← hc, ← ht]
    exact ih

end Engine

/-! ## The scheduled run is a batch call -/

namespace Batch

variable {σ : Type} {h : BatchHooks σ} {s s' : State σ} {evs : List Event}

-- the scheduler's actions rebuild the state field by field and never touch `canceled`

theorem feederStep_canceled (he : feederStep s = some (s', evs)) : s'.canceled = s.canceled := by
  unfold feederStep at he
  split at he <;> (repeat' split at he) <;> cases he <;> rfl

theorem settleFetched_canceled {u : String} {out : Outcome} {err : Option FetchError}
    (he : settleFetched h s u out err = (s', evs)) : s'.canceled = s.canceled := by
  unfold settleFetched at he
  split at he <;> (repeat' split at he) <;> cases he <;> rfl

theorem workerStep_canceled (he : workerStep h s = some (s', evs)) : s'.canceled = s.canceled := by
  unfold workerStep at he
  split at he
  · -- an idle worker leaves once the feeder has, and waits otherwise
    split at he
    · cases he
      rfl
    · cases he
  · (repeat' split at he) <;> cases he <;> rfl
  · split at he
    cases he
    rfl
  · -- counting a fetched outcome
    split at he
    · cases he
      rfl
    · exact settleFetched_canceled (Option.some.inj he)
  · split at he
    cases he
    rfl
  · cases he
    rfl
  · cases he

theorem closeStep_canceled (he : closeStep s = some (s', evs)) : s'.canceled = s.canceled := by
  unfold closeStep at he
  split at he <;> cases he <;> rfl

theorem eagerStep_canceled (he : eagerStep h s = some (s', evs)) : s'.canceled = s.canceled := by
  unfold eagerStep at he
  split at he
  · next r hf =>
    cases he
    exact feederStep_canceled hf
  · split at he
    · next r hw =>
      cases he
      exact workerStep_canceled hw
    · exact closeStep_canceled he

/-- The scheduler never cancels. -/
theorem drive_canceled (n : Nat) (s : State σ) : (drive h n s).canceled = s.canceled := by
  induction n generalizing s with
  | zero => rfl
  | succ n ih =>
    unfold drive
    split
    · next s' evs he => rw [ih, eagerStep_canceled he]
    · rfl

end Batch

namespace Engine

variable {σ : Type} (e : Engine σ)

/-- The engine's own run of a batch is a batch call, whenever it answers. -/
theorem does_run (w : World σ) (batchId : String) (cb : Option (Outcome → List String))
    {r : BatchResult} {err : Option FetchError}
    (hans : (Batch.drive (e.batchHooks batchId cb) Batch.fuel
      (Batch.start batchId w.pending (w, []) cb.isNone e.config.maxFailures)).stage =
        .returned r err) :
    e.Does w (.run batchId cb) (e.run w batchId cb).1
      { ok := Batch.successes (Batch.events (e.batchHooks batchId cb) Batch.fuel
          (Batch.start batchId w.pending (w, []) cb.isNone e.config.maxFailures)),
        batch := some r } :=
  Does.run (Batch.reaches_drive _ _) hans (by rw [Batch.drive_canceled]; rfl)

end Engine

/-! ## Fleets of engines sharing a total -/

/-- Engines that share one byte total: each has its world, and the fleet keeps the total. -/
structure Fleet (ι σ : Type) where
  worlds : ι → World σ
  totals : Totals

/-- An entry of a fleet's log: engine `i` made a call that produced `p`, or the shared total was
reset. -/
inductive Fleet.Entry (ι : Type) where
  | call (i : ι) (p : Produced)
  | reset

namespace Fleet

variable {ι σ : Type}

/-- The successful outcomes of every engine's calls since the last reset of the total. -/
def sinceReset (log : List (Entry ι)) : List Outcome :=
  log.foldl (fun acc en => match en with
    | .call _ p => acc ++ p.ok
    | .reset => []) []

@[simp] theorem sinceReset_nil : sinceReset ([] : List (Entry ι)) = [] := rfl

@[simp] theorem sinceReset_call (log : List (Entry ι)) (i : ι) (p : Produced) :
    sinceReset (log ++ [.call i p]) = sinceReset log ++ p.ok := by
  simp [sinceReset]

@[simp] theorem sinceReset_reset (log : List (Entry ι)) :
    sinceReset (log ++ [.reset]) = [] := by
  simp [sinceReset]

variable [DecidableEq ι]

/-- The world engine `i` works in: its own, with the shared total. -/
def view (f : Fleet ι σ) (i : ι) : World σ := { f.worlds i with totals := f.totals }

/-- The fleet once engine `i` has left its world as `w`: `w` takes the place of `i`'s world, and
its total is the shared one. -/
def settle (f : Fleet ι σ) (i : ι) (w : World σ) : Fleet ι σ :=
  ⟨Function.update f.worlds i w, w.totals⟩

/-- The runs of a fleet of engines `es` from `f₀`, with the log of what they did. -/
inductive Runs (es : ι → Engine σ) (f₀ : Fleet ι σ) : List (Entry ι) → Fleet ι σ → Prop where
  | refl : Runs es f₀ [] f₀
  | call {log : List (Entry ι)} {f : Fleet ι σ} {i : ι} {c : Call} {w : World σ} {p : Produced} :
      Runs es f₀ log f → (es i).Does (f.view i) c w p →
        Runs es f₀ (log ++ [.call i p]) (f.settle i w)
  | reset {log : List (Entry ι)} {f : Fleet ι σ} :
      Runs es f₀ log f → Runs es f₀ (log ++ [.reset]) { f with totals := f.totals.reset }

/-- What engine `i`'s calls produced, in order. -/
def producedBy (i : ι) (log : List (Entry ι)) : List Produced :=
  log.filterMap fun
    | .call j p => if j = i then some p else none
    | .reset => none

/-- The successful outcomes of engine `i`'s calls, in order. -/
def okBy (i : ι) (log : List (Entry ι)) : List Outcome := (producedBy i log).flatMap Produced.ok

section Log

variable (i : ι) (log : List (Entry ι)) (p : Produced)

@[simp] theorem producedBy_nil : producedBy i ([] : List (Entry ι)) = [] := rfl

@[simp] theorem producedBy_call_self : producedBy i (log ++ [.call i p]) = producedBy i log ++ [p] := by
  simp [producedBy]

@[simp] theorem producedBy_call_ne {j : ι} (hj : j ≠ i) :
    producedBy i (log ++ [.call j p]) = producedBy i log := by
  simp [producedBy, hj]

@[simp] theorem producedBy_reset : producedBy i (log ++ [.reset]) = producedBy i log := by
  simp [producedBy]

end Log

variable {es : ι → Engine σ} {f₀ f : Fleet ι σ} {log : List (Entry ι)}

/-- Along any run, each engine's counters are those it started with, on which the books of its
calls were kept one after the other; the calls of the other engines leave them alone. -/
theorem Runs.counters (hr : Runs es f₀ log f) (i : ι) :
    (f.worlds i).counters =
      ((f₀.worlds i).counters.runBooks {} (okBy i log) 0
        ((producedBy i log).map Produced.failures).sum).1 := by
  induction hr with
  | refl => simp [okBy, Counters.runBooks_start]
  | @call log f j c w p hr hd ih =>
    by_cases hj : j = i
    · subst hj
      -- the call's books, kept on the counters the run had reached
      have hb := congrArg Prod.fst (Engine.Does.books (es j) hd).1
      simp only [World.ledger, view] at hb
      simp only [settle, Function.update_self, hb, ih, Counters.runBooks_runBooks, okBy,
        producedBy_call_self, List.flatMap_append, List.flatMap_singleton, List.map_append,
        List.map_singleton, List.sum_append, List.sum_singleton]
    · simp only [settle, Function.update_of_ne (Ne.symm hj), ih, okBy, producedBy_call_ne _ _ _ hj]
  | reset hr ih => simpa [okBy] using ih

/-- Along any run from a zero total, the shared total holds the amounts every engine recorded
since the last reset. -/
theorem Runs.totals (hr : Runs es f₀ log f) (ht : f₀.totals = {}) :
    f.totals = ⟨((sinceReset log).map Outcome.amount).sum⟩ := by
  induction hr with
  | refl => simp [ht]
  | @call log f j c w p hr hd ih =>
    have hb := congrArg Prod.snd (Engine.Does.books (es j) hd).1
    simp only [World.ledger, view, Counters.runBooks, Counters.recordAll_eq] at hb
    simp [settle, hb, ih]
  | reset hr ih => simp [Totals.reset]

/-- Along any run, the downloads each call reports are its successful outcomes. -/
theorem Runs.downloads (hr : Runs es f₀ log f) (i : ι) :
    ((producedBy i log).map Produced.downloads).sum = (okBy i log).length := by
  induction hr with
  | refl => rfl
  | @call log f j c w p hr hd ih =>
    by_cases hj : j = i
    · subst hj
      rw [producedBy_call_self, List.map_append, List.sum_append, ih]
      simp [okBy, (Engine.Does.books (es j) hd).2]
    · simpa [okBy, hj] using ih
  | reset hr ih => simpa [okBy] using ih

/-- The statistics of every engine of a fleet that started with fresh counters and a zero total,
after any run: its downloads are the successes of its single fetches and the successes its
batches counted, its bytes the sum of their amounts, its last download the amount of the last
one, and its batch failures the failures its batches counted; no worker is active; and the
total it reports holds the amounts every engine recorded since the last reset. -/
theorem Runs.stats_eq_produced (hr : Runs es f₀ log f) (hc : ∀ i, (f₀.worlds i).counters = {})
    (ht : f₀.totals = {}) (i : ι) :
    Engine.stats (f.view i) =
      { bytes := ((okBy i log).map Outcome.amount).sum,
        processBytes := ((sinceReset log).map Outcome.amount).sum,
        lastDownload := ((okBy i log).getLast?.map Outcome.amount).getD 0,
        downloads := Int64.ofNat ((producedBy i log).map Produced.downloads).sum,
        activeWorkers := 0,
        batchFailures := Int64.ofNat ((producedBy i log).map Produced.failures).sum } := by
  have h0 : Int64.ofNat 0 = 0 := rfl
  simp only [Engine.stats, view, Counters.snapshot, hr.counters i, hc i, hr.totals ht,
    hr.downloads i, Counters.runBooks, Counters.recordAll_eq, h0, Int64.zero_add, Int64.add_zero]

/-- Two engines on the page world, sharing a zero total, before any call. -/
def pagePair : Fleet Bool Http.Script := ⟨fun _ => Engine.onePage, {}⟩

/-- Each engine of the pair fetches the page once, `true` first. -/
def pageFetches : List (Entry Bool) × Fleet Bool Http.Script :=
  let e := Engine.refusesExe
  let f₁ := pagePair.settle true (e.fetch (pagePair.view true) "http://e.com/doc" {} false false).1
  let f₂ := f₁.settle false (e.fetch (f₁.view false) "http://e.com/doc" {} false false).1
  ([.call true { ok := Retry.okOutcomes (e.fetch (pagePair.view true) "http://e.com/doc" {} false false).2 },
    .call false { ok := Retry.okOutcomes (e.fetch (f₁.view false) "http://e.com/doc" {} false false).2 }],
    f₂)

/-- After the two fetches of the eleven-byte page, the first engine counts its one download and
reports the total of both. -/
theorem stats_pageFetches :
    Runs (fun _ => Engine.refusesExe) pagePair pageFetches.1 pageFetches.2 ∧
      Engine.stats (pageFetches.2.view true) = ⟨11, 22, 11, 1, 0, 0⟩ := by
  have hr : Runs (fun _ => Engine.refusesExe) pagePair pageFetches.1 pageFetches.2 :=
    .call (.call .refl (Engine.Does.fetch _ _ _ _ _)) (Engine.Does.fetch _ _ _ _ _)
  exact ⟨hr, (Runs.stats_eq_produced hr (fun _ => rfl) rfl true).trans (by decide +kernel)⟩

end Fleet

end Harvest
