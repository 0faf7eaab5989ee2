import Harvest.Proofs.Batch.Invariant
import Harvest.Proofs.Batch.Schedule
/-!
# Harvest.Proofs.Batch.Ceiling

The failure ceiling of a batch run. Whatever order the feeder and the worker take their steps in,
whatever the fetcher answers and whatever the caller adds on the way, a run with ceiling `M`
(`Reaches.abortsAtCeiling`):

* counts as failed exactly the fetch failures it shows, none of them a filter's refusal, whether
  the run's filter or the fetcher refused;
* answers an abort exactly when `M > 0` and it counted `M` failures; it then reports `M` as both
  its failures and its limit, keeps no outcome but still counts its earlier successes, leaves the
  pending set empty, and has delivered every outcome it counted but the `M`-th failure, after
  which it fetched and delivered nothing;
* never aborts when `M ≤ 0`, and then delivers every outcome it counts.

`Ceiling` is what every run keeps about its failures, one lemma per field for a step; the abort
itself is the one step (`trip`) that both counts a failure and stops the run, and after it a run
is *quiet*: no step fetches, fails or delivers (`Step.quiet`).
-/

namespace Harvest

namespace Batch

variable {σ : Type} {h : BatchHooks σ}

/-- What a run keeps about its failures, having shown the events `tr` and standing at `s`; the
ceiling is `s.tally.limit`. -/
structure Ceiling (tr : List Event) (s : State σ) : Prop where
  /-- The failures counted are the failures the run shows. -/
  failed : s.tally.failed = (failures tr).length
  /-- No failure counted is a filter's refusal. -/
  unfiltered : ∀ x ∈ failures tr, x.2.isFiltered = false
  /-- A run that goes on is below its ceiling, or has none. -/
  below : s.tally.aborted = false → s.tally.limit ≤ 0 ∨ (s.tally.failed : Int) < s.tally.limit
  /-- An aborted run counted exactly as many failures as its ceiling. -/
  reached : s.tally.aborted = true → 0 < s.tally.limit ∧ (s.tally.failed : Int) = s.tally.limit
  /-- Every success is counted, also in a run aborted later. -/
  succeeded : s.tally.succeeded = (successes tr).length
  /-- Every outcome counted was delivered, but for the failure that aborted the run. -/
  delivered : (deliveries tr).length + s.tally.aborted.toNat =
    s.tally.succeeded + s.tally.failed + s.tally.filtered
  /-- An aborted run holds no locator about to be fetched and no fetched outcome. -/
  idle : s.tally.aborted = true → s.worker.processing = 0
  /-- The failure that aborted the run is the last one shown; after it nothing was fetched or
  delivered. -/
  tripped : s.tally.aborted = true → ∃ pre post u e, tr = pre ++ Event.failed u e :: post ∧
    (failures pre).length + 1 = s.tally.failed ∧ fetched post = [] ∧ deliveries post = []
  /-- An aborted run that has settled left its pending set empty. -/
  cleared : s.tally.aborted = true → s.stage = .draining ∨ s.pending = Pending.empty

attribute [local simp] failures successes deliveries fetched Event.failed?.eq_def
  Event.succeeded?.eq_def Event.delivered?.eq_def Event.fetched?.eq_def
  Tally.success Tally.skip Tally.dispatch Tally.abandon Tally.finished Tally.recordFiltered
  State.stopped Worker.processing

/-- A run that is not stopped has not aborted. -/
theorem State.aborted_of_not_stopped {s : State σ} (h : s.stopped = false) :
    s.tally.aborted = false :=
  (Bool.or_eq_false_iff.1 h).1

/-! ## What a step can do to the failures -/

section Step

variable {tr evs : List Event} {s s' : State σ}

/-- No step changes the failure ceiling. -/
theorem Step.tally_limit (hs : Step h s evs s') : s'.tally.limit = s.tally.limit := by
  cases hs with
  | @trip u out e t hw hst he ht =>
    obtain ⟨rfl, -⟩ := Tally.eq_of_failure ht
    rfl
  | @fail u out e t w calls hw hst he ht hd =>
    obtain ⟨rfl, -⟩ := Tally.eq_of_failure ht
    rfl
  | _ => simp

/-- A step that aborts the run is the failure that trips the ceiling: it shows that failure
alone and counts it. -/
theorem Step.trips (hs : Step h s evs s') (ha : s.tally.aborted = false)
    (ha' : s'.tally.aborted = true) :
    ∃ u e, evs = [.failed u e] ∧ s'.tally.failed = s.tally.failed + 1 ∧
      0 < s.tally.limit ∧ s.tally.limit ≤ (s.tally.failed : Int) + 1 := by
  cases hs with
  | @trip u out e t hw hst he ht =>
    obtain ⟨rfl, -⟩ := Tally.eq_of_failure ht
    exact ⟨u, e, rfl, rfl, (Tally.failure_trips ht ha).1 rfl⟩
  | @fail u out e t w calls hw hst he ht hd =>
    -- a failure below the ceiling leaves the run going on
    obtain ⟨rfl, -⟩ := Tally.eq_of_failure ht
    simp at ha'
  | _ => simp_all

/-- After the abort a run is quiet: a step fetches, fails and delivers nothing, and leaves the
run aborted with its failures as they were. -/
theorem Step.quiet (hs : Step h s evs s') (ha : s.tally.aborted = true)
    (hidle : s.worker.processing = 0) :
    fetched evs = [] ∧ failures evs = [] ∧ deliveries evs = [] ∧ s'.tally.aborted = true ∧
      s'.tally.failed = s.tally.failed := by
  cases hs with
  | @fetch u w out err hw hf =>
    -- an aborted run holds no locator about to be fetched
    simp [hw] at hidle
  | refuse _ hst | permit _ hst | succeed _ hst | fetcherRefused _ hst | fail _ hst
  | trip _ hst =>
    -- the worker counts and delivers only while the run goes on
    simp [ha] at hst
  | _ => simpa using ha

end Step

/-! ## One step keeps each part of `Ceiling` -/

namespace Ceiling

variable {p₀ : Pending} {tr evs : List Event} {s s' : State σ}

theorem failed_step (hc : Ceiling tr s) (hs : Step h s evs s') :
    s'.tally.failed = (failures (tr ++ evs)).length := by
  have hf := hc.failed
  cases hs with
  | @fail u out e t w calls hw hst he ht hd =>
    obtain ⟨rfl, -⟩ := Tally.eq_of_failure ht
    simp [hf]
  | @trip u out e t hw hst he ht =>
    obtain ⟨rfl, -⟩ := Tally.eq_of_failure ht
    simp [hf]
  | _ => simpa using hf

theorem unfiltered_step (hc : Ceiling tr s) (hs : Step h s evs s') :
    ∀ x ∈ failures (tr ++ evs), x.2.isFiltered = false := by
  intro x hx
  simp only [failures, pick_append, List.mem_append] at hx
  rcases hx with hx | hx
  · exact hc.unfiltered x hx
  · -- the failures a step shows are those of `fail` and `trip`, which are not refusals
    cases hs with
    | fail _ _ he _ _ | trip _ _ he _ =>
      simp at hx
      rw [hx]
      exact he
    | _ => simp at hx

theorem below_step (hc : Ceiling tr s) (hs : Step h s evs s') :
    s'.tally.aborted = false →
      s'.tally.limit ≤ 0 ∨ (s'.tally.failed : Int) < s'.tally.limit := by
  intro ha'
  cases hs with
  | @fail u out e t w calls hw hst he ht hd =>
    -- the failure did not trip the ceiling
    have ha := State.aborted_of_not_stopped hst
    have hno : ¬(0 < s.tally.limit ∧ s.tally.limit ≤ (s.tally.failed : Int) + 1) :=
      fun hup => absurd ((Tally.failure_trips ht ha).2 hup) (by simp)
    obtain ⟨rfl, -⟩ := Tally.eq_of_failure ht
    dsimp only
    omega
  | @trip u out e t hw hst he ht =>
    obtain ⟨rfl, -⟩ := Tally.eq_of_failure ht
    simp at ha'
  | _ =>
    -- the other steps leave the abort flag, the failures and the limit alone
    have ha : s.tally.aborted = false := by
      simpa only [Tally.skip, Tally.dispatch, Tally.finished, Tally.abandon, Tally.recordFiltered,
        Tally.success, Bool.or_eq_true, Bool.not_eq_eq_eq_not, Bool.not_true] using ha'
    simpa only [Tally.skip, Tally.dispatch, Tally.finished, Tally.abandon, Tally.recordFiltered,
      Tally.success] using hc.below ha

theorem reached_step (hc : Ceiling tr s) (hs : Step h s evs s') :
    s'.tally.aborted = true → 0 < s'.tally.limit ∧ (s'.tally.failed : Int) = s'.tally.limit := by
  intro ha'
  rw [hs.tally_limit]
  cases ha : s.tally.aborted with
  | true =>
    have hq := hs.quiet ha (hc.idle ha)
    rw [hq.2.2.2.2]
    exact hc.reached ha
  | false =>
    -- the step trips the ceiling from below it
    obtain ⟨u, e, -, hf, hpos, hle⟩ := hs.trips ha ha'
    have hb := hc.below ha
    rw [hf]
    push_cast
    omega

theorem succeeded_step (hc : Ceiling tr s) (hs : Step h s evs s') :
    s'.tally.succeeded = (successes (tr ++ evs)).length := by
  have hn := hc.succeeded
  cases hs with
  | @succeed u out w calls hw hst hd =>
    have ha := State.aborted_of_not_stopped hst
    simp [ha, hn]
  | @fail u out e t w calls hw hst he ht hd =>
    obtain ⟨rfl, -⟩ := Tally.eq_of_failure ht
    simpa using hn
  | @trip u out e t hw hst he ht =>
    obtain ⟨rfl, -⟩ := Tally.eq_of_failure ht
    simpa using hn
  | _ => simpa using hn

theorem delivered_step (hc : Ceiling tr s) (hs : Step h s evs s') :
    (deliveries (tr ++ evs)).length + s'.tally.aborted.toNat =
      s'.tally.succeeded + s'.tally.failed + s'.tally.filtered := by
  have hd := hc.delivered
  cases hs with
  | @succeed u out w calls hw hst hd' =>
    have ha := State.aborted_of_not_stopped hst
    simp [ha] at hd ⊢
    omega
  | @fail u out e t w calls hw hst he ht hd' =>
    obtain ⟨rfl, -⟩ := Tally.eq_of_failure ht
    have ha := State.aborted_of_not_stopped hst
    simp [ha] at hd ⊢
    omega
  | @trip u out e t hw hst he ht =>
    -- the failure that aborts is counted and not delivered
    obtain ⟨rfl, -⟩ := Tally.eq_of_failure ht
    have ha := State.aborted_of_not_stopped hst
    simp [ha] at hd ⊢
    omega
  | refuse hw hst hp hd' | fetcherRefused hw hst he hd' =>
    simp at hd ⊢
    omega
  | _ =>
    -- no other step counts an outcome or delivers one
    simpa only [deliveries, pick_append, pick_cons, pick_nil, Event.delivered?.eq_def,
      Option.toList_none, List.append_nil, Tally.skip, Tally.dispatch, Tally.finished,
      Tally.abandon] using hd

theorem idle_step (hc : Ceiling tr s) (hs : Step h s evs s') :
    s'.tally.aborted = true → s'.worker.processing = 0 := by
  intro ha'
  cases ha : s.tally.aborted with
  | true =>
    -- aborted before: the worker cannot pick up a new locator, so it holds none
    have hidle := hc.idle ha
    cases hs with
    | permit _ hst => simp [ha] at hst
    | @fetch u w out err hw hf => simp [hw] at hidle
    | hand _ hw | refuse hw _ _ _ | succeed hw _ _ | fetcherRefused hw _ _ _ | fail hw _ _ _ _
    | trip hw _ _ _ | abandonReceived hw _ | limiterStopped hw _ | fetchedStopped hw _
    | add hw _ | finish hw | leave hw _ =>
      simp
    | _ => simpa using hidle
  | false =>
    -- aborted by this step: the trip, after which the worker holds nothing
    cases hs with
    | trip _ _ _ _ => simp
    | @fail u out e t w calls hw hst he ht hd =>
      obtain ⟨rfl, -⟩ := Tally.eq_of_failure ht
      simp_all
    | _ => simp_all

theorem tripped_step (hc : Ceiling tr s) (hs : Step h s evs s') :
    s'.tally.aborted = true → ∃ pre post u e, tr ++ evs = pre ++ Event.failed u e :: post ∧
      (failures pre).length + 1 = s'.tally.failed ∧ fetched post = [] ∧
        deliveries post = [] := by
  intro ha'
  cases ha : s.tally.aborted with
  | true =>
    -- the abort lies behind: the quiet step extends what follows it
    obtain ⟨pre, post, u, e, htr, hcount, hfe, hde⟩ := hc.tripped ha
    obtain ⟨hf0, -, hd0, -, hfail⟩ := hs.quiet ha (hc.idle ha)
    refine ⟨pre, post ++ evs, u, e, ?_, ?_, ?_, ?_⟩
    · simp [htr]
    · rw [hfail, hcount]
    · simp only [fetched, pick_append] at hfe hf0 ⊢
      rw [hfe, hf0]
      rfl
    · simp only [deliveries, pick_append] at hde hd0 ⊢
      rw [hde, hd0]
      rfl
  | false =>
    -- this step is the abort: its failure is the last event
    obtain ⟨u, e, rfl, hf, -, -⟩ := hs.trips ha ha'
    exact ⟨tr, [], u, e, rfl, by rw [hf, hc.failed], rfl, rfl⟩

theorem cleared_step (hi : Invariant p₀ tr s) (hc : Ceiling tr s) (hs : Step h s evs s') :
    s'.tally.aborted = true → s'.stage = .draining ∨ s'.pending = Pending.empty := by
  intro ha'
  cases hs with
  | settle hst hf hw =>
    -- settling an aborted run clears the pending set
    right
    simp_all [State.settledPending]
  | popSeen hf _ _ | popNew hf _ _ =>
    left
    exact hi.draining_of_feeder (by simp [hf])
  | add hw _ =>
    left
    exact hi.draining_of_worker (by simp [hw])
  | @trip u out e t hw hst he ht =>
    left
    exact hi.draining_of_worker (by simp [hw])
  | @fail u out e t w calls hw hst he ht hd =>
    left
    exact hi.draining_of_worker (by simp [hw])
  | @answer l hst =>
    -- answering keeps the pending set of the settled run
    right
    exact (hc.cleared (by simpa using ha')).resolve_left (by simp [hst])
  | _ => simpa using hc.cleared (by simpa using ha')

/-- One step keeps `Ceiling`. -/
theorem step (hi : Invariant p₀ tr s) (hc : Ceiling tr s) (hs : Step h s evs s') :
    Ceiling (tr ++ evs) s' where
  failed := hc.failed_step hs
  unfiltered := hc.unfiltered_step hs
  below := hc.below_step hs
  reached := hc.reached_step hs
  succeeded := hc.succeeded_step hs
  delivered := hc.delivered_step hs
  idle := hc.idle_step hs
  tripped := hc.tripped_step hs
  cleared := hc.cleared_step hi hs

end Ceiling

/-- A run about to start keeps `Ceiling`. -/
theorem Ceiling.initial (p₀ : Pending) (batchId : String) (world : σ) (collect : Bool)
    (limit : Int) : Ceiling [] (start batchId p₀ world collect limit) where
  failed := by simp [start]
  unfiltered := by simp
  below _ := by simp only [start]; omega
  reached := by simp [start]
  succeeded := by simp [start]
  delivered := by simp [start]
  idle := by simp [start]
  tripped := by simp [start]
  cleared := by simp [start]

/-- Every run keeps `Ceiling`. -/
theorem Reaches.ceiling {p₀ : Pending} {batchId : String} {world : σ} {collect : Bool}
    {limit : Int} {tr : List Event} {s : State σ}
    (hr : Reaches h (start batchId p₀ world collect limit) tr s) : Ceiling tr s := by
  induction hr with
  | refl => exact Ceiling.initial p₀ batchId world collect limit
  | step hr' hs ih => exact ih.step hr'.invariant hs

/-- A run keeps the ceiling it started with. -/
theorem Reaches.tally_limit {s₀ s : State σ} {tr : List Event} (hr : Reaches h s₀ tr s) :
    s.tally.limit = s₀.tally.limit := by
  induction hr with
  | refl => rfl
  | step _ hs ih => rw [hs.tally_limit, ih]

/-! ## The answer of a run with a ceiling -/

/-- What a run with failure ceiling `M`, having shown the events `tr`, standing at `s` and
answering `r` and `err`, did about its failures. -/
structure AbortsAtCeiling (M : Int) (tr : List Event) (s : State σ) (r : BatchResult)
    (err : Option FetchError) : Prop where
  /-- The failures counted are the fetch failures the run shows. -/
  counted : r.failed = (failures tr).length
  /-- No failure counted is a filter's refusal. -/
  unfiltered : ∀ x ∈ failures tr, x.2.isFiltered = false
  /-- The run answers an abort exactly when the ceiling is positive and reached. -/
  abortIff : (∃ F L, err = some (.aborted F L)) ↔ 0 < M ∧ ((failures tr).length : Int) = M
  /-- An aborted run reports the ceiling as its failures and its limit, is marked aborted, keeps
  no outcome but counts its successes, leaves the pending set empty and has delivered every
  outcome but the `M`-th failure, after which it fetched and delivered nothing. -/
  onAbort : ∀ F L, err = some (.aborted F L) →
    F = M ∧ L = M ∧ F = r.failed ∧ r.aborted = true ∧ r.outcomes = [] ∧
      r.succeeded = (successes tr).length ∧ s.pending = Pending.empty ∧
      (deliveries tr).length + 1 = r.succeeded + r.failed + r.filtered ∧
      ∃ pre post u e, tr = pre ++ Event.failed u e :: post ∧
        ((failures pre).length : Int) + 1 = M ∧ fetched post = [] ∧ deliveries post = []
  /-- Without a ceiling a run never aborts and delivers every outcome it counts. -/
  unbounded : M ≤ 0 →
    r.aborted = false ∧ (deliveries tr).length = r.succeeded + r.failed + r.filtered

/-- Every run with failure ceiling `M` that has answered aborts exactly at its `M`-th failure,
counting no refusal of a filter, and, when it aborts, reports the ceiling, drops its outcomes,
clears the pending set and after that failure fetches and delivers nothing; without a ceiling it
never aborts and delivers every outcome. -/
theorem Reaches.abortsAtCeiling {p : Pending} {batchId : String} {world : σ} {collect : Bool}
    {M : Int} {tr : List Event} {s : State σ} {r : BatchResult} {err : Option FetchError}
    (hr : Reaches h (start batchId p world collect M) tr s) (hs : s.stage = .returned r err) :
    AbortsAtCeiling M tr s r err := by
  have hc := hr.ceiling
  have hlim : s.tally.limit = M := hr.tally_limit
  obtain ⟨l, rfl, rfl⟩ := hr.invariant.answered r err hs
  have hcount : ((failures tr).length : Int) = s.tally.failed := by rw [hc.failed]
  -- the run answers an abort exactly when it was aborted
  have habort : (∃ F L, s.error = some (.aborted F L)) ↔ s.tally.aborted = true := by
    simp only [State.error_eq_aborted]
    exact ⟨fun ⟨_, _, ha, _⟩ => ha, fun ha => ⟨_, _, ha, rfl, rfl⟩⟩
  refine ⟨hc.failed, hc.unfiltered, ?_, ?_, ?_⟩
  · rw [habort, hcount, ← hlim]
    constructor
    · exact hc.reached
    · intro ⟨hpos, heq⟩
      cases ha : s.tally.aborted with
      | true => rfl
      | false =>
        have hb := hc.below ha
        omega
  · intro F L herr
    obtain ⟨ha, rfl, rfl⟩ := (State.error_eq_aborted s F L).1 herr
    obtain ⟨-, hreach⟩ := hc.reached ha
    have hdel := hc.delivered
    obtain ⟨pre, post, u, e, htr, hpre, hfe, hde⟩ := hc.tripped ha
    have hsettled : s.stage ≠ .draining := by simp [hs]
    refine ⟨hreach.trans hlim, hlim, rfl, ha, by simp [State.result, ha], hc.succeeded,
      (hc.cleared ha).resolve_left hsettled, ?_, pre, post, u, e, htr, ?_, hfe, hde⟩
    · simpa [State.result, ha] using hdel
    · rw [← hlim, ← hreach, ← hpre]
      push_cast
      rfl
  · intro hM
    -- no ceiling: the run is below it, so never aborted
    have ha : s.tally.aborted = false := by
      cases ha : s.tally.aborted with
      | false => rfl
      | true =>
        have := (hc.reached ha).1
        omega
    have hdel := hc.delivered
    exact ⟨ha, by simpa [State.result, ha] using hdel⟩

/-- The scheduler's run over `a` and `c`, where every fetch fails and delivering `a` adds `b` and
`a` again, with a ceiling of two: it aborts at the failure of `c`, drops the `b` it was offering,
and counts `b` and the re-added `a` as abandoned. -/
theorem abortsAtCeiling_readding :
    (drive (sampleHooks true) 40 (sampleStart true 2)).stage =
        .returned { batchId := "b", failed := 2, abandoned := 2, aborted := true }
          (some (.aborted 2 2)) ∧
      AbortsAtCeiling 2 (events (sampleHooks true) 40 (sampleStart true 2))
        (drive (sampleHooks true) 40 (sampleStart true 2))
        { batchId := "b", failed := 2, abandoned := 2, aborted := true } (some (.aborted 2 2)) := by
  have hs : (drive (sampleHooks true) 40 (sampleStart true 2)).stage =
      .returned { batchId := "b", failed := 2, abandoned := 2, aborted := true }
        (some (.aborted 2 2)) := rfl
  exact ⟨hs, Reaches.abortsAtCeiling (reaches_drive 40 _) hs⟩

end Batch

end Harvest
