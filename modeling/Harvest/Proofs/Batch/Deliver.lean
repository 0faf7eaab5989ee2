import Harvest.Proofs.Batch.Invariant
import Harvest.Proofs.Batch.Schedule
/-!
# Harvest.Proofs.Batch.Deliver

What a run shows its caller: the outcomes it delivers, and the outcomes it keeps and answers.

Take a property `Good` of outcomes and a property `W` of the world. Say the hooks keep `W`
(`Batch.Keeps`): the fetcher keeps it and answers outcomes that are good as the run shows them
(a success as it is, a failure marked failed with its failure: `Batch.Showable`), delivering a
good outcome keeps it, and so do the counters; and the run's own refusal of a locator by the
filter is good. Then along every run every outcome delivered is good, every outcome kept is
good, and the world keeps `W` (`Reaches.delivers`); so the scheduler's run answers only good
outcomes and leaves a world in `W` (`run_delivers`).

The world is what the caller and the observers see of the run, so a `W` that says what they were
handed makes this a statement about everything the run showed.
-/

namespace Harvest

namespace Batch

variable {σ : Type} {h : BatchHooks σ}

/-- A fetcher's answer as a run shows it: a success as it is, a failure marked failed with its
failure. -/
def Showable (Good : Outcome → Prop) (out : Outcome) : Option FetchError → Prop
  | none => Good out
  | some e => Good { out with ok := false, err := some e }

/-- What the hooks of a run promise for the outcomes `Good` and the worlds `W`. -/
structure Keeps (Good : Outcome → Prop) (W : σ → Prop) (h : BatchHooks σ) : Prop where
  /-- The fetcher keeps the world, and its answers can be shown. -/
  fetch : ∀ w u, W w → W (h.fetch w u).1 ∧ Showable Good (h.fetch w u).2.1 (h.fetch w u).2.2
  /-- Delivering a good outcome keeps the world. -/
  deliver : ∀ w o, W w → Good o → W (h.deliver w o).1
  workerStarted : ∀ w, W w → W (h.workerStarted w)
  workerFinished : ∀ w, W w → W (h.workerFinished w)
  batchFailure : ∀ w, W w → W (h.batchFailure w)
  /-- The run's own refusal of a locator by the filter is good. -/
  refused : ∀ u, Good (Outcome.failed u (.filtered u))

/-- What a run that has shown the events `tr` and stands at `s` has shown so far. -/
structure Delivers (Good : Outcome → Prop) (W : σ → Prop) (tr : List Event) (s : State σ) :
    Prop where
  world : W s.world
  /-- The answer the worker holds can be shown. -/
  worker : ∀ u out err, s.worker = .fetched u out err → Showable Good out err
  /-- Every outcome delivered is good. -/
  delivered : ∀ o ∈ deliveries tr, Good o
  /-- Every outcome kept for the answer is good. -/
  kept : ∀ o ∈ s.tally.outcomes, Good o

attribute [local simp] deliveries Event.delivered?.eq_def

namespace Delivers

variable {Good : Outcome → Prop} {W : σ → Prop} {tr evs : List Event} {s s' : State σ}

theorem world_step (hk : Keeps Good W h) (hd : Delivers Good W tr s) (hs : Step h s evs s') :
    W s'.world := by
  have hw := hd.world
  cases hs with
  | @refuse u w calls hwk hst hp hdl =>
    have hw' := hk.deliver _ _ (hk.workerStarted _ hw) (hk.refused u)
    rw [hdl] at hw'
    exact hk.workerFinished _ hw'
  | permit hwk hst hp => exact hk.workerStarted _ hw
  | @fetch u w out err hwk hf =>
    have hw' := (hk.fetch s.world u hw).1
    rw [hf] at hw'
    exact hw'
  | limiterStopped hwk hst => exact hk.workerFinished _ hw
  | fetchedStopped hwk hst => exact hk.workerFinished _ hw
  | @succeed u out w calls hwk hst hdl =>
    have hw' := hk.deliver _ _ hw (hd.worker u out none hwk)
    rw [hdl] at hw'
    exact hk.workerFinished _ hw'
  | @fetcherRefused u out e w calls hwk hst he hdl =>
    have hw' := hk.deliver _ _ hw (hd.worker u out (some e) hwk)
    rw [hdl] at hw'
    exact hk.workerFinished _ hw'
  | @fail u out e t w calls hwk hst he ht hdl =>
    have hw' := hk.deliver _ _ (hk.batchFailure _ hw) (hd.worker u out (some e) hwk)
    rw [hdl] at hw'
    exact hk.workerFinished _ hw'
  | trip hwk hst he ht => exact hk.workerFinished _ (hk.batchFailure _ hw)
  | _ => exact hw

theorem worker_step (hk : Keeps Good W h) (hd : Delivers Good W tr s) (hs : Step h s evs s') :
    ∀ u out err, s'.worker = .fetched u out err → Showable Good out err := by
  intro u' out' err' hw'
  cases hs with
  | @fetch u w out err hwk hf =>
    -- the one step that makes the worker hold an answer: the fetcher's
    simp only [Worker.fetched.injEq] at hw'
    obtain ⟨-, rfl, rfl⟩ := hw'
    have hshow := (hk.fetch s.world u hd.world).2
    rw [hf] at hshow
    exact hshow
  | feederSeesAbort | feederGoesOn | popEmpty | popSeen | popNew | emptyBusy | emptyIdle
  | recheckDone | recheckMore | wakeUp | waitStopped | drop | settle | answer | cancel =>
    exact hd.worker _ _ _ hw'
  | _ => cases hw'

theorem delivered_step (hk : Keeps Good W h) (hd : Delivers Good W tr s) (hs : Step h s evs s') :
    ∀ o ∈ deliveries (tr ++ evs), Good o := by
  have hdl := hd.delivered
  simp only [deliveries, pick_append, List.mem_append] at hdl ⊢
  intro o ho
  rcases ho with ho | ho
  · exact hdl o ho
  · -- a step delivers the run's refusal, or the answer the worker held, or nothing
    cases hs with
    | @refuse u w calls hwk hst hp hdl' =>
      simp at ho
      rw [ho]
      exact hk.refused u
    | @succeed u out w calls hwk hst hdl' =>
      simp at ho
      rw [ho]
      exact hd.worker u out none hwk
    | @fetcherRefused u out e w calls hwk hst he hdl' =>
      simp at ho
      rw [ho]
      exact hd.worker u out (some e) hwk
    | @fail u out e t w calls hwk hst he ht hdl' =>
      simp at ho
      rw [ho]
      exact hd.worker u out (some e) hwk
    | _ => simp at ho

theorem kept_step (hd : Delivers Good W tr s) (hs : Step h s evs s') :
    ∀ o ∈ s'.tally.outcomes, Good o := by
  have hkp := hd.kept
  cases hs with
  | @succeed u out w calls hwk hst hdl =>
    -- a success is kept, or nothing is
    intro o ho
    simp only [Tally.success] at ho
    split at ho
    · exact hkp o ho
    · rcases List.mem_append.1 ho with ho | ho
      · exact hkp o ho
      · rw [List.mem_singleton.1 ho]
        exact hd.worker u out none hwk
  | @fail u out e t w calls hwk hst he ht hdl =>
    obtain ⟨rfl, -⟩ := Tally.eq_of_failure ht
    intro o ho
    split at ho
    · exact hkp o ho
    · cases ho
  | @trip u out e t hwk hst he ht =>
    obtain ⟨rfl, -⟩ := Tally.eq_of_failure ht
    intro o ho
    split at ho
    · exact hkp o ho
    · cases ho
  | _ => simpa [Tally.skip, Tally.dispatch, Tally.abandon, Tally.finished, Tally.recordFiltered]
      using hkp

/-- One step keeps what a run has shown good. -/
theorem step (hk : Keeps Good W h) (hd : Delivers Good W tr s) (hs : Step h s evs s') :
    Delivers Good W (tr ++ evs) s' :=
  ⟨hd.world_step hk hs, hd.worker_step hk hs, hd.delivered_step hk hs, hd.kept_step hs⟩

end Delivers

variable {Good : Outcome → Prop} {W : σ → Prop}

/-- Every run from a world in `W` delivers and keeps only good outcomes, and its world stays in
`W`. -/
theorem Reaches.delivers {p : Pending} {batchId : String} {world : σ} {collect : Bool}
    {limit : Int} {tr : List Event} {s : State σ} (hk : Keeps Good W h) (hw : W world)
    (hr : Reaches h (start batchId p world collect limit) tr s) : Delivers Good W tr s := by
  induction hr with
  | refl => exact ⟨hw, (fun _ _ _ hf => by cases hf), by simp, by simp [start]⟩
  | step _ hs ih => exact ih.step hk hs

/-- The scheduler's run answers only good outcomes, and leaves the world in `W`. -/
theorem run_delivers (hk : Keeps Good W h) (batchId : String) (maxFailures : Int)
    (collect : Bool) (p : Pending) {world : σ} (hw : W world) :
    W (run h batchId maxFailures collect p world).1 ∧
      ∀ o ∈ (run h batchId maxFailures collect p world).2.2.1.outcomes, Good o := by
  have hr : Reaches h (start batchId p world collect maxFailures)
      (events h fuel (start batchId p world collect maxFailures))
      (drive h fuel (start batchId p world collect maxFailures)) := reaches_drive _ _
  have hd := Reaches.delivers hk hw hr
  have hi := hr.invariant
  refine ⟨hd.world, ?_⟩
  -- the answer's outcomes are the kept ones, or none after an abort
  have hres : ∀ l, ∀ o ∈ (State.result (drive h fuel (start batchId p world collect maxFailures))
      l).outcomes, Good o := by
    intro l o ho
    simp only [State.result] at ho
    split at ho
    · cases ho
    · exact hd.kept o ho
  simp only [run, State.answer]
  split
  · next r err hst =>
    obtain ⟨l, rfl, -⟩ := hi.answered r err hst
    exact hres l
  · exact hres _

end Batch

end Harvest
