import Mathlib
import Harvest.Batch.Trace
/-!
# Harvest.Proofs.Batch.Invariant

The invariant of a batch run: what holds after every sequence of steps, in whatever order the
feeder, the worker, the run and the caller take them, whatever the fetcher answers and whatever
the caller adds to the pending set on the way.

The invariant ties the state to the events shown so far. The pending set holds what was there and
what was added, less what was taken (`queue`), and each addition answered the number it appended
(`counts`). The keys the feeder marked are the keys of the
locators taken (`seen`), so that of the locators taken, those with a new key (`firstNew`) went
to the worker in order, bar the one the feeder offers or gave up (`handoff`), and the others were
skipped (`skipped`). The worker checks and fetches the locators it receives in that order
(`checkOrder`, `fetchOrder`), and counts each one it checked (`processed`). The count in flight is what
the two parties hold (`inflight`), which is what makes the feeder's test for the end sound
(`recheck`, `exitClean`). Every locator that entered the set is accounted for once: pending,
held, skipped, abandoned or counted with an outcome (`conserved`).

`Step.invariant` says that one step keeps it, one lemma per field; `Reaches.invariant` that every
run does.
-/

namespace Harvest

/-- The locator the feeder offers, if it offers one. -/
def Feeder.held : Feeder → List String
  | .offering u => [u]
  | _ => []

namespace Worker

/-- The locator the worker holds and has not yet counted or given up. -/
def held : Worker → List String
  | .received u => [u]
  | .limiting u => [u]
  | .fetched u _ _ => [u]
  | _ => []

/-- The locator the worker received and has not yet checked. -/
def unchecked : Worker → List String
  | .received u => [u]
  | _ => []

/-- The locator the worker checked and has not yet fetched. -/
def unfetched : Worker → List String
  | .limiting u => [u]
  | _ => []

/-- How many checked locators the worker holds uncounted: none or one. -/
def processing : Worker → Nat
  | .limiting _ => 1
  | .fetched .. => 1
  | _ => 0

/-- Whether the worker has a locator in flight, from receiving it to marking it finished. -/
def busy : Worker → Nat
  | .idle => 0
  | .exited => 0
  | _ => 1

end Worker

/-- The locators a tally accounts for: counted with an outcome, skipped or abandoned. -/
def Tally.accounted (t : Tally) : Nat :=
  t.succeeded + t.failed + t.filtered + t.skipped + t.abandoned.length

namespace Batch

variable {σ : Type} {h : BatchHooks σ}

/-- Every locator that entered the pending set, at the start or by an addition, is accounted for
once: while the parties work, as pending, held or counted; once they are done, as counted or
left over; in the answer, as counted. -/
def Conserved (p₀ : Pending) (tr : List Event) (s : State σ) : Prop :=
  match s.stage with
  | .draining =>
    s.tally.accounted + s.pending.size + s.feeder.held.length + s.worker.held.length =
      p₀.size + (entered tr).length
  | .settled leftover => s.tally.accounted + leftover = p₀.size + (entered tr).length
  | .returned r _ =>
    r.succeeded + r.failed + r.filtered + r.skipped + r.abandoned = p₀.size + (entered tr).length

/-- What holds of a run from a pending set `p₀` that has shown the events `tr` and stands at `s`. -/
structure Invariant (p₀ : Pending) (tr : List Event) (s : State σ) : Prop where
  /-- The counts the additions answered add up to the number of locators they appended. -/
  counts : (addCounts tr).sum = (entered tr).length
  /-- The pending set is what entered it, less what was taken; a stopped run's settling is the
  one step that changes it otherwise. -/
  queue : s.stage = .draining ∨ s.stopped = false →
    popped tr ++ s.pending.toList = p₀.toList ++ entered tr
  /-- The keys the feeder marked are the keys of the locators it took. -/
  seen : ∀ k, k ∈ s.tally.seen ↔ k ∈ (popped tr).map Locator.key
  /-- Each locator taken whose key was taken before is skipped. -/
  skipped : s.tally.skipped + (firstNew [] (popped tr)).length = (popped tr).length
  /-- The locators taken with a new key went to the worker in order, or were given up, or are
  offered now. -/
  handoff : firstNew [] (popped tr) = handed tr ++ dropped tr ++ s.feeder.held
  /-- The feeder gives up at most one locator, when the run has stopped, and leaves. -/
  dropOnce : dropped tr = [] ∨
    (s.feeder = .exited ∧ s.stopped = true ∧ (dropped tr).length = 1)
  /-- The worker checks the locators it receives in order. -/
  checkOrder : (checked tr ++ s.worker.unchecked).Sublist (handed tr)
  /-- While the run goes on, it checks every one. -/
  checkAll : s.stopped = false → handed tr = checked tr ++ s.worker.unchecked
  /-- The worker fetches checked locators in order. -/
  fetchOrder : (fetched tr ++ s.worker.unfetched).Sublist (checked tr)
  /-- The count in flight is what the parties hold. -/
  inflight : s.tally.inflight = s.feeder.held.length + s.worker.busy
  /-- The feeder looks at the set once more only when the worker holds nothing. -/
  recheck : s.feeder = .recheck → s.worker = .idle ∨ s.worker = .exited
  /-- A feeder that left a run that goes on left the set empty and the worker with nothing. -/
  exitClean : s.feeder = .exited → s.stopped = false →
    s.pending.toList = [] ∧ (s.worker = .idle ∨ s.worker = .exited)
  /-- An unaborted run counts its successes, and keeps them when it collects. -/
  counted : s.tally.aborted = false →
    s.tally.succeeded = (successes tr).length ∧
      (s.tally.collect = true → s.tally.outcomes = successes tr)
  /-- While the run goes on, each checked locator is counted, or is the one being fetched. -/
  processed : s.stopped = false →
    s.tally.succeeded + s.tally.failed + s.tally.filtered + s.worker.processing =
      (checked tr).length
  /-- The run settles only when both parties are done. -/
  settling : s.stage = .draining ∨ (s.feeder = .exited ∧ s.worker = .exited)
  conserved : Conserved p₀ tr s
  /-- An answer is the summary of the run and how it ended. -/
  answered : ∀ r err, s.stage = .returned r err → ∃ l, r = s.result l ∧ err = s.error

attribute [local simp] popped handed dropped checked fetched successes entered addCounts
  Event.addCount?.eq_def Event.popped?.eq_def Event.handed?.eq_def Event.dropped?.eq_def Event.checked?.eq_def
  Event.fetched?.eq_def Event.succeeded?.eq_def Event.entered.eq_def
  Feeder.held Worker.held Worker.unchecked Worker.unfetched Worker.processing Worker.busy
  Tally.success Tally.skip Tally.dispatch Tally.abandon Tally.finished Tally.recordFiltered
  State.stopped

/-! ## What a step can do to the stage and the parties -/

section Step

variable {p₀ : Pending} {tr evs : List Event} {s s' : State σ}

/-- A run that answered takes no more steps: both parties are gone, and a cancellation comes
too late. -/
theorem Step.not_answered (hs : Step h s evs s')
    (hset : s.stage = .draining ∨ (s.feeder = .exited ∧ s.worker = .exited)) :
    s.stage.answered = false := by
  rcases hset with hd | ⟨hfe, hwe⟩
  · simp [hd, Stage.answered]
  · cases hs <;> simp_all [Stage.answered]

/-- A stopped run stays stopped. -/
theorem Step.stopped_of_stopped (hs : Step h s evs s') (hst : s.stopped = true) :
    s'.stopped = true := by
  cases hs <;> simp_all

/-- A feeder that left stays gone. -/
theorem Step.feeder_exited (hs : Step h s evs s') (hfe : s.feeder = .exited) :
    s'.feeder = .exited := by
  cases hs <;> simp_all

/-- A run that goes on after a step went on before it. -/
theorem Step.not_stopped (hs : Step h s evs s') (hns : s'.stopped = false) :
    s.stopped = false := by
  cases hst : s.stopped
  · rfl
  · rw [hs.stopped_of_stopped hst] at hns
    cases hns

/-- No step changes whether the run collects its successes. -/
theorem Step.tally_collect (hs : Step h s evs s') : s'.tally.collect = s.tally.collect := by
  cases hs with
  | @trip u out e t hw hst he ht =>
    obtain ⟨rfl, -⟩ := Tally.eq_of_failure ht
    rfl
  | @fail u out e t w calls hw hst he ht hd =>
    obtain ⟨rfl, -⟩ := Tally.eq_of_failure ht
    rfl
  | _ => simp

theorem Worker.busy_eq_zero {w : Worker} : w.busy = 0 ↔ w = .idle ∨ w = .exited := by
  cases w <;> simp

theorem popped_append_popped (tr : List Event) (u : String) :
    popped (tr ++ [.popped u]) = popped tr ++ [u] := by
  simp

/-! ## One step keeps each part of the invariant -/

namespace Invariant

theorem counts_step (hi : Invariant p₀ tr s) (hs : Step h s evs s') :
    (addCounts (tr ++ evs)).sum = (entered (tr ++ evs)).length := by
  have hn := hi.counts
  cases hs with
  | @add c cs q n hw ha =>
    -- an addition answers the number of locators it appended
    have hcount := Pending.add_count s.pending c
    rw [ha] at hcount
    simp only [addCounts, pick_append, pick_cons, pick_nil, Event.addCount?.eq_def,
      Option.toList_some, entered, Event.entered.eq_def, List.flatMap_append, List.flatMap_cons,
      List.flatMap_nil, List.length_flatMap, List.length_append, List.length_drop,
      List.append_nil, List.sum_append, List.sum_cons, List.sum_nil, Nat.add_zero] at hn hcount ⊢
    omega
  | _ =>
    -- no other step adds, so neither view of the trace grows
    simpa only [addCounts, pick_append, pick_cons, pick_nil, Event.addCount?.eq_def,
      Option.toList_none, entered, Event.entered.eq_def, List.flatMap_append, List.flatMap_cons,
      List.flatMap_nil, List.length_flatMap, List.append_nil] using hn

theorem queue_step (hi : Invariant p₀ tr s) (hs : Step h s evs s') :
    s'.stage = .draining ∨ s'.stopped = false →
      popped (tr ++ evs) ++ s'.pending.toList = p₀.toList ++ entered (tr ++ evs) := by
  intro hpre
  cases hs with
  | @popSeen u q hf hp hk =>
    have hq := hi.queue hpre
    rw [Pending.toList_of_pop_some hp] at hq
    simpa using hq
  | @popNew u q hf hp hk =>
    have hq := hi.queue hpre
    rw [Pending.toList_of_pop_some hp] at hq
    simpa using hq
  | @add c cs q n hw ha =>
    have hq := hi.queue hpre
    -- the addition appends the locators its event shows
    obtain ⟨new, hnew, -⟩ := Pending.add_appends s.pending c
    rw [ha] at hnew
    have hE : q.toList.drop s.pending.size = new := by
      rw [hnew, Pending.size_eq_length_toList, List.drop_left]
    simp only [hE, popped, entered, List.flatMap_append]
    simpa [hnew, ← List.append_assoc] using hq
  | settle hst hf hw =>
    have hns : s.stopped = false := by simpa using hpre
    have hsp : s.settledPending = s.pending := by
      simp_all [State.settledPending]
    simpa [hsp] using hi.queue (.inr hns)
  | cancel hc hr =>
    have hd : s.stage = .draining := by simpa using hpre
    simpa using hi.queue (.inl hd)
  | @answer l hst =>
    have hns : s.stopped = false := by simpa using hpre
    simpa using hi.queue (.inr hns)
  | @trip u out e t hw hst he ht =>
    obtain ⟨rfl, -⟩ := Tally.eq_of_failure ht
    simpa using hi.queue (.inr hst)
  | @fail u out e t w calls hw hst he ht hd =>
    obtain ⟨rfl, -⟩ := Tally.eq_of_failure ht
    simpa using hi.queue (.inr hst)
  | _ => simpa using hi.queue (by simpa using hpre)

theorem seen_step (hi : Invariant p₀ tr s) (hs : Step h s evs s') :
    ∀ k, k ∈ s'.tally.seen ↔ k ∈ (popped (tr ++ evs)).map Locator.key := by
  intro k
  cases hs with
  | @popSeen u q hf hp hk =>
    rw [popped_append_popped, List.map_append, List.mem_append, ← hi.seen k]
    simp only [Tally.skip, List.map_cons, List.map_nil, List.mem_cons, List.not_mem_nil, or_false]
    -- the key was marked already, so taking the locator adds none
    constructor
    · exact Or.inl
    · rintro (hm | hm)
      · exact hm
      · rw [hm]
        exact hk
  | @popNew u q hf hp hk =>
    rw [popped_append_popped, List.map_append, List.mem_append, ← hi.seen k]
    simp only [Tally.dispatch, List.map_cons, List.map_nil, List.mem_cons, List.not_mem_nil,
      or_false]
    exact or_comm
  | @trip u out e t hw hst he ht =>
    obtain ⟨rfl, -⟩ := Tally.eq_of_failure ht
    simpa using hi.seen k
  | @fail u out e t w calls hw hst he ht hd =>
    obtain ⟨rfl, -⟩ := Tally.eq_of_failure ht
    simpa using hi.seen k
  | _ => simpa using hi.seen k

/-- A key the feeder marked is the key of a locator taken before. -/
theorem key_taken (hi : Invariant p₀ tr s) {u : String} (hk : Locator.key u ∈ s.tally.seen) :
    Locator.key u ∈ [] ∨ Locator.key u ∈ (popped tr).map Locator.key :=
  .inr ((hi.seen _).1 hk)

/-- A key the feeder has not marked is new to the locators taken. -/
theorem key_new (hi : Invariant p₀ tr s) {u : String} (hk : Locator.key u ∉ s.tally.seen) :
    ¬(Locator.key u ∈ [] ∨ Locator.key u ∈ (popped tr).map Locator.key) := by
  rintro (h0 | h1)
  · cases h0
  · exact hk ((hi.seen _).2 h1)

/-- Nothing was given up while the feeder is still at work. -/
theorem dropped_eq_nil (hi : Invariant p₀ tr s) (hf : s.feeder ≠ .exited) : dropped tr = [] :=
  hi.dropOnce.resolve_right fun h => hf h.1

theorem skipped_step (hi : Invariant p₀ tr s) (hs : Step h s evs s') :
    s'.tally.skipped + (firstNew [] (popped (tr ++ evs))).length =
      (popped (tr ++ evs)).length := by
  have hsk := hi.skipped
  cases hs with
  | @popSeen u q hf hp hk =>
    -- a key taken before: `firstNew` keeps nothing more, and the locator is skipped
    rw [popped_append_popped, firstNew_append_singleton, if_pos (hi.key_taken hk)]
    simp only [Tally.skip, List.append_nil, List.length_append, List.length_singleton]
    omega
  | @popNew u q hf hp hk =>
    rw [popped_append_popped, firstNew_append_singleton, if_neg (hi.key_new hk)]
    simp only [Tally.dispatch, List.length_append, List.length_singleton]
    omega
  | @trip u out e t hw hst he ht =>
    obtain ⟨rfl, -⟩ := Tally.eq_of_failure ht
    simpa using hsk
  | @fail u out e t w calls hw hst he ht hd =>
    obtain ⟨rfl, -⟩ := Tally.eq_of_failure ht
    simpa using hsk
  | _ => simpa using hsk

theorem handoff_step (hi : Invariant p₀ tr s) (hs : Step h s evs s') :
    firstNew [] (popped (tr ++ evs)) =
      handed (tr ++ evs) ++ dropped (tr ++ evs) ++ s'.feeder.held := by
  have hho := hi.handoff
  cases hs with
  | @popSeen u q hf hp hk =>
    rw [popped_append_popped, firstNew_append_singleton, if_pos (hi.key_taken hk)]
    simpa [hf] using hho
  | @popNew u q hf hp hk =>
    -- a new key: the locator is kept, and the feeder now offers it
    rw [popped_append_popped, firstNew_append_singleton, if_neg (hi.key_new hk), hho]
    simp [hf]
  | @hand u hf hw =>
    -- nothing was given up while the feeder still offers
    have h0 := hi.dropped_eq_nil (by simp [hf])
    simp only [dropped] at h0
    simpa [hf, h0] using hho
  | @drop u hf hst => simpa [hf] using hho
  | feederSeesAbort hf _ | feederGoesOn hf _ | popEmpty hf _ | emptyBusy hf _ | emptyIdle hf _
  | recheckDone hf _ | recheckMore hf _ | wakeUp hf _ | waitStopped hf _ =>
    simpa [hf] using hho
  | _ => simpa using hho

theorem dropOnce_step (hi : Invariant p₀ tr s) (hs : Step h s evs s') :
    dropped (tr ++ evs) = [] ∨
      (s'.feeder = .exited ∧ s'.stopped = true ∧ (dropped (tr ++ evs)).length = 1) := by
  have hfx := hs.feeder_exited
  have hsx := hs.stopped_of_stopped
  cases hs with
  | @drop u hf hst =>
    have h0 := hi.dropped_eq_nil (by simp [hf])
    simp only [dropped] at h0
    right
    simpa [h0] using hst
  | _ =>
    rcases hi.dropOnce with h0 | ⟨hfe, hst, h1⟩
    · left
      simpa using h0
    · right
      exact ⟨hfx hfe, hsx hst, by simpa using h1⟩

theorem checkOrder_step (hi : Invariant p₀ tr s) (hs : Step h s evs s') :
    (checked (tr ++ evs) ++ s'.worker.unchecked).Sublist (handed (tr ++ evs)) := by
  have hc := hi.checkOrder
  cases hs with
  | @hand u hf hw =>
    simp only [hw, Worker.unchecked, List.append_nil] at hc
    simpa using hc.append (List.Sublist.refl [u])
  | @abandonReceived u hw hst =>
    -- the locator given up leaves the received ones unchecked
    simp only [hw, Worker.unchecked] at hc
    simpa using (List.sublist_append_left _ _).trans hc
  | refuse hw _ _ _ | permit hw _ _ | fetch hw _ | limiterStopped hw _ | fetchedStopped hw _
  | succeed hw _ _ | fetcherRefused hw _ _ _ | fail hw _ _ _ _ | trip hw _ _ _ | add hw _
  | finish hw | leave hw _ =>
    simpa [hw] using hc
  | _ => simpa using hc

theorem checkAll_step (hi : Invariant p₀ tr s) (hs : Step h s evs s') :
    s'.stopped = false → handed (tr ++ evs) = checked (tr ++ evs) ++ s'.worker.unchecked := by
  intro hns
  have hc := hi.checkAll (hs.not_stopped hns)
  cases hs with
  | @abandonReceived u hw hst =>
    -- giving up needs a stopped run, which this one is not
    simp_all
  | hand _ hw | refuse hw _ _ _ | permit hw _ _ | fetch hw _ | limiterStopped hw _
  | fetchedStopped hw _ | succeed hw _ _ | fetcherRefused hw _ _ _ | fail hw _ _ _ _
  | trip hw _ _ _ | add hw _ | finish hw | leave hw _ =>
    simpa [hw] using hc
  | _ => simpa using hc

theorem fetchOrder_step (hi : Invariant p₀ tr s) (hs : Step h s evs s') :
    (fetched (tr ++ evs) ++ s'.worker.unfetched).Sublist (checked (tr ++ evs)) := by
  have hc := hi.fetchOrder
  cases hs with
  | @refuse u w calls hw hst hp hd =>
    -- a refused locator is checked and never fetched
    simp only [hw, Worker.unfetched, List.append_nil] at hc
    simpa using hc.trans (List.sublist_append_left _ _)
  | @permit u hw hst hp =>
    simp only [hw, Worker.unfetched, List.append_nil] at hc
    simpa using hc.append (List.Sublist.refl [u])
  | @limiterStopped u hw hst =>
    simp only [hw, Worker.unfetched] at hc
    simpa using (List.sublist_append_left _ _).trans hc
  | hand _ hw | abandonReceived hw _ | fetch hw _ | fetchedStopped hw _ | succeed hw _ _
  | fetcherRefused hw _ _ _ | fail hw _ _ _ _ | trip hw _ _ _ | add hw _ | finish hw
  | leave hw _ =>
    simpa [hw] using hc
  | _ => simpa using hc

theorem inflight_step (hi : Invariant p₀ tr s) (hs : Step h s evs s') :
    s'.tally.inflight = s'.feeder.held.length + s'.worker.busy := by
  have hin := hi.inflight
  cases hs with
  | @trip u out e t hw hst he ht =>
    obtain ⟨rfl, -⟩ := Tally.eq_of_failure ht
    simpa [hw] using hin
  | @fail u out e t w calls hw hst he ht hd =>
    obtain ⟨rfl, -⟩ := Tally.eq_of_failure ht
    simpa [hw] using hin
  | feederSeesAbort hf _ | feederGoesOn hf _ | popEmpty hf _ | popSeen hf _ _ | popNew hf _ _
  | emptyBusy hf _ | emptyIdle hf _ | recheckDone hf _ | recheckMore hf _ | wakeUp hf _
  | waitStopped hf _ | drop hf _ =>
    simp [hf] at hin ⊢
    omega
  | hand hf hw =>
    simp [hf, hw] at hin ⊢
    omega
  | abandonReceived hw _ | refuse hw _ _ _ | permit hw _ _ | fetch hw _ | limiterStopped hw _
  | fetchedStopped hw _ | succeed hw _ _ | fetcherRefused hw _ _ _ | add hw _ | finish hw
  | leave hw _ =>
    simp [hw] at hin ⊢
    omega
  | _ => simpa using hin

theorem recheck_step (hi : Invariant p₀ tr s) (hs : Step h s evs s') :
    s'.feeder = .recheck → s'.worker = .idle ∨ s'.worker = .exited := by
  intro hrc
  cases hs with
  | emptyIdle hf hi0 =>
    -- nothing in flight: the worker holds nothing
    have hin := hi.inflight
    rw [hi0, hf] at hin
    have hb : s.worker.busy = 0 := by
      simp only [Feeder.held, List.length_nil, Nat.zero_add] at hin
      exact hin.symm
    exact Worker.busy_eq_zero.1 hb
  | feederSeesAbort _ _ | feederGoesOn _ _ | popEmpty _ _ | popSeen _ _ _ | popNew _ _ _
  | emptyBusy _ _ | recheckDone _ _ | recheckMore _ _ | wakeUp _ _ | waitStopped _ _
  | hand _ _ | drop _ _ =>
    simp at hrc
  | leave hw hf =>
    simp_all
  | abandonReceived hw _ | refuse hw _ _ _ | permit hw _ _ | fetch hw _ | limiterStopped hw _
  | fetchedStopped hw _ | succeed hw _ _ | fetcherRefused hw _ _ _ | fail hw _ _ _ _
  | trip hw _ _ _ | add hw _ | finish hw =>
    -- the worker holds a locator, so the feeder is not rechecking
    have := hi.recheck hrc
    simp_all
  | _ => exact hi.recheck hrc

theorem exitClean_step (hi : Invariant p₀ tr s) (hs : Step h s evs s') :
    s'.feeder = .exited → s'.stopped = false →
      s'.pending.toList = [] ∧ (s'.worker = .idle ∨ s'.worker = .exited) := by
  intro hfe hns
  have hns0 := hs.not_stopped hns
  cases hs with
  | recheckDone hf hn =>
    -- the set was still empty when the feeder looked again, and the worker held nothing
    refine ⟨?_, hi.recheck hf⟩
    rw [Pending.size_eq_length_toList] at hn
    exact List.eq_nil_of_length_eq_zero hn
  | leave hw hf => exact ⟨(hi.exitClean hf hns0).1, .inr rfl⟩
  | settle hst hf hw =>
    have hsp : s.settledPending = s.pending := by
      simp_all [State.settledPending]
    simpa [hsp] using hi.exitClean hf hns0
  | feederSeesAbort _ _ | waitStopped _ _ | drop _ _ | cancel _ _ => simp_all
  | feederGoesOn _ _ | popEmpty _ _ | popSeen _ _ _ | popNew _ _ _ | emptyBusy _ _
  | emptyIdle _ _ | recheckMore _ _ | wakeUp _ _ | hand _ _ =>
    simp at hfe
  | answer _ => exact hi.exitClean hfe hns0
  | abandonReceived hw _ | refuse hw _ _ _ | permit hw _ _ | fetch hw _ | limiterStopped hw _
  | fetchedStopped hw _ | succeed hw _ _ | fetcherRefused hw _ _ _ | fail hw _ _ _ _
  | trip hw _ _ _ | add hw _ | finish hw =>
    -- a worker still busy means the feeder has not left a run that goes on
    have hc := hi.exitClean hfe hns0
    simp [hw] at hc

theorem counted_step (hi : Invariant p₀ tr s) (hs : Step h s evs s') :
    s'.tally.aborted = false →
      s'.tally.succeeded = (successes (tr ++ evs)).length ∧
        (s'.tally.collect = true → s'.tally.outcomes = successes (tr ++ evs)) := by
  intro ha
  cases hs with
  | @succeed u out w calls hw hst hd =>
    -- the run goes on, so the success is counted and, when collecting, kept
    have ha0 : s.tally.aborted = false := by simp_all
    obtain ⟨hn, ho⟩ := hi.counted ha0
    refine ⟨by simp [ha0, hn], fun hcol => ?_⟩
    simp at hcol
    simp [ha0, hcol, ho hcol]
  | @fail u out e t w calls hw hst he ht hd =>
    obtain ⟨rfl, -⟩ := Tally.eq_of_failure ht
    have ha0 : s.tally.aborted = false := by simp_all
    simpa [ha0] using hi.counted ha0
  | @trip u out e t hw hst he ht =>
    obtain ⟨rfl, -⟩ := Tally.eq_of_failure ht
    simp at ha
  | _ => simpa using hi.counted (by simpa using ha)

theorem processed_step (hi : Invariant p₀ tr s) (hs : Step h s evs s') :
    s'.stopped = false →
      s'.tally.succeeded + s'.tally.failed + s'.tally.filtered + s'.worker.processing =
        (checked (tr ++ evs)).length := by
  intro hns
  have hp := hi.processed (hs.not_stopped hns)
  cases hs with
  | @succeed u out w calls hw hst hd =>
    have ha0 : s.tally.aborted = false := by simp_all
    simp [hw, ha0] at hp ⊢
    omega
  | @fail u out e t w calls hw hst he ht hd =>
    obtain ⟨rfl, -⟩ := Tally.eq_of_failure ht
    simp [hw] at hp ⊢
    omega
  | @trip u out e t hw hst he ht =>
    obtain ⟨rfl, -⟩ := Tally.eq_of_failure ht
    simp at hns
  | abandonReceived _ _ | limiterStopped _ _ | fetchedStopped _ _ => simp_all
  | hand _ hw | refuse hw _ _ _ | permit hw _ _ | fetch hw _ | fetcherRefused hw _ _ _
  | add hw _ | finish hw | leave hw _ =>
    simp [hw] at hp ⊢
    omega
  | _ => simpa using hp

theorem settling_step (hi : Invariant p₀ tr s) (hs : Step h s evs s') :
    s'.stage = .draining ∨ (s'.feeder = .exited ∧ s'.worker = .exited) := by
  cases hs with
  | settle hst hf hw => exact .inr ⟨hf, hw⟩
  | @answer l hst =>
    rcases hi.settling with hd | hfw
    · rw [hst] at hd
      cases hd
    · exact .inr hfw
  | cancel _ _ => exact hi.settling
  | _ =>
    -- a party moved, so it was not done, and the run had not settled
    rcases hi.settling with hd | ⟨hfe, hwe⟩
    · exact .inl hd
    · simp_all

/-- While a party can still move, the run has not settled. -/
theorem draining_of_feeder (hi : Invariant p₀ tr s) (hf : s.feeder ≠ .exited) :
    s.stage = .draining :=
  hi.settling.resolve_right fun hfw => hf hfw.1

theorem draining_of_worker (hi : Invariant p₀ tr s) (hw : s.worker ≠ .exited) :
    s.stage = .draining :=
  hi.settling.resolve_right fun hfw => hw hfw.2

theorem conserved_step (hi : Invariant p₀ tr s) (hs : Step h s evs s') :
    Conserved p₀ (tr ++ evs) s' := by
  have hc := hi.conserved
  cases hs with
  | settle hst hf hw =>
    -- both parties are done and hold nothing: what is pending is the leftover
    simp only [Conserved, hst, hf, hw, Feeder.held, Worker.held, List.length_nil,
      Nat.add_zero] at hc
    simpa only [Conserved, entered, List.append_nil, List.length_flatMap, Event.entered.eq_def]
      using hc
  | @answer l hst =>
    simp only [Conserved, hst] at hc
    simp only [Conserved, State.result, Tally.accounted, entered, List.length_flatMap,
      Event.entered.eq_def, List.append_nil] at hc ⊢
    omega
  | cancel _ _ =>
    simpa only [Conserved, entered, List.append_nil, List.length_flatMap, Event.entered.eq_def]
      using hc
  | @popSeen u q hf hp hk =>
    have hsz := Pending.size_of_pop_some hp
    simp only [Conserved, hi.draining_of_feeder (by simp [hf]), hf, Tally.accounted, Tally.skip,
      Feeder.held, Worker.held, entered, Event.entered.eq_def, List.length_flatMap,
      List.flatMap_append, List.flatMap_cons, List.flatMap_nil, List.append_nil,
      List.length_nil, Nat.add_zero] at hc ⊢
    omega
  | @popNew u q hf hp hk =>
    have hsz := Pending.size_of_pop_some hp
    simp only [Conserved, hi.draining_of_feeder (by simp [hf]), hf, Tally.accounted,
      Tally.dispatch, Feeder.held, Worker.held, entered, Event.entered.eq_def,
      List.length_flatMap, List.flatMap_append, List.flatMap_cons, List.flatMap_nil,
      List.append_nil, List.length_cons, List.length_nil, Nat.add_zero, Nat.zero_add] at hc ⊢
    omega
  | feederSeesAbort hf _ | feederGoesOn hf _ | popEmpty hf _ | emptyBusy hf _ | emptyIdle hf _
  | recheckDone hf _ | recheckMore hf _ | wakeUp hf _ | waitStopped hf _ | drop hf _ =>
    simp only [Conserved, hi.draining_of_feeder (by simp [hf]), hf, Tally.accounted,
      Tally.finished, Tally.abandon, Feeder.held, Worker.held, entered, Event.entered.eq_def,
      List.length_flatMap, List.flatMap_append, List.flatMap_cons, List.flatMap_nil,
      List.append_nil, List.length_append, List.length_cons, List.length_nil, Nat.add_zero,
      Nat.zero_add] at hc ⊢
    omega
  | hand hf hw =>
    simp only [Conserved, hi.draining_of_feeder (by simp [hf]), hf, hw, Tally.accounted,
      Feeder.held, Worker.held, entered, Event.entered.eq_def, List.length_flatMap,
      List.flatMap_append, List.flatMap_cons, List.flatMap_nil, List.append_nil,
      List.length_cons, List.length_nil, Nat.add_zero, Nat.zero_add] at hc ⊢
    omega
  | @add c cs q n hw ha =>
    -- the set grows by what the addition appended, which its event shows
    have hsz := Pending.size_add s.pending c
    have hlen := Pending.size_eq_length_toList q
    rw [ha] at hsz
    simp only [Conserved, hi.draining_of_worker (by simp [hw]), hw, Tally.accounted,
      Feeder.held, Worker.held, entered, Event.entered.eq_def, List.length_flatMap,
      List.flatMap_append, List.flatMap_cons, List.flatMap_nil, List.append_nil,
      List.length_append, List.length_drop, List.length_nil, Nat.add_zero] at hc hsz ⊢
    omega
  | @fail u out e t w calls hw hst he ht hd =>
    obtain ⟨rfl, -⟩ := Tally.eq_of_failure ht
    simp only [Conserved, hi.draining_of_worker (by simp [hw]), hw, Tally.accounted,
      Feeder.held, Worker.held, entered, Event.entered.eq_def, List.length_flatMap,
      List.flatMap_append, List.flatMap_cons, List.flatMap_nil, List.append_nil,
      List.length_cons, List.length_nil, Nat.add_zero, Nat.zero_add] at hc ⊢
    omega
  | @trip u out e t hw hst he ht =>
    obtain ⟨rfl, -⟩ := Tally.eq_of_failure ht
    simp only [Conserved, hi.draining_of_worker (by simp [hw]), hw, Tally.accounted,
      Feeder.held, Worker.held, entered, Event.entered.eq_def, List.length_flatMap,
      List.flatMap_append, List.flatMap_cons, List.flatMap_nil, List.append_nil,
      List.length_cons, List.length_nil, Nat.add_zero, Nat.zero_add] at hc ⊢
    omega
  | @succeed u out w calls hw hst hd =>
    have ha0 : s.tally.aborted = false := by simp_all
    simp only [Conserved, hi.draining_of_worker (by simp [hw]), hw, ha0, Tally.accounted,
      Tally.success, Bool.false_or, Bool.not_eq_eq_eq_not, Bool.not_true, Bool.false_eq_true,
      ↓reduceIte, Feeder.held, Worker.held, entered, Event.entered.eq_def, List.length_flatMap,
      List.flatMap_append, List.flatMap_cons, List.flatMap_nil, List.append_nil,
      List.length_cons, List.length_nil, Nat.add_zero, Nat.zero_add] at hc ⊢
    omega
  | leave hw _ | abandonReceived hw _ | refuse hw _ _ _ | permit hw _ _ | fetch hw _
  | limiterStopped hw _ | fetchedStopped hw _ | fetcherRefused hw _ _ _ | finish hw =>
    simp only [Conserved, hi.draining_of_worker (by simp [hw]), hw, Tally.accounted,
      Tally.abandon, Tally.recordFiltered, Tally.finished, Feeder.held, Worker.held, entered,
      Event.entered.eq_def, List.length_flatMap, List.flatMap_append, List.flatMap_cons,
      List.flatMap_nil, List.append_nil, List.length_append, List.length_cons, List.length_nil,
      Nat.add_zero, Nat.zero_add] at hc ⊢
    omega

theorem answered_step (hi : Invariant p₀ tr s) (hs : Step h s evs s') :
    ∀ r err, s'.stage = .returned r err → ∃ l, r = s'.result l ∧ err = s'.error := by
  have hna := hs.not_answered hi.settling
  intro r err hr
  cases hs with
  | @answer l hst =>
    -- the answer reads the summary and the end off the state, which it leaves as it is
    simp only at hr
    cases hr
    exact ⟨l, rfl, rfl⟩
  | settle _ _ _ => simp at hr
  | _ =>
    -- any other step keeps the stage, and the run had not answered
    simp only at hr
    simp [hr, Stage.answered] at hna

/-- One step keeps the invariant. -/
theorem step (hi : Invariant p₀ tr s) (hs : Step h s evs s') : Invariant p₀ (tr ++ evs) s' where
  counts := hi.counts_step hs
  queue := hi.queue_step hs
  seen := hi.seen_step hs
  skipped := hi.skipped_step hs
  handoff := hi.handoff_step hs
  dropOnce := hi.dropOnce_step hs
  checkOrder := hi.checkOrder_step hs
  checkAll := hi.checkAll_step hs
  fetchOrder := hi.fetchOrder_step hs
  inflight := hi.inflight_step hs
  recheck := hi.recheck_step hs
  exitClean := hi.exitClean_step hs
  counted := hi.counted_step hs
  processed := hi.processed_step hs
  settling := hi.settling_step hs
  conserved := hi.conserved_step hs
  answered := hi.answered_step hs

end Invariant

end Step

/-- A run about to start satisfies the invariant. -/
theorem Invariant.initial (p₀ : Pending) (batchId : String) (world : σ) (collect : Bool)
    (limit : Int) : Invariant p₀ [] (start batchId p₀ world collect limit) where
  counts := by simp
  queue _ := by simp [start]
  seen k := by simp [start]
  skipped := by simp [start, firstNew]
  handoff := by simp [start, firstNew]
  dropOnce := by simp
  checkOrder := by simp [start]
  checkAll _ := by simp [start]
  fetchOrder := by simp [start]
  inflight := by simp [start]
  recheck := by simp [start]
  exitClean := by simp [start]
  counted _ := by simp [start]
  processed _ := by simp [start]
  settling := by simp [start]
  conserved := by simp [Conserved, start, Tally.accounted]
  answered := by simp [start]

/-- A run collects its successes exactly when it started out to. -/
theorem Reaches.tally_collect {s₀ s : State σ} {tr : List Event} (hr : Reaches h s₀ tr s) :
    s.tally.collect = s₀.tally.collect := by
  induction hr with
  | refl => rfl
  | step _ hs ih => rw [hs.tally_collect, ih]

/-- Every run keeps the invariant. -/
theorem Reaches.invariant {p₀ : Pending} {batchId : String} {world : σ} {collect : Bool}
    {limit : Int} {tr : List Event} {s : State σ}
    (hr : Reaches h (start batchId p₀ world collect limit) tr s) : Invariant p₀ tr s := by
  induction hr with
  | refl => exact Invariant.initial p₀ batchId world collect limit
  | step _ hs ih => exact ih.step hs

end Batch

end Harvest
