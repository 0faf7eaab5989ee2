import Harvest.Proofs.Batch.Ceiling
import Harvest.Proofs.Batch.Dispatch
import Harvest.Proofs.Batch.PendingKeys
/-!
# Harvest.Proofs.Batch.Cancel

What a batch run leaves behind when its caller cancels it, wherever the cancellation lands and in
whatever order the feeder and the worker take their steps (`Reaches.cancelled`).

Reading the events, the locators *handed out* are those taken with a new key (`firstNew`), and a
locator is *served* (`served`) when an outcome was delivered while the worker held it. A
cancelled run that did not abort

* has served or given up each locator it handed out, and nothing else (`Fates`);
* leaves pending the locators that entered the set and were never taken (`untaken`), followed by
  locators put back, each with the key of one given up and none with the key of one served; so
  the keys pending are those of the locators never taken and of those given up (`PutBack`);
* answers the cancellation, counting as abandoned the locators given up and those never taken.

An aborted run answers the abort and leaves the pending set empty.
-/

namespace Harvest

namespace Batch

variable {σ : Type} {h : BatchHooks σ}

/-! ## The locators served -/

/-- The locators whose outcome was delivered, reading the events on from a worker that received
`cur` last: a delivery is of the outcome of the locator the worker received last. -/
def servedFrom : Option String → List Event → List String
  | _, [] => []
  | _, .handed u :: evs => servedFrom (some u) evs
  | cur, .delivered _ :: evs => cur.toList ++ servedFrom cur evs
  | cur, _ :: evs => servedFrom cur evs

/-- The locators whose outcome was delivered, in order. -/
def served (tr : List Event) : List String := servedFrom none tr

/-- The locators that entered the pending set and were never taken, in order. -/
def untaken (p₀ : Pending) (tr : List Event) : List String :=
  (p₀.toList ++ entered tr).drop (popped tr).length

attribute [local simp] handed dropped popped entered Event.handed?.eq_def Event.dropped?.eq_def
  Event.popped?.eq_def Event.entered.eq_def Feeder.held Worker.held Tally.abandon Tally.finished
  Tally.success Tally.skip Tally.dispatch Tally.recordFiltered State.stopped

theorem getLast?_cons_or {α : Type} (u : α) (l : List α) (cur : Option α) :
    (u :: l).getLast?.or cur = l.getLast?.or (some u) := by
  cases l with
  | nil => rfl
  | cons v vs => simp [List.getLast?_cons]

/-- Reading on past `tr`, the worker holds what it received last in `tr`, if anything. -/
theorem servedFrom_append (cur : Option String) (tr evs : List Event) :
    servedFrom cur (tr ++ evs) =
      servedFrom cur tr ++ servedFrom ((handed tr).getLast?.or cur) evs := by
  induction tr generalizing cur with
  | nil => simp [servedFrom]
  | cons ev tr ih =>
    cases ev with
    | handed u => simp [servedFrom, ih, getLast?_cons_or]
    | delivered out => simp [servedFrom, ih]
    | _ => simp [servedFrom, ih]

theorem served_append (tr evs : List Event) :
    served (tr ++ evs) = served tr ++ servedFrom (handed tr).getLast? evs := by
  simp [served, servedFrom_append]

/-! ## What a step can do to the stage -/

section Step

variable {p₀ : Pending} {tr evs : List Event} {s s' : State σ}

/-- A run that has not aborted after a step had not aborted before it: the abort is a failure,
counted while the run went on. -/
theorem Step.not_aborted (hs : Step h s evs s') (ha' : s'.tally.aborted = false) :
    s.tally.aborted = false := by
  cases hs with
  | trip _ hst => exact State.aborted_of_not_stopped hst
  | fail _ hst => exact State.aborted_of_not_stopped hst
  | _ => simpa using ha'

/-- A step is a party's, taken while the parties work; or it settles the run; or it comes after
the parties are done, shows nothing and leaves the pending set and the bookkeeping alone, and
answers the run or keeps its stage. -/
theorem Step.party_or_run (hi : Invariant p₀ tr s) (hs : Step h s evs s') :
    (s.stage = .draining ∧ s'.stage = .draining) ∨
      (s.stage = .draining ∧ evs = [] ∧
        s' = { s with stage := .settled s.pending.size, pending := s.settledPending }) ∨
      (s.stage ≠ .draining ∧ evs = [] ∧ s'.pending = s.pending ∧ s'.tally = s.tally ∧
        (s'.stage = s.stage ∨
          ∃ l, s.stage = .settled l ∧ s'.stage = .returned (s.result l) s.error)) := by
  cases hs with
  | settle hst => exact .inr (.inl ⟨hst, rfl, rfl⟩)
  | @answer l hst => exact .inr (.inr ⟨by simp [hst], rfl, rfl, rfl, .inr ⟨l, hst, rfl⟩⟩)
  | cancel =>
    by_cases hd : s.stage = .draining
    · exact .inl ⟨hd, hd⟩
    · exact .inr (.inr ⟨hd, rfl, rfl, rfl, .inl rfl⟩)
  | feederSeesAbort hf | feederGoesOn hf | popEmpty hf | popSeen hf | popNew hf | emptyBusy hf
  | emptyIdle hf | recheckDone hf | recheckMore hf | wakeUp hf | waitStopped hf | hand hf
  | drop hf =>
    have hd := hi.draining_of_feeder (by simp [hf])
    exact .inl ⟨hd, hd⟩
  | leave hw | abandonReceived hw | refuse hw | permit hw | fetch hw | limiterStopped hw
  | fetchedStopped hw | succeed hw | fetcherRefused hw | fail hw | trip hw | add hw
  | finish hw =>
    have hd := hi.draining_of_worker (by simp [hw])
    exact .inl ⟨hd, hd⟩

end Step

/-! ## What became of the locators handed out -/

/-- What became of the locators handed out, in a run that has shown the events `tr` and stands
at `s`. -/
structure Fates (tr : List Event) (s : State σ) : Prop where
  /-- The worker holds the locator it received last. -/
  holder : ∀ u, s.worker.held = [u] → (handed tr).getLast? = some u
  /-- Until the run aborts, each locator handed to the worker or given up by the feeder was
  served, was given up, or is held by the worker. -/
  fate : s.tally.aborted = false →
    (handed tr ++ dropped tr).Perm (served tr ++ s.tally.abandoned ++ s.worker.held)

namespace Fates

variable {tr evs : List Event} {s s' : State σ}

/-- A delivery by a worker holding `u` serves `u`. -/
theorem served_of_held (hf : Fates tr s) {u : String} (hu : s.worker.held = [u])
    (evs : List Event) : served (tr ++ evs) = served tr ++ servedFrom (some u) evs := by
  rw [served_append, hf.holder u hu]

theorem holder_step (hf : Fates tr s) (hs : Step h s evs s') :
    ∀ u, s'.worker.held = [u] → (handed (tr ++ evs)).getLast? = some u := by
  intro u hu
  cases hs with
  | hand =>
    -- the worker holds the locator it has just received
    simp only [Worker.held, List.cons.injEq, and_true] at hu
    simp [hu]
  | permit hw | fetch hw => simpa using hf.holder u (by simpa [hw] using hu)
  | leave | abandonReceived | refuse | limiterStopped | fetchedStopped | succeed
  | fetcherRefused | fail | trip | add | finish => simp at hu
  | _ => simpa using hf.holder u hu

/-- Handing `u` to the worker keeps the partition. -/
theorem perm_hand {a d v b : List String} (u : String) (hp : (a ++ d).Perm (v ++ b)) :
    (a ++ [u] ++ d).Perm (v ++ b ++ [u]) := by
  have hmid : (a ++ [u] ++ d).Perm (u :: (a ++ d)) := by
    rw [List.append_assoc, List.singleton_append]
    exact List.perm_middle
  exact hmid.trans ((hp.cons u).trans (List.perm_append_singleton _ _).symm)

/-- The feeder giving `u` up keeps the partition, the worker holding `w` meanwhile. -/
theorem perm_drop {a d v b w : List String} (u : String) (hp : (a ++ d).Perm (v ++ b ++ w)) :
    (a ++ (d ++ [u])).Perm (v ++ (b ++ [u]) ++ w) := by
  rw [← List.append_assoc]
  refine (hp.append_right [u]).trans ?_
  simp only [List.append_assoc]
  exact ((List.perm_append_comm).append_left _).append_left _

/-- Moving `u` from the worker's hand to the end of the locators served keeps the partition. -/
theorem perm_serve {l v b : List String} (u : String) (hp : l.Perm (v ++ b ++ [u])) :
    l.Perm (v ++ [u] ++ b) := by
  refine hp.trans ?_
  rw [List.append_assoc, List.append_assoc]
  exact (List.perm_append_comm).append_left v

theorem fate_step (hf : Fates tr s) (hs : Step h s evs s') :
    s'.tally.aborted = false →
      (handed (tr ++ evs) ++ dropped (tr ++ evs)).Perm
        (served (tr ++ evs) ++ s'.tally.abandoned ++ s'.worker.held) := by
  intro ha'
  have hp := hf.fate (hs.not_aborted ha')
  cases hs with
  | @hand u hfo hw =>
    -- the locator handed out is the one the worker now holds
    simp only [hw, Worker.held, List.append_nil] at hp
    have hsv : served (tr ++ [.handed u]) = served tr := by simp [served_append, servedFrom]
    rw [hsv]
    simpa using perm_hand u hp
  | @drop u hfo hst =>
    -- the locator the feeder gave up is given up
    have hh : handed (tr ++ [.dropped u]) = handed tr := by simp
    have hd : dropped (tr ++ [.dropped u]) = dropped tr ++ [u] := by simp
    have hsv : served (tr ++ [.dropped u]) = served tr := by simp [served_append, servedFrom]
    rw [hh, hd, hsv]
    exact perm_drop u hp
  | @abandonReceived u hw | @limiterStopped u hw | @fetchedStopped u _ _ hw =>
    -- the worker gives up the locator it holds
    simpa [hw, served_append, servedFrom] using hp
  | @refuse u w calls hw | @succeed u out w calls hw | @fetcherRefused u out e w calls hw =>
    -- the worker serves the locator it holds
    have hu : s.worker.held = [u] := by simp [hw]
    rw [hf.served_of_held hu]
    simpa [hw, servedFrom] using perm_serve _ (by simpa [hw] using hp)
  | @fail u out e t w calls hw hst he ht =>
    obtain ⟨rfl, -⟩ := Tally.eq_of_failure ht
    have hu : s.worker.held = [u] := by simp [hw]
    rw [hf.served_of_held hu]
    simpa [hw, servedFrom] using perm_serve _ (by simpa [hw] using hp)
  | @trip u out e t hw hst he ht =>
    -- the abort leaves this part of the invariant nothing to say
    obtain ⟨rfl, -⟩ := Tally.eq_of_failure ht
    simp at ha'
  | permit hw | fetch hw | leave hw | add hw | finish hw =>
    simpa only [hw, handed, dropped, pick_append, pick_cons, pick_nil, Event.handed?.eq_def,
      Event.dropped?.eq_def, Option.toList_none, List.append_nil, List.append_assoc,
      served_append, servedFrom, Worker.held, Tally.finished] using hp
  | _ =>
    -- the feeder's steps and the run's hand out, give up and serve nothing
    simpa only [handed, dropped, pick_append, pick_cons, pick_nil, Event.handed?.eq_def,
      Event.dropped?.eq_def, Option.toList_none, List.append_nil, List.append_assoc,
      served_append, servedFrom, Worker.held, Tally.skip, Tally.dispatch] using hp

theorem step (hf : Fates tr s) (hs : Step h s evs s') : Fates (tr ++ evs) s' where
  holder := hf.holder_step hs
  fate := hf.fate_step hs

end Fates

theorem Fates.initial (p₀ : Pending) (batchId : String) (world : σ) (collect : Bool)
    (limit : Int) : Fates [] (start batchId p₀ world collect limit) where
  holder := by simp [start]
  fate := by simp [start, served, servedFrom]

theorem Reaches.fates {s₀ s : State σ} {tr : List Event} (hr : Reaches h s₀ tr s)
    (h₀ : Fates [] s₀) : Fates tr s := by
  induction hr with
  | refl => exact h₀
  | step _ hs ih => exact ih.step hs

/-! ## What the pending set holds -/

/-- While the parties work, or while the run goes on, the pending set holds what was never
taken. -/
theorem Invariant.pending_untaken {p₀ : Pending} {tr : List Event} {s : State σ}
    (hi : Invariant p₀ tr s) (hd : s.stage = .draining ∨ s.stopped = false) :
    s.pending.toList = untaken p₀ tr := by
  rw [untaken, ← hi.queue hd, List.drop_left]

/-- What a run from a well-formed pending set `p₀` keeps about it, having shown the events `tr`
and standing at `s`. -/
structure PutBack (p₀ : Pending) (tr : List Event) (s : State σ) : Prop where
  /-- While the parties work, the pending set is well formed. -/
  wf : s.stage = .draining → s.pending.Wf
  /-- No locator taken is blank. -/
  nonblank : ∀ u ∈ popped tr, (trimBlank u).isEmpty = false
  /-- Nothing is given up while the run goes on. -/
  keepsAll : s.stopped = false → s.tally.abandoned = []
  /-- Once the parties are done, an unaborted run's pending set is a well-formed set of what
  was never taken, with what was given up added to it. -/
  settled : s.stage ≠ .draining → s.tally.aborted = false →
    ∃ P : Pending, P.Wf ∧ P.toList = untaken p₀ tr ∧ s.pending = (P.add s.tally.abandoned).1
  /-- The leftover the run reads is what was never taken. -/
  leftover : ∀ l, s.stage = .settled l → l = (untaken p₀ tr).length
  /-- The answer counts as abandoned what was given up and what was never taken. -/
  answer : ∀ r err, s.stage = .returned r err →
    r.abandoned = s.tally.abandoned.length + (untaken p₀ tr).length

namespace PutBack

variable {p₀ : Pending} {tr evs : List Event} {s s' : State σ}

theorem wf_step (hpb : PutBack p₀ tr s) (hs : Step h s evs s') :
    s'.stage = .draining → s'.pending.Wf := by
  intro hd'
  cases hs with
  | popSeen _ hp | popNew _ hp => exact (hpb.wf hd').of_pop hp
  | @add c cs q n hw ha =>
    have hw' := (hpb.wf hd').add c
    rwa [ha] at hw'
  | settle | answer => simp at hd'
  | _ => exact hpb.wf hd'

theorem nonblank_step (hi : Invariant p₀ tr s) (hpb : PutBack p₀ tr s) (hs : Step h s evs s') :
    ∀ u ∈ popped (tr ++ evs), (trimBlank u).isEmpty = false := by
  cases hs with
  | popSeen hf hp | popNew hf hp =>
    -- the locator taken heads the pending set, which is well formed
    have hw := hpb.wf (hi.draining_of_feeder (by simp [hf]))
    intro v hv
    rw [popped_append_popped, List.mem_append, List.mem_singleton] at hv
    rcases hv with hv | rfl
    · exact hpb.nonblank v hv
    · exact hw.nonblank (by rw [Pending.toList_of_pop_some hp]; exact List.mem_cons_self)
  | _ =>
    -- no other step takes a locator
    simpa only [popped, pick_append, pick_cons, pick_nil, Event.popped?.eq_def,
      Option.toList_none, List.append_nil, String.isEmpty_eq_false_iff, ne_eq] using hpb.nonblank

theorem keepsAll_step (hpb : PutBack p₀ tr s) (hs : Step h s evs s') :
    s'.stopped = false → s'.tally.abandoned = [] := by
  intro hns'
  have hns := hs.not_stopped hns'
  cases hs with
  | drop _ hst | abandonReceived _ hst | limiterStopped _ hst | fetchedStopped _ hst =>
    -- giving a locator up needs a stopped run
    rw [hns] at hst
    cases hst
  | @trip u out e t hw hst he ht =>
    obtain ⟨rfl, -⟩ := Tally.eq_of_failure ht
    exact hpb.keepsAll hns
  | @fail u out e t w calls hw hst he ht hd =>
    obtain ⟨rfl, -⟩ := Tally.eq_of_failure ht
    exact hpb.keepsAll hns
  | _ => simpa using hpb.keepsAll hns

/-- Settling an unaborted run adds back what was given up to what was never taken. -/
theorem settled_of_settle (hi : Invariant p₀ tr s) (hpb : PutBack p₀ tr s)
    (hd : s.stage = .draining) (ha : s.tally.aborted = false) :
    ∃ P : Pending, P.Wf ∧ P.toList = untaken p₀ tr ∧
      s.settledPending = (P.add s.tally.abandoned).1 := by
  refine ⟨s.pending, hpb.wf hd, hi.pending_untaken (.inl hd), ?_⟩
  cases hc : s.canceled
  · -- a run that goes on gave nothing up, and adding nothing changes nothing
    have h0 := hpb.keepsAll (by simp [ha, hc])
    simp [State.settledPending, ha, hc, h0, Pending.add]
  · simp [State.settledPending, ha, hc]

theorem settled_step (hi : Invariant p₀ tr s) (hpb : PutBack p₀ tr s) (hs : Step h s evs s') :
    s'.stage ≠ .draining → s'.tally.aborted = false →
      ∃ P : Pending, P.Wf ∧ P.toList = untaken p₀ (tr ++ evs) ∧
        s'.pending = (P.add s'.tally.abandoned).1 := by
  intro hnd' ha'
  rcases hs.party_or_run hi with ⟨-, hd'⟩ | ⟨hd, rfl, rfl⟩ | ⟨hnd, rfl, hp, ht, -⟩
  · exact absurd hd' hnd'
  · simpa using hpb.settled_of_settle hi hd ha'
  · rw [ht] at ha' ⊢
    rw [hp, List.append_nil]
    exact hpb.settled hnd ha'

theorem leftover_step (hi : Invariant p₀ tr s) (hpb : PutBack p₀ tr s) (hs : Step h s evs s') :
    ∀ l, s'.stage = .settled l → l = (untaken p₀ (tr ++ evs)).length := by
  intro l hl
  rcases hs.party_or_run hi with ⟨-, hd'⟩ | ⟨hd, rfl, rfl⟩ | ⟨-, rfl, -, -, hst | ⟨l', -, hst⟩⟩
  · rw [hd'] at hl
    cases hl
  · -- the run reads the size of the pending set, which holds what was never taken
    simp only [Stage.settled.injEq] at hl
    rw [List.append_nil, ← hl, Pending.size_eq_length_toList, hi.pending_untaken (.inl hd)]
  · rw [List.append_nil]
    exact hpb.leftover l (hst ▸ hl)
  · rw [hst] at hl
    cases hl

theorem answer_step (hi : Invariant p₀ tr s) (hpb : PutBack p₀ tr s) (hs : Step h s evs s') :
    ∀ r err, s'.stage = .returned r err →
      r.abandoned = s'.tally.abandoned.length + (untaken p₀ (tr ++ evs)).length := by
  intro r err hr
  rcases hs.party_or_run hi with ⟨-, hd'⟩ | ⟨-, rfl, rfl⟩ | ⟨-, rfl, -, ht, hst | ⟨l, hl, hst⟩⟩
  · rw [hd'] at hr
    cases hr
  · cases hr
  · rw [ht, List.append_nil]
    exact hpb.answer r err (hst ▸ hr)
  · -- the answer counts the leftover the run read
    rw [hst] at hr
    cases hr
    rw [ht, List.append_nil, ← hpb.leftover l hl]
    rfl

theorem step (hi : Invariant p₀ tr s) (hpb : PutBack p₀ tr s) (hs : Step h s evs s') :
    PutBack p₀ (tr ++ evs) s' where
  wf := hpb.wf_step hs
  nonblank := hpb.nonblank_step hi hs
  keepsAll := hpb.keepsAll_step hs
  settled := hpb.settled_step hi hs
  leftover := hpb.leftover_step hi hs
  answer := hpb.answer_step hi hs

end PutBack

theorem PutBack.initial {p₀ : Pending} (hp : p₀.Wf) (batchId : String) (world : σ)
    (collect : Bool) (limit : Int) : PutBack p₀ [] (start batchId p₀ world collect limit) where
  wf _ := hp
  nonblank := by simp
  keepsAll _ := rfl
  settled hd := absurd rfl hd
  leftover _ hl := by cases hl
  answer _ _ hr := by cases hr

theorem Reaches.putBack {p₀ : Pending} {batchId : String} {world : σ} {collect : Bool}
    {limit : Int} {tr : List Event} {s : State σ} (hp : p₀.Wf)
    (hr : Reaches h (start batchId p₀ world collect limit) tr s) : PutBack p₀ tr s := by
  induction hr with
  | refl => exact PutBack.initial hp batchId world collect limit
  | step hr' hs ih => exact ih.step hr'.invariant hs

/-! ## A cancelled run -/

/-- What a cancelled run from `p₀` leaves behind once it has answered `r` and `err`, having
shown the events `tr` and standing at `s`. -/
structure Cancelled (p₀ : Pending) (tr : List Event) (s : State σ) (r : BatchResult)
    (err : Option FetchError) : Prop where
  /-- The answer counts as abandoned the locators given up and those never taken. -/
  abandonedCount : r.abandoned = s.tally.abandoned.length + (untaken p₀ tr).length
  /-- An aborted run answers the abort and leaves the pending set empty. -/
  onAbort : r.aborted = true → (∃ F L, err = some (.aborted F L)) ∧ s.pending = Pending.empty
  /-- Any other answers the cancellation. -/
  onCancel : r.aborted = false → err = some (.batchCanceled .canceled)
  /-- The locators handed out were each served or given up. -/
  gaveUp : r.aborted = false → (firstNew [] (popped tr)).Perm (served tr ++ s.tally.abandoned)
  /-- The pending set holds the locators never taken, then locators put back, each with the key
  of one given up and none with the key of one served. -/
  putBack : r.aborted = false → ∃ back, s.pending.toList = untaken p₀ tr ++ back ∧
    ∀ u ∈ back, Locator.key u ∈ s.tally.abandoned.map Locator.key ∧
      Locator.key u ∉ (served tr).map Locator.key
  /-- A key is pending exactly when it is the key of a locator never taken or given up. -/
  keys : r.aborted = false → ∀ k, k ∈ s.pending.toList.map Locator.key ↔
    k ∈ (untaken p₀ tr ++ s.tally.abandoned).map Locator.key

section Cancelled

variable {p₀ : Pending} {tr : List Event} {s : State σ}

/-- A run that has answered without aborting served or gave up each locator it handed out. -/
theorem gave_up (hi : Invariant p₀ tr s) (hf : Fates tr s) {r : BatchResult}
    {err : Option FetchError} (hst : s.stage = .returned r err) (ha : s.tally.aborted = false) :
    (firstNew [] (popped tr)).Perm (served tr ++ s.tally.abandoned) := by
  obtain ⟨hfe, hwe⟩ := hi.parties_done hst
  rw [hi.handoff, hfe]
  simpa [hwe] using hf.fate ha

/-- The locators a run gave up were taken, so none is blank. -/
theorem nonblank_of_gave_up (hpb : PutBack p₀ tr s)
    (hg : (firstNew [] (popped tr)).Perm (served tr ++ s.tally.abandoned)) :
    ∀ u ∈ s.tally.abandoned, (trimBlank u).isEmpty = false := by
  intro u hu
  have hfn : u ∈ firstNew [] (popped tr) := hg.mem_iff.2 (List.mem_append_right _ hu)
  exact hpb.nonblank u ((firstNew_sublist [] _).subset hfn)

/-- No key is both served and given up: the locators handed out have distinct keys. -/
theorem key_not_served (hg : (firstNew [] (popped tr)).Perm (served tr ++ s.tally.abandoned))
    {k : String} (hk : k ∈ s.tally.abandoned.map Locator.key) :
    k ∉ (served tr).map Locator.key := by
  have hnd : ((served tr).map Locator.key ++ s.tally.abandoned.map Locator.key).Nodup := by
    rw [← List.map_append]
    exact (hg.map Locator.key).nodup_iff.1 (nodup_map_key_firstNew [] _).1
  intro hs
  exact (List.nodup_append.1 hnd).2.2 k hs k hk rfl

end Cancelled

/-- Cancelling a run, whatever the point where the cancellation lands and whatever order the
parties take their steps in, puts back the locators it handed out and did not serve, and answers
the cancellation with them and the locators never taken counted as abandoned; unless the run
aborted first, in which case it answers the abort and clears the pending set. -/
theorem Reaches.cancelled {p : Pending} {batchId : String} {world : σ} {collect : Bool}
    {limit : Int} {tr : List Event} {s : State σ} {r : BatchResult} {err : Option FetchError}
    (hp : p.Wf) (hr : Reaches h (start batchId p world collect limit) tr s)
    (hst : s.stage = .returned r err) (hc : s.canceled = true) : Cancelled p tr s r err := by
  have hi := hr.invariant
  have hf := hr.fates (Fates.initial p batchId world collect limit)
  have hpb := hr.putBack hp
  have hce := hr.ceiling
  have hnd : s.stage ≠ .draining := by simp [hst]
  obtain ⟨l, rfl, rfl⟩ := hi.answered r err hst
  have hra : (s.result l).aborted = s.tally.aborted := rfl
  refine ⟨hpb.answer _ _ hst, ?_, ?_, ?_, ?_, ?_⟩
  · intro ha
    rw [hra] at ha
    exact ⟨⟨s.tally.failed, s.tally.limit, by simp [State.error, ha]⟩,
      (hce.cleared ha).resolve_left hnd⟩
  · intro ha
    rw [hra] at ha
    simp [State.error, ha, hc]
  · intro ha
    exact gave_up hi hf hst ha
  · intro ha
    have hg := gave_up hi hf hst ha
    obtain ⟨P, -, hPl, hpend⟩ := hpb.settled hnd ha
    refine ⟨(P.add s.tally.abandoned).1.toList.drop P.size, ?_, ?_⟩
    · rw [hpend, ← hPl]
      exact Pending.toList_add P _
    · -- each locator put back has the key of one given up
      intro u hu
      obtain ⟨raw, hraw, -, hk⟩ := Pending.mem_add_appended hu
      have hka : Locator.key u ∈ s.tally.abandoned.map Locator.key :=
        List.mem_map.2 ⟨raw, hraw, hk.symm⟩
      exact ⟨hka, key_not_served hg hka⟩
  · intro ha k
    have hnb := nonblank_of_gave_up hpb (gave_up hi hf hst ha)
    obtain ⟨P, hP, hPl, hpend⟩ := hpb.settled hnd ha
    rw [hpend, Pending.mem_keys_add hP, hPl, List.map_append, List.mem_append]
    refine or_congr_right ⟨?_, fun hk => ?_⟩
    · rintro ⟨raw, hraw, -, hk⟩
      exact List.mem_map.2 ⟨raw, hraw, hk⟩
    · obtain ⟨raw, hraw, hk⟩ := List.mem_map.1 hk
      exact ⟨raw, hraw, hnb raw hraw, hk⟩

/-- A sample run over `a` and `c`, cancelled once it has served `a` and while the caller's
addition of `b` and `a` is still to come. -/
def cancelledServing : State Unit :=
  { drive (sampleHooks false) 8 (sampleStart false 0) with canceled := true }

/-- The scheduler's run cancelled after serving `a`: the addition still lands, the `c` on offer is
put back, and the run answers the cancellation with its one success and the three locators
pending counted as abandoned. -/
theorem cancelled_after_serving :
    (Pending.ofList ["a", "c"]).Wf ∧
      (drive (sampleHooks false) 40 cancelledServing).stage =
        .returned { batchId := "b", succeeded := 1, abandoned := 3 }
          (some (.batchCanceled .canceled)) ∧
      (drive (sampleHooks false) 40 cancelledServing).canceled = true ∧
      Cancelled (Pending.ofList ["a", "c"])
        (events (sampleHooks false) 8 (sampleStart false 0) ++
          ([] ++ events (sampleHooks false) 40 cancelledServing))
        (drive (sampleHooks false) 40 cancelledServing)
        { batchId := "b", succeeded := 1, abandoned := 3 } (some (.batchCanceled .canceled)) :=
  ⟨Pending.wf_ofList _, rfl, rfl,
    Reaches.cancelled (Pending.wf_ofList _)
      ((reaches_drive 8 _).trans (Reaches.cons (Step.cancel rfl rfl) (reaches_drive 40 _)))
      rfl rfl⟩

end Batch

end Harvest
