import Mathlib.Data.Finset.Card
import Harvest.Proofs.Batch.Dispatch
import Harvest.Proofs.Batch.PendingKeys
/-!
# Harvest.Proofs.Batch.Termination

A batch run ends, whatever order its parties move in, as long as the caller's additions keep to
a finite set `K` of keys (`run_terminates`). Let `U` be `K` with the keys pending at the start.

No run goes on forever: each step lowers the *rank* of the run (`Step.rank_below`), read
lexicographically from

1. what the run itself has left: a cancellation, settling, answering (`State.stageLeft`);
2. the keys of `U` not taken yet (`State.unseen`): the feeder takes a new key only from `U`;
3. what the locator in flight has left, from being offered to being finished
   (`State.flightLeft`);
4. the locators waiting, with those the worker has still to add (`State.queued`): an addition
   appends no more than it is given, and each call counts one more;
5. the feeder's round (`State.roundLeft`): a wake-up, or the set found empty and filled since,
   pays for one more round.

A delivery may hand the worker any number of locators to add, but it moves the locator in flight
on, which ranks first. Nor does a run stop before it answers, even if the caller never cancels
(`Live.progress`): the worker can always move while it holds a locator, and a feeder that waits
without a wake-up waits for such a worker. On the way the fetcher is called at most once per key
of `U`, and the feeder takes at most what entered the set.
-/

namespace Harvest

/-- Every locator the caller adds, after any outcome and in any world, has its key in `K`. -/
def BatchHooks.AddsWithin {σ : Type} (h : BatchHooks σ) (K : Finset String) : Prop :=
  ∀ w o, ∀ c ∈ (h.deliver w o).2, ∀ u ∈ c, Locator.key u ∈ K

namespace Worker

/-- The additions the worker has still to pass to the pending set. -/
def calls : Worker → List (List String)
  | .adding cs => cs
  | _ => []

/-- How many of its steps the worker has left with its locator, finishing and leaving
included. -/
def left : Worker → Nat
  | .received _ => 5
  | .limiting _ => 4
  | .fetched .. => 3
  | .adding _ => 2
  | .idle => 1
  | .exited => 0

end Worker

namespace Batch

variable {σ : Type} {h : BatchHooks σ}

/-! ## The rank of a run -/

namespace State

/-- What the run itself has left: a cancellation while it may still come, then settling and
answering. -/
def stageLeft (s : State σ) : Nat :=
  (if s.canceled then 0 else 3) +
    match s.stage with
    | .draining => 2
    | .settled _ => 1
    | .returned .. => 0

/-- The keys of `U` the run has not taken yet. -/
def unseen (U : Finset String) (s : State σ) : Nat := (U.filter (· ∉ s.tally.seen)).card

/-- What the locator in flight has left: being offered counts more than all the worker's
steps. -/
def flightLeft (s : State σ) : Nat := 6 * s.feeder.held.length + s.worker.left

/-- The locators waiting, and those the worker has still to add, each call counting one more. -/
def queued (s : State σ) : Nat := s.pending.size + (s.worker.calls.map (·.length + 1)).sum

/-- How far the feeder is from the end of its round. A set found empty and filled since, or a
wake-up waiting, gives it one more round. -/
def roundLeft (s : State σ) : Nat :=
  (if s.tally.wake then 13 else 0) +
    match s.feeder with
    | .loop => 5
    | .pop => 4
    | .empty => if s.pending.size = 0 then 3 else 12
    | .recheck => if s.pending.size = 0 then 2 else 11
    | .waiting => 1
    | .offering _ => 0
    | .exited => 0

/-- The rank of a run, to be read lexicographically. -/
def rank (U : Finset String) (s : State σ) : ℕ × ℕ × ℕ × ℕ × ℕ :=
  (s.stageLeft, s.unseen U, s.flightLeft, s.queued, s.roundLeft)

end State

/-- The lexicographic order on ranks. -/
def RankBelow : ℕ × ℕ × ℕ × ℕ × ℕ → ℕ × ℕ × ℕ × ℕ × ℕ → Prop :=
  Prod.Lex (· < ·) (Prod.Lex (· < ·) (Prod.Lex (· < ·) (Prod.Lex (· < ·) (· < ·))))

theorem rankBelow_wf : WellFounded RankBelow :=
  WellFounded.prod_lex wellFounded_lt <| WellFounded.prod_lex wellFounded_lt <|
    WellFounded.prod_lex wellFounded_lt <| WellFounded.prod_lex wellFounded_lt wellFounded_lt

section Rank

variable {U : Finset String} {s s' : State σ}

theorem rankBelow_of_stage (h1 : s'.stageLeft < s.stageLeft) :
    RankBelow (s'.rank U) (s.rank U) :=
  Prod.Lex.left _ _ h1

theorem rankBelow_of_unseen (h1 : s'.stageLeft = s.stageLeft) (h2 : s'.unseen U < s.unseen U) :
    RankBelow (s'.rank U) (s.rank U) := by
  unfold State.rank
  rw [h1]
  exact Prod.Lex.right _ (Prod.Lex.left _ _ h2)

theorem rankBelow_of_flight (h1 : s'.stageLeft = s.stageLeft) (h2 : s'.unseen U = s.unseen U)
    (h3 : s'.flightLeft < s.flightLeft) : RankBelow (s'.rank U) (s.rank U) := by
  unfold State.rank
  rw [h1, h2]
  exact Prod.Lex.right _ (Prod.Lex.right _ (Prod.Lex.left _ _ h3))

theorem rankBelow_of_queued (h1 : s'.stageLeft = s.stageLeft) (h2 : s'.unseen U = s.unseen U)
    (h3 : s'.flightLeft = s.flightLeft) (h4 : s'.queued < s.queued) :
    RankBelow (s'.rank U) (s.rank U) := by
  unfold State.rank
  rw [h1, h2, h3]
  exact Prod.Lex.right _ (Prod.Lex.right _ (Prod.Lex.right _ (Prod.Lex.left _ _ h4)))

theorem rankBelow_of_round (h1 : s'.stageLeft = s.stageLeft) (h2 : s'.unseen U = s.unseen U)
    (h3 : s'.flightLeft = s.flightLeft) (h4 : s'.queued = s.queued)
    (h5 : s'.roundLeft < s.roundLeft) : RankBelow (s'.rank U) (s.rank U) := by
  unfold State.rank
  rw [h1, h2, h3, h4]
  exact Prod.Lex.right _ (Prod.Lex.right _ (Prod.Lex.right _ (Prod.Lex.right _ h5)))

end Rank

/-- Taking a new key of `U` leaves one key fewer untaken. -/
theorem unseen_dispatch {U : Finset String} {t : Tally} {k : String} (hk : k ∈ U)
    (hn : k ∉ t.seen) :
    (U.filter (· ∉ (t.dispatch k).seen)).card < (U.filter (· ∉ t.seen)).card := by
  apply Finset.card_lt_card
  refine (Finset.ssubset_iff_of_subset ?_).2 ⟨k, ?_, ?_⟩
  · intro x hx
    simp only [Tally.dispatch, Finset.mem_filter, List.mem_cons, not_or] at hx ⊢
    exact ⟨hx.1, hx.2.2⟩
  · simpa using ⟨hk, hn⟩
  · simp [Tally.dispatch]

attribute [local simp] State.flightLeft State.queued State.roundLeft State.stageLeft Feeder.held
  Worker.left Worker.calls Tally.abandon Tally.finished State.stopped

/-- Every step lowers the rank of the run, provided the feeder takes new keys only from `U`. -/
theorem Step.rank_below {U : Finset String} {evs : List Event} {s s' : State σ}
    (hU : s.feeder = .pop → ∀ u ∈ s.pending.toList, Locator.key u ∈ U) (hs : Step h s evs s') :
    RankBelow (s'.rank U) (s.rank U) := by
  cases hs with
  -- the run itself moves on
  | settle hst _ _ => exact rankBelow_of_stage (by simp [hst])
  | answer hst => exact rankBelow_of_stage (by simp [hst])
  | cancel hc _ => exact rankBelow_of_stage (by simp [hc])
  -- the feeder takes a new key
  | @popNew u q hf hp hk =>
    have hu : Locator.key u ∈ U := hU hf u (by simp [Pending.toList_of_pop_some hp])
    exact rankBelow_of_unseen rfl (unseen_dispatch hu hk)
  -- the locator in flight moves on
  | hand hf hw => exact rankBelow_of_flight rfl rfl (by simp [hf, hw])
  | drop hf _ => exact rankBelow_of_flight rfl rfl (by simp [hf])
  | leave hw hf => exact rankBelow_of_flight rfl rfl (by simp [hf, hw])
  | abandonReceived hw _ | refuse hw _ _ _ | permit hw _ _ | fetch hw _ | limiterStopped hw _
  | fetchedStopped hw _ | succeed hw _ _ | fetcherRefused hw _ _ _ | finish hw =>
    exact rankBelow_of_flight rfl rfl (by simp [hw])
  | @fail u out e t w calls hw _ _ ht _ =>
    obtain ⟨rfl, -⟩ := Tally.eq_of_failure ht
    exact rankBelow_of_flight rfl rfl (by simp [hw])
  | @trip u out e t hw _ _ ht =>
    obtain ⟨rfl, -⟩ := Tally.eq_of_failure ht
    exact rankBelow_of_flight rfl rfl (by simp [hw])
  -- the set shrinks, or the worker passes one addition on
  | popSeen hf hp _ =>
    have hsz := Pending.size_of_pop_some hp
    exact rankBelow_of_queued rfl rfl (by simp [hf]) (by simp; omega)
  | @add c cs q n hw ha =>
    -- an addition appends no more than it is given
    have hle : q.size ≤ s.pending.size + c.length := by
      simpa [ha] using Pending.size_add_le s.pending c
    exact rankBelow_of_queued rfl rfl (by simp [hw]) (by simp [hw]; omega)
  -- the feeder goes round
  | feederSeesAbort hf _ | feederGoesOn hf _ | waitStopped hf _ =>
    exact rankBelow_of_round rfl rfl (by simp [hf]) rfl (by simp [hf])
  | recheckDone hf hn | recheckMore hf hn =>
    exact rankBelow_of_round rfl rfl (by simp [hf]) rfl (by simp [hf, hn])
  | emptyBusy hf _ | emptyIdle hf _ =>
    -- whether the set is still empty, the feeder's next position ranks lower
    refine rankBelow_of_round rfl rfl (by simp [hf]) rfl ?_
    by_cases hz : s.pending.size = 0 <;> simp [hf, hz]
  | popEmpty hf hp =>
    -- the set was found empty
    have he := Pending.toList_of_pop_none hp
    have hsz : s.pending.size = 0 := by simp [Pending.size_eq_length_toList, he]
    exact rankBelow_of_round rfl rfl (by simp [hf]) rfl (by simp [hf, hsz])
  | wakeUp hf hw => exact rankBelow_of_round rfl rfl (by simp [hf]) rfl (by simp [hf, hw])

/-! ## What a run keeps about the keys it may take -/

/-- What a run keeps about the locators it may take, the caller adding locators with keys in
`K` only. -/
structure Keyed (K : Finset String) (p₀ : Pending) (tr : List Event) (s : State σ) : Prop where
  /-- The feeder took locators in the order they entered the set. -/
  taken : popped tr <+: p₀.toList ++ entered tr
  /-- Every locator the caller's additions appended has its key in `K`. -/
  addedKeys : ∀ u ∈ entered tr, Locator.key u ∈ K
  /-- So has every locator the worker has still to add. -/
  callKeys : ∀ c ∈ s.worker.calls, ∀ u ∈ c, Locator.key u ∈ K

attribute [local simp] popped entered Event.popped?.eq_def Event.entered.eq_def

namespace Keyed

variable {K : Finset String} {p₀ : Pending} {tr evs : List Event} {s s' : State σ}

theorem taken_step (hi : Invariant p₀ tr s) (hk : Keyed K p₀ tr s) (hs : Step h s evs s') :
    popped (tr ++ evs) <+: p₀.toList ++ entered (tr ++ evs) := by
  cases hs with
  | @popSeen u q hf hp _ | @popNew u q hf hp _ =>
    -- what is pending follows what was taken, and the feeder takes its head
    have hq := hi.queue (.inl (hi.draining_of_feeder (by simp [hf])))
    rw [Pending.toList_of_pop_some hp] at hq
    exact ⟨q.toList, by simpa using hq⟩
  | add _ _ =>
    simpa [← List.append_assoc] using hk.taken.trans (List.prefix_append _ _)
  | _ => simpa using hk.taken

theorem addedKeys_step (hk : Keyed K p₀ tr s) (hs : Step h s evs s') :
    ∀ u ∈ entered (tr ++ evs), Locator.key u ∈ K := by
  intro u hu
  rw [entered, List.flatMap_append, List.mem_append] at hu
  rcases hu with hu | hu
  · exact hk.addedKeys u hu
  · -- only an addition appends, the trimmed text of a locator the worker passed on
    cases hs with
    | @add c cs q n hw ha =>
      simp only [List.flatMap_cons, List.flatMap_nil, List.append_nil, Event.entered] at hu
      obtain ⟨raw, hraw, -, hkey⟩ := Pending.mem_add_appended (by rw [ha]; exact hu)
      rw [hkey]
      exact hk.callKeys c (by simp [hw]) raw hraw
    | _ => simp [Event.entered] at hu

theorem callKeys_step {K : Finset String} (hK : h.AddsWithin K) (hk : Keyed K p₀ tr s)
    (hs : Step h s evs s') : ∀ c ∈ s'.worker.calls, ∀ u ∈ c, Locator.key u ∈ K := by
  intro c hc
  cases hs with
  | refuse _ _ _ hd | succeed _ _ hd | fetcherRefused _ _ _ hd | fail _ _ _ _ hd =>
    -- what a delivery hands the worker comes from the caller
    exact hK _ _ c (by rw [hd]; simpa using hc)
  | add hw _ => exact hk.callKeys c (by simp [hw] at hc ⊢; exact .inr hc)
  | feederSeesAbort | feederGoesOn | popEmpty | popSeen | popNew | emptyBusy | emptyIdle
  | recheckDone | recheckMore | wakeUp | waitStopped | drop | settle | answer | cancel =>
    exact hk.callKeys c hc
  | _ => simp at hc

theorem step (hK : h.AddsWithin K) (hi : Invariant p₀ tr s) (hk : Keyed K p₀ tr s)
    (hs : Step h s evs s') : Keyed K p₀ (tr ++ evs) s' :=
  ⟨hk.taken_step hi hs, hk.addedKeys_step hs, hk.callKeys_step hK hs⟩

/-- While the parties work, every locator pending has its key in `K` or among those pending at
the start. -/
theorem pending_keys (hi : Invariant p₀ tr s) (hk : Keyed K p₀ tr s) (hd : s.stage = .draining) :
    ∀ u ∈ s.pending.toList, Locator.key u ∈ K ∪ (p₀.toList.map Locator.key).toFinset := by
  intro u hu
  have hq := hi.queue (.inl hd)
  have hmem : u ∈ p₀.toList ++ entered tr := by
    rw [← hq]
    exact List.mem_append_right _ hu
  rcases List.mem_append.1 hmem with h0 | he
  · exact Finset.mem_union_right _ (by simpa using ⟨u, h0, rfl⟩)
  · exact Finset.mem_union_left _ (hk.addedKeys u he)

/-- Every locator the worker checked has its key in `K` or among those pending at the start. -/
theorem checked_keys (hi : Invariant p₀ tr s) (hk : Keyed K p₀ tr s) :
    ∀ u ∈ checked tr, Locator.key u ∈ K ∪ (p₀.toList.map Locator.key).toFinset := by
  intro u hu
  -- checked, so handed, so taken with a new key, so entered the set
  have hc : (checked tr).Sublist (handed tr) := (List.sublist_append_left _ _).trans hi.checkOrder
  have hh : (handed tr).Sublist (popped tr) := by
    refine List.Sublist.trans ?_ (firstNew_sublist [] _)
    rw [hi.handoff, List.append_assoc]
    exact List.sublist_append_left _ _
  have hmem : u ∈ p₀.toList ++ entered tr := hk.taken.subset ((hc.trans hh).subset hu)
  rcases List.mem_append.1 hmem with h0 | he
  · exact Finset.mem_union_right _ (by simpa using ⟨u, h0, rfl⟩)
  · exact Finset.mem_union_left _ (hk.addedKeys u he)

/-- The fetcher is called at most once per key of `K` or pending at the start. -/
theorem fetched_le (hi : Invariant p₀ tr s) (hk : Keyed K p₀ tr s) :
    (fetched tr).length ≤ (K ∪ (p₀.toList.map Locator.key).toFinset).card := by
  have hsub : (fetched tr).Sublist (checked tr) := (List.sublist_append_left _ _).trans hi.fetchOrder
  calc (fetched tr).length
      ≤ (checked tr).length := hsub.length_le
    _ = ((checked tr).map Locator.key).toFinset.card := by
        rw [List.toFinset_card_of_nodup hi.nodup_keys_checked, List.length_map]
    _ ≤ (K ∪ (p₀.toList.map Locator.key).toFinset).card := by
        apply Finset.card_le_card
        intro k hkm
        obtain ⟨u, hu, rfl⟩ := List.mem_map.1 (List.mem_toFinset.1 hkm)
        exact hk.checked_keys hi u hu

/-- The feeder takes at most the locators pending at the start and those the additions
appended. -/
theorem popped_le (hk : Keyed K p₀ tr s) : (popped tr).length ≤ p₀.size + (entered tr).length := by
  have hl := hk.taken.length_le
  rw [List.length_append, ← Pending.size_eq_length_toList] at hl
  exact hl

end Keyed

/-! ## No run stops before it answers -/

theorem Worker.busy_le_one (w : Worker) : w.busy ≤ 1 := by
  cases w <;> simp [Worker.busy]

/-- What keeps a run from getting stuck before it answers. -/
structure Live (s : State σ) : Prop where
  /-- A feeder waiting without a wake-up waits for a worker holding a locator. -/
  waiting : s.feeder = .waiting → s.tally.wake = false → s.worker.busy = 1
  /-- The worker leaves only after the feeder. -/
  workerLast : s.worker = .exited → s.feeder = .exited

namespace Live

variable {p₀ : Pending} {tr evs : List Event} {s s' : State σ}

theorem waiting_step (hi : Invariant p₀ tr s) (hl : Live s) (hs : Step h s evs s') :
    s'.feeder = .waiting → s'.tally.wake = false → s'.worker.busy = 1 := by
  intro hf' hw'
  cases hs with
  | emptyBusy hf hi0 =>
    -- something was in flight, and the feeder offered nothing: the worker held it
    have hin := hi.inflight
    simp only [hf, Feeder.held, List.length_nil, Nat.zero_add] at hin
    have hb : s.worker.busy ≠ 0 := hin ▸ hi0
    have := Worker.busy_le_one s.worker
    show s.worker.busy = 1
    omega
  | finish hw => simp at hw'
  | abandonReceived | refuse | permit | fetch | limiterStopped | fetchedStopped | succeed
  | fetcherRefused | fail | trip | add =>
    simp [Worker.busy]
  | settle | answer | cancel => exact hl.waiting hf' hw'
  | leave _ hf | hand hf _ => simp [hf] at hf'
  | feederSeesAbort | feederGoesOn | popEmpty | popSeen | popNew | emptyIdle | recheckDone
  | recheckMore | wakeUp | waitStopped | drop =>
    simp at hf'

theorem workerLast_step (hl : Live s) (hs : Step h s evs s') :
    s'.worker = .exited → s'.feeder = .exited := by
  intro hw'
  cases hs with
  | leave _ hf => exact hf
  | feederSeesAbort hf | feederGoesOn hf | popEmpty hf | popSeen hf | popNew hf | emptyBusy hf
  | emptyIdle hf | recheckDone hf | recheckMore hf | wakeUp hf | waitStopped hf | drop hf =>
    -- the feeder moved, so it had not left, and neither had the worker
    have := hl.workerLast hw'
    simp [hf] at this
  | settle | answer | cancel => exact hl.workerLast hw'
  | _ => simp at hw'

theorem step (hi : Invariant p₀ tr s) (hl : Live s) (hs : Step h s evs s') : Live s' :=
  ⟨hl.waiting_step hi hs, hl.workerLast_step hs⟩

end Live

/-- A worker holding a locator can always move, and not by a cancellation. -/
theorem worker_moves {s : State σ} (hb : s.worker.busy = 1) :
    ∃ evs s', Step h s evs s' ∧ s'.canceled = s.canceled := by
  cases hw : s.worker with
  | idle | exited => simp [hw, Worker.busy] at hb
  | received u =>
    cases hst : s.stopped
    · cases hp : h.permits u
      · exact ⟨_, _, .refuse hw hst hp rfl, rfl⟩
      · exact ⟨_, _, .permit hw hst hp, rfl⟩
    · exact ⟨_, _, .abandonReceived hw hst, rfl⟩
  | limiting u => exact ⟨_, _, .fetch hw rfl, rfl⟩
  | fetched u out err =>
    cases hst : s.stopped
    · cases err with
      | none => exact ⟨_, _, .succeed hw hst rfl, rfl⟩
      | some e =>
        cases he : e.isFiltered
        · rcases ht : s.tally.failure with ⟨t, _ | _⟩
          · exact ⟨_, _, .fail hw hst he ht rfl, rfl⟩
          · exact ⟨_, _, .trip hw hst he ht, rfl⟩
        · exact ⟨_, _, .fetcherRefused hw hst he rfl, rfl⟩
    · exact ⟨_, _, .fetchedStopped hw hst, rfl⟩
  | adding cs =>
    cases cs with
    | nil => exact ⟨_, _, .finish hw, rfl⟩
    | cons c cs => exact ⟨_, _, .add hw rfl, rfl⟩

/-- A feeder that has not left can move while the worker holds nothing. -/
theorem Live.feeder_moves {s : State σ} (hl : Live s) (hf : s.feeder ≠ .exited)
    (hb : s.worker.busy = 0) : ∃ evs s', Step h s evs s' ∧ s'.canceled = s.canceled := by
  cases hfd : s.feeder with
  | exited => exact absurd hfd hf
  | loop =>
    cases ha : s.tally.aborted
    · exact ⟨_, _, .feederGoesOn hfd ha, rfl⟩
    · exact ⟨_, _, .feederSeesAbort hfd ha, rfl⟩
  | pop =>
    rcases hp : s.pending.pop with ⟨_ | u, q⟩
    · exact ⟨_, _, .popEmpty hfd (by rw [hp]), rfl⟩
    · by_cases hk : Locator.key u ∈ s.tally.seen
      · exact ⟨_, _, .popSeen hfd hp hk, rfl⟩
      · exact ⟨_, _, .popNew hfd hp hk, rfl⟩
  | empty =>
    by_cases hi0 : s.tally.inflight = 0
    · exact ⟨_, _, .emptyIdle hfd hi0, rfl⟩
    · exact ⟨_, _, .emptyBusy hfd hi0, rfl⟩
  | recheck =>
    by_cases hn : s.pending.size = 0
    · exact ⟨_, _, .recheckDone hfd hn, rfl⟩
    · exact ⟨_, _, .recheckMore hfd hn, rfl⟩
  | waiting =>
    cases hw : s.tally.wake
    · cases hst : s.stopped
      · -- no wake-up and no stop: the worker holds a locator, which it does not
        have := hl.waiting hfd hw
        omega
      · exact ⟨_, _, .waitStopped hfd hst, rfl⟩
    · exact ⟨_, _, .wakeUp hfd hw, rfl⟩
  | offering u =>
    rcases Worker.busy_eq_zero.1 hb with hw | hw
    · exact ⟨_, _, .hand hfd hw, rfl⟩
    · exact absurd (hl.workerLast hw) (by simp [hfd])

/-- A run that has not answered can always go on without the caller cancelling. -/
theorem Live.progress {s : State σ} (hl : Live s) (hna : s.stage.answered = false) :
    ∃ evs s', Step h s evs s' ∧ s'.canceled = s.canceled := by
  cases hst : s.stage with
  | returned r err => simp [hst, Stage.answered] at hna
  | settled l => exact ⟨_, _, .answer hst, rfl⟩
  | draining =>
    by_cases hb : s.worker.busy = 1
    · exact worker_moves hb
    have hb0 : s.worker.busy = 0 := by
      have := Worker.busy_le_one s.worker
      omega
    by_cases hfe : s.feeder = .exited
    · -- the feeder has left: the idle worker leaves, then the run settles
      rcases Worker.busy_eq_zero.1 hb0 with hw | hw
      · exact ⟨_, _, .leave hw hfe, rfl⟩
      · exact ⟨_, _, .settle hst hfe hw, rfl⟩
    · exact hl.feeder_moves hfe hb0

/-! ## Every run ends -/

section Runs

variable {K : Finset String} {p₀ : Pending} {batchId : String} {world : σ} {collect : Bool}
  {limit : Int} {tr : List Event} {s : State σ}

theorem Reaches.keyed (hK : h.AddsWithin K)
    (hr : Reaches h (start batchId p₀ world collect limit) tr s) : Keyed K p₀ tr s := by
  induction hr with
  | refl => exact ⟨by simp, by simp, by simp [start]⟩
  | step hr' hs ih => exact ih.step hK hr'.invariant hs

theorem Reaches.live (hr : Reaches h (start batchId p₀ world collect limit) tr s) : Live s := by
  induction hr with
  | refl => exact ⟨by simp [start], by simp [start]⟩
  | step hr' hs ih => exact ih.step hr'.invariant hs

/-- Every state a run reaches is accessible: no run from it goes on forever. -/
theorem Reaches.acc (hK : h.AddsWithin K)
    (hr : Reaches h (start batchId p₀ world collect limit) tr s) :
    Acc (fun s' s => ∃ evs, Step h s evs s') s := by
  -- induction on the rank, along the run
  suffices ∀ r tr s, Reaches h (start batchId p₀ world collect limit) tr s →
      s.rank (K ∪ (p₀.toList.map Locator.key).toFinset) = r →
      Acc (fun s' s => ∃ evs, Step h s evs s') s from this _ tr s hr rfl
  intro r
  induction r using rankBelow_wf.induction with
  | _ r ih =>
    intro tr s hr hrank
    refine Acc.intro s ?_
    rintro s' ⟨evs, hs⟩
    have hi := hr.invariant
    have hU := fun (hf : s.feeder = .pop) =>
      (hr.keyed hK).pending_keys hi (hi.draining_of_feeder (by simp [hf]))
    exact ih _ (hrank ▸ hs.rank_below hU) (tr ++ evs) s' (hr.step hs) rfl

end Runs

/-- What it means for the runs from `s₀` to end, the fetcher being called at most `bound`
times. -/
structure Terminates (h : BatchHooks σ) (s₀ : State σ) (p₀ : Pending) (bound : Nat) : Prop where
  /-- No run goes on forever. -/
  finite : Acc (fun s' s => ∃ evs, Step h s evs s') s₀
  /-- A run that has not answered can go on without the caller cancelling. -/
  progress : ∀ tr s, Reaches h s₀ tr s → s.stage.answered = false →
    ∃ evs s', Step h s evs s' ∧ s'.canceled = s.canceled
  /-- The fetcher is called at most `bound` times. -/
  fetches : ∀ tr s, Reaches h s₀ tr s → (fetched tr).length ≤ bound
  /-- The feeder takes at most the locators pending at the start and those the caller's
  additions appended. -/
  pops : ∀ tr s, Reaches h s₀ tr s → (popped tr).length ≤ p₀.size + (entered tr).length

/-- When the caller adds only locators with keys in a finite set `K`, every batch run ends,
whatever order its parties move in: no run goes on forever and none stops before it answers;
the fetcher is called at most once per key of `K` or pending at the start, and the feeder takes
at most what entered the set, however often the caller adds locators taken before. -/
theorem run_terminates {K : Finset String} (hK : h.AddsWithin K) (p : Pending) (batchId : String)
    (world : σ) (collect : Bool) (limit : Int) :
    Terminates h (start batchId p world collect limit) p
      (K ∪ (p.toList.map Locator.key).toFinset).card where
  finite := Reaches.acc hK .refl
  progress _ _ hr hna := hr.live.progress hna
  fetches _ _ hr := (hr.keyed hK).fetched_le hr.invariant
  pops _ _ hr := (hr.keyed hK).popped_le

/-- A world whose fetches all succeed and whose caller adds the locator `a` again after every
outcome. -/
def echoHooks : BatchHooks Unit where
  permits _ := true
  fetch w u := (w, { url := u, ok := true }, none)
  deliver w _ := (w, [["a"]])
  workerStarted w := w
  workerFinished w := w
  batchFailure w := w

/-- A batch over `a` in that world ends, the fetcher being called once, though the caller adds
`a` back after every outcome. -/
theorem terminates_echo :
    echoHooks.AddsWithin {Locator.key "a"} ∧
      Terminates echoHooks (start "b" (Pending.ofList ["a"]) () false 0) (Pending.ofList ["a"])
        ({Locator.key "a"} ∪ ((Pending.ofList ["a"]).toList.map Locator.key).toFinset).card := by
  have hK : echoHooks.AddsWithin {Locator.key "a"} := by
    intro w o c hc u hu
    simp only [echoHooks, List.mem_singleton] at hc
    subst hc
    simp only [List.mem_singleton] at hu
    simp [hu]
  exact ⟨hK, run_terminates hK _ _ _ _ _⟩

end Batch

end Harvest
