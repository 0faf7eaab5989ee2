import Mathlib.Algebra.BigOperators.Group.Finset.Basic
import Mathlib.Algebra.Order.BigOperators.Group.Finset
import Mathlib.Tactic.Abel
import Mathlib.Tactic.FinCases
import Harvest.Batch.Crew
/-!
# Harvest.Proofs.Batch.Crew

The books of a run with a crew of `n` workers, whatever order the crew, the feeder and the run
take their steps in, whatever the fetcher answers and whatever the caller adds on the way
(`Reaches.crewBooks`):

* every locator handed to a worker is settled once: given up, counted as succeeded, failed or
  filtered, or, in an aborted run only, a success that came too late to be counted anywhere; the
  answer's counts are the events of each kind;
* a run that aborts tripped its ceiling `M` once, with its `M`-th failure, and answers as failed
  `M` and the failures counted after the trip;
* after the trip the crew counts at most `n - 1` more failures and successes, and counts a failure
  or delivers an outcome at most `n - 1` times in all: once for each other worker that had passed
  its last test of the run, or stood at the filter, when the ceiling tripped.

So with two workers or more the ceiling is no bound on the failures answered, and outcomes are
still delivered after the abort (`crew_counts_past_ceiling`).

A step moves the feeder or the run, or it moves one worker (`Step.moves`), and what a worker's move
does is read off where it stands (`Move`). A weight summed over the crew (`load`) changes by the
difference of two weights when one worker moves (`load_set`): that carries each count of the crew
from one step to the next.
-/

namespace Harvest

namespace Tally

/-- A failure counted in an aborted run counts one more failed locator and changes nothing else. -/
theorem failure_of_aborted {t : Tally} (ha : t.aborted = true) :
    t.failure = ({ t with failed := t.failed + 1 }, true) := by
  simp [Tally.failure, ha]

/-- A failure that does not abort the run was counted in a run that goes on. -/
theorem going_of_failure {t t' : Tally} (ht : t.failure = (t', false)) :
    t.aborted = false := by
  cases ha : t.aborted
  · rfl
  · cases (Tally.eq_of_failure ht).2 ha

/-- A success that comes after the abort is counted nowhere. -/
theorem success_of_aborted {t : Tally} (out : Outcome) (ha : t.aborted = true) :
    t.success out = t := by
  cases t
  simp_all [Tally.success]

end Tally

namespace Crew

variable {σ : Type} {n : Nat} {h : BatchHooks σ}

/-! ## What a run shows and what the crew holds -/

namespace Event

/-- The locator a worker receives. -/
def taken? : Event → Option String
  | handed u => some u
  | _ => none

/-- The locator a worker settles: gives up, counts, or leaves uncounted after an abort. -/
def settled? : Event → Option String
  | abandoned u | succeeded u _ | ignored u _ | filtered u | failed u _ => some u
  | _ => none

/-- The locator whose success was counted. -/
def succeeded? : Event → Option String
  | succeeded u _ => some u
  | _ => none

/-- The locator whose success came after the abort. -/
def ignored? : Event → Option String
  | ignored u _ => some u
  | _ => none

/-- The locator counted as filtered. -/
def filtered? : Event → Option String
  | filtered u => some u
  | _ => none

/-- The locator and the failure counted. -/
def failed? : Event → Option (String × FetchError)
  | failed u e => some (u, e)
  | _ => none

/-- The locator given up, by a worker or by the feeder. -/
def givenUp? : Event → Option String
  | abandoned u | dropped u => some u
  | _ => none

/-- The outcome delivered. -/
def delivered? : Event → Option Outcome
  | delivered out => some out
  | _ => none

end Event

/-- The locators handed to workers. -/
def taken (tr : List Event) : Multiset String := tr.filterMap Event.taken?

/-- The locators workers settled. -/
def settled (tr : List Event) : Multiset String := tr.filterMap Event.settled?

/-- The successes counted. -/
def successes (tr : List Event) : List String := tr.filterMap Event.succeeded?

/-- The successes counted nowhere, having come after the abort. -/
def uncounted (tr : List Event) : List String := tr.filterMap Event.ignored?

/-- The locators counted as filtered. -/
def refusals (tr : List Event) : List String := tr.filterMap Event.filtered?

/-- The failures counted. -/
def failures (tr : List Event) : List (String × FetchError) := tr.filterMap Event.failed?

/-- The locators given up. -/
def givenUp (tr : List Event) : List String := tr.filterMap Event.givenUp?

/-- The outcomes delivered. -/
def deliveries (tr : List Event) : List Outcome := tr.filterMap Event.delivered?

section Append

variable (tr evs : List Event)

theorem taken_append : taken (tr ++ evs) = taken tr + taken evs := by
  simp [taken]

theorem settled_append : settled (tr ++ evs) = settled tr + settled evs := by
  simp [settled]

@[simp] theorem successes_append : successes (tr ++ evs) = successes tr ++ successes evs :=
  List.filterMap_append
@[simp] theorem uncounted_append : uncounted (tr ++ evs) = uncounted tr ++ uncounted evs :=
  List.filterMap_append
@[simp] theorem refusals_append : refusals (tr ++ evs) = refusals tr ++ refusals evs :=
  List.filterMap_append
@[simp] theorem failures_append : failures (tr ++ evs) = failures tr ++ failures evs :=
  List.filterMap_append
@[simp] theorem givenUp_append : givenUp (tr ++ evs) = givenUp tr ++ givenUp evs :=
  List.filterMap_append
@[simp] theorem deliveries_append : deliveries (tr ++ evs) = deliveries tr ++ deliveries evs :=
  List.filterMap_append

@[simp] theorem uncounted_nil : uncounted [] = [] := rfl
@[simp] theorem failures_nil : failures [] = [] := rfl
@[simp] theorem deliveries_nil : deliveries [] = [] := rfl

end Append

namespace Hand

/-- The locator a worker holds: received, and not yet settled. -/
def held : Hand → Multiset String
  | received u | cleared u | started u | limiting u | fetching u | fetched u _ _
  | recording u _ _ => {u}
  | _ => 0

/-- Whether a worker is about to count an outcome, its last test of the run behind it. -/
def counting : Hand → Nat
  | recording .. => 1
  | _ => 0

/-- Whether a worker can count a failure or deliver an outcome with no test of the run on the
way: it is about to count or to deliver, or it stands at the filter, whose refusal is counted and
delivered whatever the state of the run. -/
def showing : Hand → Nat
  | started _ | recording .. | delivering _ => 1
  | _ => 0

end Hand

/-! ## Weights summed over the crew -/

/-- A weight summed over the crew. -/
def load {M : Type} [AddCommMonoid M] (c : Hand → M) (hands : Fin n → Hand) : M :=
  ∑ j, c (hands j)

section Load

variable {M : Type} [AddCommMonoid M]

/-- When one worker moves, the sum of a weight over the crew loses the weight of where it stood
and gains the weight of where it goes. -/
theorem load_set (c : Hand → M) (s : State σ n) (i : Fin n) (x : Hand) :
    load c (s.set i x).hands + c (s.hands i) = load c s.hands + c x := by
  have hrest : ∑ j ∈ Finset.univ.erase i, c ((s.set i x).hands j) =
      ∑ j ∈ Finset.univ.erase i, c (s.hands j) :=
    Finset.sum_congr rfl fun j hj => by simp [State.set, Finset.ne_of_mem_erase hj]
  have hi : (s.set i x).hands i = x := by simp [State.set]
  unfold load
  rw [← Finset.add_sum_erase _ _ (Finset.mem_univ i), hrest, hi,
    ← Finset.add_sum_erase _ (fun j => c (s.hands j)) (Finset.mem_univ i)]
  abel

/-- A balance between the events a run showed and what its crew holds carries over a move of one
worker whose own events balance the move. -/
theorem load_balance [IsCancelAdd M] {c : Hand → M} {T S t u : M} {s : State σ n} {i : Fin n}
    {y : Hand} (hi : T = S + load c s.hands) (hb : t + c (s.hands i) = u + c y) :
    T + t = S + u + load c (s.set i y).hands := by
  apply add_right_cancel (b := c (s.hands i))
  calc T + t + c (s.hands i) = S + (u + c y) + load c s.hands := by rw [← hb, hi]; abel
    _ = S + u + (load c (s.set i y).hands + c (s.hands i)) := by rw [load_set]; abel
    _ = S + u + load c (s.set i y).hands + c (s.hands i) := by abel

end Load

/-- A weight of at most one is summed to at most the size of the crew. -/
theorem load_le {c : Hand → Nat} (hc : ∀ x, c x ≤ 1) (hands : Fin n → Hand) :
    load c hands ≤ n :=
  calc load c hands ≤ ∑ _j : Fin n, 1 := Finset.sum_le_sum fun j _ => hc (hands j)
    _ = n := by simp

/-- A worker of weight one that moves to weight zero leaves the rest of the crew short of its
size. -/
theorem load_set_lt {c : Hand → Nat} (hc : ∀ x, c x ≤ 1) {s : State σ n} {i : Fin n} {y : Hand}
    (hx : c (s.hands i) = 1) (hy : c y = 0) : load c (s.set i y).hands + 1 ≤ n := by
  have hset := load_set c s i y
  have hle := load_le hc s.hands
  omega

/-- A crew that has gone holds nothing. -/
theorem load_held_exited {hands : Fin n → Hand} (hx : ∀ i, hands i = .exited) :
    load Hand.held hands = 0 := by
  simp [load, hx, Hand.held]

/-! ## What a step can do -/

namespace State

variable (s : State σ n) (i : Fin n) (x : Hand)

@[simp] theorem set_tally : (s.set i x).tally = s.tally := rfl
@[simp] theorem set_world : (s.set i x).world = s.world := rfl
@[simp] theorem set_pending : (s.set i x).pending = s.pending := rfl
@[simp] theorem set_canceled : (s.set i x).canceled = s.canceled := rfl
@[simp] theorem set_feeder : (s.set i x).feeder = s.feeder := rfl
@[simp] theorem set_stage : (s.set i x).stage = s.stage := rfl
@[simp] theorem set_batchId : (s.set i x).batchId = s.batchId := rfl

end State

/-- An aborted run's context is done. -/
theorem State.stopped_of_aborted {s : State σ n} (ha : s.tally.aborted = true) :
    s.stopped = true := by
  simp [State.stopped, State.core, Batch.State.stopped, ha]

/-- The moves of one worker: where it stands before and after, and what it shows. The first two
indices say what a move needs of the run, where it depends on them: whether the run is aborted,
and whether its context is done. -/
inductive Move : Bool → Bool → Hand → List Event → Hand → Prop where
  | hand {ab st : Bool} (u : String) : Move ab st .idle [.handed u] (.received u)
  | leave {ab st : Bool} : Move ab st .idle [] .exited
  | receivedAborted {st : Bool} (u : String) :
      Move true st (.received u) [.abandoned u] (.adding [])
  | receivedGoesOn {st : Bool} (u : String) : Move false st (.received u) [] (.cleared u)
  | clearedStopped {ab : Bool} (u : String) :
      Move ab true (.cleared u) [.abandoned u] (.adding [])
  | begin {ab : Bool} (u : String) : Move ab false (.cleared u) [.started u] (.started u)
  | refuse {ab st : Bool} (u : String) :
      Move ab st (.started u) [.filtered u] (.delivering (Outcome.failed u (.filtered u)))
  | permit {ab st : Bool} (u : String) : Move ab st (.started u) [] (.limiting u)
  | attempt {ab st : Bool} (u : String) : Move ab st (.limiting u) [.attempted u] (.fetching u)
  | limiterStopped {ab : Bool} (u : String) :
      Move ab true (.limiting u) [.abandoned u] (.adding [])
  | fetchReturns {ab st : Bool} (u : String) (out : Outcome) (err : Option FetchError) :
      Move ab st (.fetching u) [] (.fetched u out err)
  | fetchedStopped {ab : Bool} (u : String) (out : Outcome) (err : Option FetchError) :
      Move ab true (.fetched u out err) [.abandoned u] (.adding [])
  | fetchedGoesOn {ab : Bool} (u : String) (out : Outcome) (err : Option FetchError) :
      Move ab false (.fetched u out err) [] (.recording u out err)
  | succeed {st : Bool} (u : String) (out : Outcome) :
      Move false st (.recording u out none) [.succeeded u out] (.delivering out)
  | ignore {st : Bool} (u : String) (out : Outcome) :
      Move true st (.recording u out none) [.ignored u out] (.delivering out)
  | fetcherRefused {ab st : Bool} (u : String) (out : Outcome) (e : FetchError) :
      Move ab st (.recording u out (some e)) [.filtered u]
        (.delivering { out with ok := false, err := some e })
  | fail {st : Bool} (u : String) (out : Outcome) (e : FetchError) :
      Move false st (.recording u out (some e)) [.failed u e]
        (.delivering { out with ok := false, err := some e })
  | trip {st : Bool} (u : String) (out : Outcome) (e : FetchError) :
      Move false st (.recording u out (some e)) [.failed u e, .tripped] (.adding [])
  | failAfterAbort {st : Bool} (u : String) (out : Outcome) (e : FetchError) :
      Move true st (.recording u out (some e)) [.failed u e] (.adding [])
  | deliver {ab st : Bool} (out : Outcome) (calls : List (List String)) :
      Move ab st (.delivering out) [.delivered out] (.adding calls)
  | add {ab st : Bool} (c : List String) (cs : List (List String)) (entered : List String)
      (m : Nat) : Move ab st (.adding (c :: cs)) [.added c entered m] (.adding cs)
  | finish {ab st : Bool} : Move ab st (.adding []) [] .idle

/-- A step moves the feeder or the run, leaving the crew where it stood and showing at most a
locator the feeder took or gave up; or it moves one worker as `Move` says, given whether the run
is aborted and whether its context is done. -/
theorem Step.moves {s s' : State σ n} {evs : List Event} (hs : Step h s evs s') :
    (s'.hands = s.hands ∧ (evs = [] ∨ ∃ u, evs = [.popped u] ∨ evs = [.dropped u])) ∨
      ∃ i y, s'.hands = (s.set i y).hands ∧
        Move s.tally.aborted s.stopped (s.hands i) evs y := by
  cases hs with
  | @popSeen u | @popNew u => exact .inl ⟨rfl, .inr ⟨u, .inl rfl⟩⟩
  | @drop u => exact .inl ⟨rfl, .inr ⟨u, .inr rfl⟩⟩
  | @hand u i _ hw => exact .inr ⟨i, _, rfl, by rw [hw]; exact .hand u⟩
  | leave i hw _ => exact .inr ⟨i, _, rfl, by rw [hw]; exact .leave⟩
  | @receivedAborted u i hw ha =>
    exact .inr ⟨i, _, rfl, by rw [hw, ha]; exact .receivedAborted u⟩
  | @receivedGoesOn u i hw ha =>
    exact .inr ⟨i, _, rfl, by rw [hw, ha]; exact .receivedGoesOn u⟩
  | @clearedStopped u i hw hst =>
    exact .inr ⟨i, _, rfl, by rw [hw, hst]; exact .clearedStopped u⟩
  | @begin u i hw hst => exact .inr ⟨i, _, rfl, by rw [hw, hst]; exact .begin u⟩
  | @refuse u i hw _ => exact .inr ⟨i, _, rfl, by rw [hw]; exact .refuse u⟩
  | @permit u i hw _ => exact .inr ⟨i, _, rfl, by rw [hw]; exact .permit u⟩
  | @attempt u i hw => exact .inr ⟨i, _, rfl, by rw [hw]; exact .attempt u⟩
  | @limiterStopped u i hw hst =>
    exact .inr ⟨i, _, rfl, by rw [hw, hst]; exact .limiterStopped u⟩
  | @fetchReturns u w out err i hw _ =>
    exact .inr ⟨i, _, rfl, by rw [hw]; exact .fetchReturns u out err⟩
  | @fetchedStopped u out err i hw hst =>
    exact .inr ⟨i, _, rfl, by rw [hw, hst]; exact .fetchedStopped u out err⟩
  | @fetchedGoesOn u out err i hw hst =>
    exact .inr ⟨i, _, rfl, by rw [hw, hst]; exact .fetchedGoesOn u out err⟩
  | @succeed u out i hw ha => exact .inr ⟨i, _, rfl, by rw [hw, ha]; exact .succeed u out⟩
  | @ignore u out i hw ha => exact .inr ⟨i, _, rfl, by rw [hw, ha]; exact .ignore u out⟩
  | @fetcherRefused u out e i hw _ =>
    exact .inr ⟨i, _, rfl, by rw [hw]; exact .fetcherRefused u out e⟩
  | @fail u out e t i hw _ ht =>
    exact .inr ⟨i, _, rfl, by rw [hw, Tally.going_of_failure ht]; exact .fail u out e⟩
  | @trip u out e t i hw _ ha _ => exact .inr ⟨i, _, rfl, by rw [hw, ha]; exact .trip u out e⟩
  | @failAfterAbort u out e i hw _ ha =>
    exact .inr ⟨i, _, rfl, by rw [hw, ha]; exact .failAfterAbort u out e⟩
  | @deliver out w calls i hw _ => exact .inr ⟨i, _, rfl, by rw [hw]; exact .deliver out calls⟩
  | @add c cs q m i hw _ => exact .inr ⟨i, _, rfl, by rw [hw]; exact .add c cs _ m⟩
  | finish i hw => exact .inr ⟨i, _, rfl, by rw [hw]; exact .finish⟩
  | _ => exact .inl ⟨rfl, .inl rfl⟩

namespace Move

variable {ab st : Bool} {x y : Hand} {evs : List Event}

/-- A move takes the locator it receives into the worker's hold, or shows the one it settles as it
leaves the hold. -/
theorem balance (hm : Move ab st x evs y) : taken evs + x.held = settled evs + y.held := by
  cases hm <;> rfl

/-- In an aborted run a move trips nothing, and no worker counts a failure or a success, or
delivers an outcome, but by using up a weight it holds. -/
theorem late (hm : Move true true x evs y) :
    Event.tripped ∉ evs ∧
      (failures evs).length + (uncounted evs).length + y.counting ≤ x.counting ∧
      (failures evs).length + (deliveries evs).length + y.showing ≤ x.showing := by
  cases hm <;> exact ⟨by simp, Nat.le_of_ble_eq_true rfl, Nat.le_of_ble_eq_true rfl⟩

/-- The worker that trips the ceiling was about to count, and goes on to neither count nor
deliver. -/
theorem tripper {u : String} {e : FetchError} (hm : Move ab st x [.failed u e, .tripped] y) :
    x.counting = 1 ∧ x.showing = 1 ∧ y.counting = 0 ∧ y.showing = 0 := by
  cases hm
  exact ⟨rfl, rfl, rfl, rfl⟩

end Move

theorem Hand.counting_le_one (x : Hand) : x.counting ≤ 1 := by
  cases x <;> simp [Hand.counting]

theorem Hand.showing_le_one (x : Hand) : x.showing ≤ 1 := by
  cases x <;> simp [Hand.showing]

/-- The abort is never undone. -/
theorem Step.stays_aborted {s s' : State σ n} {evs : List Event} (hs : Step h s evs s')
    (ha : s.tally.aborted = true) : s'.tally.aborted = true := by
  cases hs with
  | fail i hw he ht => simp [Tally.going_of_failure ht] at ha
  | trip i hw he ha0 ht => simp [ha] at ha0
  | failAfterAbort i hw he ha0 => simp [Tally.failure_of_aborted ha, ha]
  | _ => simpa [Tally.success, Tally.skip, Tally.dispatch, Tally.abandon, Tally.finished,
      Tally.recordFiltered] using ha

/-! ## The books of a run -/

/-- What the tally counts, read off the events a run showed: its ceiling is `M`, and it counts the
successes, the failures, the refusals and the locators given up that the run showed. -/
structure Counts (M : Int) (tr : List Event) (s : State σ n) : Prop where
  limit : s.tally.limit = M
  succeeded : s.tally.succeeded = (successes tr).length
  failed : s.tally.failed = (failures tr).length
  filtered : s.tally.filtered = (refusals tr).length
  givenUp : s.tally.abandoned = givenUp tr

/-- What an aborted run can still show, having shown `post` since its trip and standing at `s`:
no second trip; the failures and the late successes counted, and the failures counted and the
outcomes delivered, each within `n - 1` less what the crew still holds of that weight. -/
structure Late (post : List Event) (s : State σ n) : Prop where
  untripped : Event.tripped ∉ post
  counted : (failures post).length + (uncounted post).length + load Hand.counting s.hands + 1 ≤ n
  shown : (failures post).length + (deliveries post).length + load Hand.showing s.hands + 1 ≤ n

/-- What every crew's run with ceiling `M` keeps, having shown `tr` and standing at `s`. -/
structure Books (M : Int) (tr : List Event) (s : State σ n) : Prop extends Counts M tr s where
  /-- Every locator handed to a worker was settled, or a worker holds it still. -/
  holds : taken tr = settled tr + load Hand.held s.hands
  /-- A run that goes on is below its ceiling, has not tripped and left no success uncounted. -/
  going : s.tally.aborted = false →
    (M ≤ 0 ∨ ((failures tr).length : Int) < M) ∧ Event.tripped ∉ tr ∧ uncounted tr = []
  /-- An aborted run tripped its ceiling once, with its `M`-th failure, and has kept within its
  crew since. -/
  aborted : s.tally.aborted = true → ∃ pre post, tr = pre ++ .tripped :: post ∧
    Event.tripped ∉ pre ∧ uncounted pre = [] ∧ 0 < M ∧ ((failures pre).length : Int) = M ∧
    Late post s
  /-- Until the run settles the feeder or a worker may still move; once it settles, none does. -/
  settling : s.stage = .draining ∨ (s.feeder = .exited ∧ ∀ i, s.hands i = .exited)
  /-- An answer is the run's summary and its error. -/
  returned : ∀ r err, s.stage = .returned r err → ∃ l, r = s.core.result l ∧ err = s.core.error

section Steps

variable {M : Int} {tr evs post : List Event} {s s' : State σ n}

/-- What a step does to the counts of the tally: it adds what its events show. -/
theorem Step.counts (hs : Step h s evs s') :
    s'.tally.limit = s.tally.limit ∧
      s'.tally.succeeded = s.tally.succeeded + (successes evs).length ∧
      s'.tally.failed = s.tally.failed + (failures evs).length ∧
      s'.tally.filtered = s.tally.filtered + (refusals evs).length ∧
      s'.tally.abandoned = s.tally.abandoned ++ givenUp evs := by
  cases hs with
  | fail i hw he ht | trip i hw he _ ht =>
    obtain ⟨rfl, -⟩ := Tally.eq_of_failure ht
    exact ⟨rfl, rfl, rfl, rfl, (List.append_nil _).symm⟩
  | failAfterAbort i hw he ha =>
    rw [Tally.failure_of_aborted ha]
    exact ⟨rfl, rfl, rfl, rfl, (List.append_nil _).symm⟩
  | succeed i hw ha =>
    rw [Tally.success_of_not_aborted _ ha]
    exact ⟨rfl, rfl, rfl, rfl, (List.append_nil _).symm⟩
  | ignore i hw ha =>
    rw [Tally.success_of_aborted _ ha]
    exact ⟨rfl, rfl, rfl, rfl, (List.append_nil _).symm⟩
  | drop _ _ | receivedAborted _ _ _ | clearedStopped _ _ _ | limiterStopped _ _ _
  | fetchedStopped _ _ _ => exact ⟨rfl, rfl, rfl, rfl, rfl⟩
  | _ => exact ⟨rfl, rfl, rfl, rfl, (List.append_nil _).symm⟩

/-- How a step of a run that goes on touches the abort: only the trip aborts the run, at its
ceiling, showing the failure and the trip; any other step shows no trip and no success left
uncounted, and a failure it counts leaves the run below its ceiling. -/
theorem Step.abort (hs : Step h s evs s') (ha : s.tally.aborted = false) :
    (s'.tally.aborted = false ∧ Event.tripped ∉ evs ∧ uncounted evs = [] ∧
        (failures evs = [] ∨ (failures evs).length = 1 ∧
          (s.tally.limit ≤ 0 ∨ (s.tally.failed : Int) + 1 < s.tally.limit))) ∨
      (s'.tally.aborted = true ∧ ∃ u e, evs = [.failed u e, .tripped] ∧
        0 < s.tally.limit ∧ s.tally.limit ≤ (s.tally.failed : Int) + 1) := by
  cases hs with
  | @fail u out e t i hw he ht =>
    -- the failure did not trip the ceiling
    have hno := Tally.failure_trips ht ha
    obtain ⟨rfl, -⟩ := Tally.eq_of_failure ht
    refine .inl ⟨rfl, by simp, rfl, .inr ⟨rfl, ?_⟩⟩
    simp only [Bool.false_eq_true, false_iff, not_and, not_le] at hno
    omega
  | @trip u out e t i hw he _ ht =>
    have htrip := (Tally.failure_trips ht ha).1 rfl
    obtain ⟨rfl, -⟩ := Tally.eq_of_failure ht
    exact .inr ⟨rfl, u, e, rfl, htrip⟩
  | ignore i hw ha0 | failAfterAbort i hw he ha0 => simp [ha] at ha0
  | _ => exact .inl ⟨ha, by simp, rfl, .inl rfl⟩

theorem Counts.step (hc : Counts M tr s) (hs : Step h s evs s') : Counts M (tr ++ evs) s' := by
  obtain ⟨hl, hsu, hf, hfi, hg⟩ := hs.counts
  exact ⟨hl.trans hc.limit, by simp [hsu, hc.succeeded], by simp [hf, hc.failed],
    by simp [hfi, hc.filtered], by simp [hg, hc.givenUp]⟩

theorem Late.step (hl : Late post s) (ha : s.tally.aborted = true) (hs : Step h s evs s') :
    Late (post ++ evs) s' := by
  obtain ⟨hu, hc, hsh⟩ := hl
  rcases hs.moves with ⟨hh, hev⟩ | ⟨i, y, hh, hm⟩
  · -- the crew stands where it stood, and the feeder shows no failure, success or delivery
    obtain ⟨hf, hun, hd, hnt⟩ : failures evs = [] ∧ uncounted evs = [] ∧ deliveries evs = [] ∧
        Event.tripped ∉ evs := by
      rcases hev with rfl | ⟨u, rfl | rfl⟩ <;> exact ⟨rfl, rfl, rfl, by simp⟩
    exact ⟨by simp [hu, hnt], by simpa [hh, hf, hun] using hc, by simpa [hh, hf, hd] using hsh⟩
  · rw [ha, State.stopped_of_aborted ha] at hm
    obtain ⟨hnt, hmc, hms⟩ := hm.late
    have hlc := load_set Hand.counting s i y
    have hls := load_set Hand.showing s i y
    refine ⟨by simp [hu, hnt], ?_, ?_⟩
    · rw [hh]
      simp only [failures, uncounted, List.filterMap_append, List.length_append] at hc hmc ⊢
      omega
    · rw [hh]
      simp only [failures, deliveries, List.filterMap_append, List.length_append] at hsh hms ⊢
      omega

end Steps

section Books

variable {M : Int} {tr evs : List Event} {s s' : State σ n}

theorem Books.holds_step (hb : Books M tr s) (hs : Step h s evs s') :
    taken (tr ++ evs) = settled (tr ++ evs) + load Hand.held s'.hands := by
  rw [taken_append, settled_append]
  rcases hs.moves with ⟨hh, hev⟩ | ⟨i, y, hh, hm⟩
  · obtain ⟨ht, hst⟩ : taken evs = 0 ∧ settled evs = 0 := by
      rcases hev with rfl | ⟨u, rfl | rfl⟩ <;> exact ⟨rfl, rfl⟩
    rw [hh, ht, hst, add_zero, add_zero]
    exact hb.holds
  · rw [hh]
    exact load_balance hb.holds hm.balance

theorem Books.going_step (hb : Books M tr s) (hs : Step h s evs s')
    (ha' : s'.tally.aborted = false) :
    (M ≤ 0 ∨ ((failures (tr ++ evs)).length : Int) < M) ∧ Event.tripped ∉ tr ++ evs ∧
      uncounted (tr ++ evs) = [] := by
  have ha : s.tally.aborted = false := by
    cases h0 : s.tally.aborted
    · rfl
    · simp [hs.stays_aborted h0] at ha'
  obtain ⟨hbelow, hnt, hun⟩ := hb.going ha
  rcases hs.abort ha with ⟨-, hnt', hun', hf⟩ | ⟨ha'', -⟩
  · refine ⟨?_, by simp [hnt, hnt'], by simp [hun, hun']⟩
    rcases hf with hf | ⟨hf, hlt⟩
    · simpa [hf] using hbelow
    · rw [hb.limit, hb.failed] at hlt
      simp only [failures] at hf hlt ⊢
      simp only [List.filterMap_append, List.length_append, hf, Nat.cast_add, Nat.cast_one]
      omega
  · simp [ha''] at ha'

theorem Books.aborted_step (hb : Books M tr s) (hs : Step h s evs s')
    (ha' : s'.tally.aborted = true) :
    ∃ pre post, tr ++ evs = pre ++ .tripped :: post ∧ Event.tripped ∉ pre ∧
      uncounted pre = [] ∧ 0 < M ∧ ((failures pre).length : Int) = M ∧ Late post s' := by
  cases ha : s.tally.aborted
  · -- the run went on before the step, so the step is the trip
    obtain ⟨hbelow, hnt, hun⟩ := hb.going ha
    rcases hs.abort ha with ⟨ha'', -⟩ | ⟨-, u, e, rfl, hpos, hle⟩
    · simp [ha''] at ha'
    rcases hs.moves with ⟨-, hev⟩ | ⟨i, y, hh, hm⟩
    · rcases hev with h | ⟨v, h | h⟩ <;> cases h
    -- the worker that tripped was about to count, and leaves the crew short of its size
    obtain ⟨hx1, hx2, hy1, hy2⟩ := hm.tripper
    have hc := load_set_lt (s := s) (i := i) Hand.counting_le_one hx1 hy1
    have hsh := load_set_lt (s := s) (i := i) Hand.showing_le_one hx2 hy2
    rw [hb.limit] at hpos
    rw [hb.limit, hb.failed] at hle
    have hone : (failures [Event.failed u e]).length = 1 := rfl
    refine ⟨tr ++ [.failed u e], [], by simp, by simpa using hnt,
      by rw [uncounted_append, hun]; rfl, hpos, ?_,
      ⟨by simp, by simpa [hh] using hc, by simpa [hh] using hsh⟩⟩
    rw [failures_append, List.length_append, hone]
    omega
  · obtain ⟨pre, post, rfl, hnt, hun, hM, hpre, hl⟩ := hb.aborted ha
    exact ⟨pre, post ++ evs, by simp, hnt, hun, hM, hpre, hl.step ha hs⟩

theorem Books.settling_step (hb : Books M tr s) (hs : Step h s evs s') :
    s'.stage = .draining ∨ (s'.feeder = .exited ∧ ∀ i, s'.hands i = .exited) := by
  cases hs with
  | settle hst hf hw => exact .inr ⟨hf, hw⟩
  | answer hst =>
    rcases hb.settling with hd | hfw
    · rw [hst] at hd
      cases hd
    · exact .inr hfw
  | cancel _ _ => exact hb.settling
  | _ =>
    -- a party moved, so it was not done, and the run had not settled
    rcases hb.settling with hd | ⟨hfe, hwe⟩
    · exact .inl hd
    · simp_all

theorem Books.returned_step (hb : Books M tr s) (hs : Step h s evs s') :
    ∀ r err, s'.stage = .returned r err → ∃ l, r = s'.core.result l ∧ err = s'.core.error := by
  intro r err hr
  cases hs with
  | @answer l hst =>
    simp only [Stage.returned.injEq] at hr
    exact ⟨l, hr.1.symm, hr.2.symm⟩
  | settle hst _ _ => cases hr
  | cancel _ hans =>
    rw [hr] at hans
    cases hans
  | _ =>
    -- an answered run has settled, and no party moves any more
    rcases hb.settling with hd | ⟨hfe, hwe⟩
    · simp_all
    · simp_all

theorem Books.step (hb : Books M tr s) (hs : Step h s evs s') : Books M (tr ++ evs) s' where
  toCounts := hb.toCounts.step hs
  holds := hb.holds_step hs
  going := hb.going_step hs
  aborted := hb.aborted_step hs
  settling := hb.settling_step hs
  returned := hb.returned_step hs

theorem Books.initial (b : String) (p : Pending) (w : σ) (collect : Bool) (M : Int) :
    Books M [] (start b p w collect M : State σ n) where
  limit := rfl
  succeeded := rfl
  failed := rfl
  filtered := rfl
  givenUp := rfl
  holds := by simp [taken, settled, Crew.start, load, Hand.held]
  going _ := ⟨by simp; omega, by simp, rfl⟩
  aborted ha := by simp [Crew.start] at ha
  settling := .inl rfl
  returned _ _ hr := by simp [Crew.start] at hr

/-- The books of every run from a start. -/
theorem Reaches.books {b : String} {p : Pending} {w : σ} {collect : Bool}
    (hr : Reaches h (start b p w collect M) tr s) : Books M tr s := by
  induction hr with
  | refl => exact Books.initial b p w collect M
  | step _ hs ih => exact ih.step hs

end Books

/-! ## What a crew's run answers -/

/-- What a crew of `n` workers answers, `r`, having shown `tr` with ceiling `M`. -/
structure Answered (M : Int) (n : Nat) (tr : List Event) (r : BatchResult) : Prop where
  /-- Every locator handed to a worker was settled once: given up, counted as succeeded, failed
  or filtered, or left uncounted. -/
  settledOnce : taken tr = settled tr
  succeeded : r.succeeded = (successes tr).length
  failed : r.failed = (failures tr).length
  filtered : r.filtered = (refusals tr).length
  /-- The locators given up, and those found pending at the end. -/
  abandoned : ∃ l, r.abandoned = (givenUp tr).length + l
  /-- A run that did not abort never tripped its ceiling and counted every success. -/
  going : r.aborted = false → Event.tripped ∉ tr ∧ uncounted tr = []
  /-- An aborted run tripped its ceiling once, with its `M`-th failure, and answers as failed `M`
  and the failures counted after the trip. After the trip the crew counted at most `n - 1`
  failures and successes, and counted a failure or delivered an outcome at most `n - 1` times. -/
  aborted : r.aborted = true → ∃ pre post, tr = pre ++ .tripped :: post ∧
    Event.tripped ∉ pre ∧ Event.tripped ∉ post ∧ uncounted pre = [] ∧ 0 < M ∧
    (r.failed : Int) = M + (failures post).length ∧
    (failures post).length + (uncounted post).length < n ∧
    (failures post).length + (deliveries post).length < n

/-- The books of every crew's run that has answered. -/
theorem Reaches.crewBooks {b : String} {p : Pending} {w : σ} {collect : Bool} {M : Int}
    {tr : List Event} {s : State σ n} {r : BatchResult} {err : Option FetchError}
    (hr : Reaches h (start b p w collect M) tr s) (hst : s.stage = .returned r err) :
    Answered M n tr r := by
  have hb := hr.books
  obtain ⟨l, rfl, -⟩ := hb.returned r err hst
  -- an answered run has settled, so its crew has gone and holds nothing
  have hexit : ∀ i, s.hands i = .exited := by
    rcases hb.settling with hd | ⟨-, hx⟩
    · rw [hst] at hd
      cases hd
    · exact hx
  refine ⟨by simpa [load_held_exited hexit] using hb.holds, hb.succeeded, hb.failed, hb.filtered,
    ⟨l, by simp [Batch.State.result, State.core, hb.givenUp]⟩, fun ha => (hb.going ha).2,
    fun ha => ?_⟩
  obtain ⟨pre, post, rfl, hnt, hun, hM, hpre, hl⟩ := hb.aborted ha
  have hf : s.tally.failed = (failures pre).length + (failures post).length := by
    rw [hb.failed]
    simp [failures, Event.failed?.eq_def]
  have hcounted := hl.counted
  have hshown := hl.shown
  refine ⟨pre, post, rfl, hnt, hl.untripped, hun, hM, ?_, by omega, by omega⟩
  show (s.tally.failed : Int) = _
  omega

/-- A transport scripted for three locators: its first and third calls fail, its second succeeds. -/
def sampleHooks : BatchHooks Nat where
  permits _ := true
  fetch k u :=
    if k = 1 then (k + 1, { url := u, finalUrl := u, status := 200, ok := true }, none)
    else (k + 1, Outcome.failed u (.transport u 503 "unavailable"),
      some (.transport u 503 "unavailable"))
  deliver k _ := (k, [])
  workerStarted := id
  workerFinished := id
  batchFailure := id

/-- Three workers on three pending locators, with a ceiling of one failure. -/
def sampleStart : State Nat 3 :=
  start "batch-1" ⟨[("a", "a"), ("b", "b"), ("c", "c")]⟩ 0 false 1

/-- The workers take a locator each and fetch it; the first failure trips the ceiling while the
two other workers have passed their last test of the run. -/
def sampleTrace : List Event :=
  [.popped "a", .handed "a", .popped "b", .handed "b", .popped "c", .handed "c",
   .started "a", .attempted "a", .started "b", .attempted "b", .started "c", .attempted "c",
   .failed "a" (.transport "a" 503 "unavailable"), .tripped,
   .failed "c" (.transport "c" 503 "unavailable"),
   .ignored "b" { url := "b", finalUrl := "b", status := 200, ok := true },
   .delivered { url := "b", finalUrl := "b", status := 200, ok := true }]

/-- The answer of the sample run: aborted, with two failures. -/
def sampleResult : BatchResult := { batchId := "batch-1", failed := 2, aborted := true }

theorem sampleRun : ∃ s, Reaches sampleHooks sampleStart sampleTrace s ∧
    s.stage = .returned sampleResult (some (.aborted 2 1)) := by
  -- the feeder hands one locator to each worker
  have r := (Reaches.refl : Reaches sampleHooks sampleStart [] sampleStart)
  have r := r.step (.feederGoesOn rfl rfl)
  have r := r.step (.popNew rfl rfl (by decide +kernel))
  have r := r.step (.hand 0 rfl rfl)
  have r := r.step (.feederGoesOn rfl rfl)
  have r := r.step (.popNew rfl rfl (by decide +kernel))
  have r := r.step (.hand 1 rfl rfl)
  have r := r.step (.feederGoesOn rfl rfl)
  have r := r.step (.popNew rfl rfl (by decide +kernel))
  have r := r.step (.hand 2 rfl rfl)
  -- each worker passes its tests and fetches, up to counting its outcome
  have r := r.step (.receivedGoesOn 0 rfl rfl)
  have r := r.step (.begin 0 rfl rfl)
  have r := r.step (.permit 0 rfl rfl)
  have r := r.step (.attempt 0 rfl)
  have r := r.step (.fetchReturns 0 rfl rfl)
  have r := r.step (.fetchedGoesOn 0 rfl rfl)
  have r := r.step (.receivedGoesOn 1 rfl rfl)
  have r := r.step (.begin 1 rfl rfl)
  have r := r.step (.permit 1 rfl rfl)
  have r := r.step (.attempt 1 rfl)
  have r := r.step (.fetchReturns 1 rfl rfl)
  have r := r.step (.fetchedGoesOn 1 rfl rfl)
  have r := r.step (.receivedGoesOn 2 rfl rfl)
  have r := r.step (.begin 2 rfl rfl)
  have r := r.step (.permit 2 rfl rfl)
  have r := r.step (.attempt 2 rfl)
  have r := r.step (.fetchReturns 2 rfl rfl)
  have r := r.step (.fetchedGoesOn 2 rfl rfl)
  -- the first failure trips the ceiling; the other two workers count and deliver after it
  have r := r.step (.trip 0 rfl rfl rfl rfl)
  have r := r.step (.failAfterAbort 2 rfl rfl rfl)
  have r := r.step (.ignore 1 rfl rfl)
  have r := r.step (.deliver 1 rfl rfl)
  -- everyone leaves, and the run answers
  have r := r.step (.finish 0 rfl)
  have r := r.step (.finish 1 rfl)
  have r := r.step (.finish 2 rfl)
  have r := r.step (.feederSeesAbort rfl rfl)
  have r := r.step (.leave 0 rfl rfl)
  have r := r.step (.leave 1 rfl rfl)
  have r := r.step (.leave 2 rfl rfl)
  have r := r.step (.settle rfl rfl fun i => by fin_cases i <;> rfl)
  have r := r.step (.answer rfl)
  exact ⟨_, r, rfl⟩

theorem crewBooks_sample : ∃ s, Reaches sampleHooks sampleStart sampleTrace s ∧
    s.stage = .returned sampleResult (some (.aborted 2 1)) ∧ Answered 1 3 sampleTrace sampleResult :=
  let ⟨_, hr, hst⟩ := sampleRun
  ⟨_, hr, hst, Reaches.crewBooks hr hst⟩

/-- With three workers and a ceiling of one failure, a run answers two failures; of the three
locators its workers took it counts two, the third being a success that came after the trip; and
it delivers that success after the trip. -/
theorem crew_counts_past_ceiling : ∃ s, Reaches sampleHooks sampleStart sampleTrace s ∧
    s.stage = .returned sampleResult (some (.aborted 2 1)) ∧
    sampleStart.tally.limit = 1 ∧ sampleResult.aborted = true ∧ sampleResult.failed = 2 ∧
    sampleResult.succeeded + sampleResult.failed + sampleResult.filtered +
      sampleResult.abandoned < (taken sampleTrace).card ∧
    ∃ pre post out, sampleTrace = pre ++ .tripped :: post ∧ .delivered out ∈ post := by
  obtain ⟨s, hr, hst⟩ := sampleRun
  refine ⟨s, hr, hst, rfl, rfl, rfl, by decide, sampleTrace.take 13, sampleTrace.drop 14,
    { url := "b", finalUrl := "b", status := 200, ok := true }, rfl, by simp [sampleTrace]⟩

end Crew

end Harvest
