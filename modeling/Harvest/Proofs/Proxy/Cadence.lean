import Harvest.Proofs.Proxy.RingInvariant
import Harvest.Proofs.Fetch.Rotation
import Mathlib.Data.List.TakeWhile
/-!
# Harvest.Proofs.Proxy.Cadence

What a reported success does to the proxy ring.

With a cadence of `n > 0`, the success through the head `h` of a ring `h :: cs` that brings the
count to `n` probes the candidates `cs` in turn up to the first live one (all of them when none
is), evicts those found dead before it, and turns the ring so that the live one leads and `h` comes
last, the count starting again from zero (`Ring.recordSuccess_due`). When no candidate is live
the ring is left holding `h` alone, still active; `h` itself is never evicted. Every other report
probes nothing and changes at most the count (`Ring.recordSuccess_not_due`).

A ring reached from a built one keeps its cadence and, when the cadence is positive, a count below
it (`Ring.Reaches.successes_lt`), so the success that completes a turn is exactly the one that
brings the count to the cadence. `Ring.Reaches.successLaws` gathers this over every reachable
ring.
-/

namespace Harvest

namespace Ring

/-! ## Probing the candidates -/

/-- Whether the probe finds an endpoint dead: it answers yes only for the `alive` ones. -/
def deadTo (alive : List Endpoint) (e : Endpoint) : Bool := !alive.contains e

/-- Probing candidates in order up to the first live one: the dead ones before it, the live one,
and the endpoints asked, that is every dead one and the live one. -/
theorem findLive_probed (alive cs : List Endpoint) :
    findLive (.probed alive) cs =
      (cs.takeWhile (deadTo alive), (cs.dropWhile (deadTo alive)).head?,
        cs.takeWhile (deadTo alive) ++ (cs.dropWhile (deadTo alive)).take 1) := by
  induction cs with
  | nil => rfl
  | cons e rest ih =>
    by_cases he : e ∈ alive
    · have hd : deadTo alive e = false := by simp [deadTo, he]
      simp [findLive, Liveness.ask, hd, he]
    · have hd : deadTo alive e = true := by simp [deadTo, he]
      simp [findLive, Liveness.ask, hd, he, ih]

/-! ## Evicting the dead ones -/

theorem evictAll_cons (r : Ring) (e : Endpoint) (ds : List Endpoint) :
    r.evictAll (e :: ds) = (r.evict e).1.evictAll ds := rfl

/-- Evicting, one after the other, the endpoints right behind the head of an enabled ring without
repeats takes out just them, in order, and leaves the ring enabled. -/
theorem evictAll_behind_head {r : Ring} {h : Endpoint} {pre rest : List Endpoint}
    (hm : r.members = h :: (pre ++ rest)) (hnd : r.members.Nodup) (hd : r.disabled = false) :
    r.evictAll pre = { r with members := h :: rest, evicted := r.evicted ++ pre } := by
  induction pre generalizing r with
  | nil =>
    rw [List.nil_append] at hm
    rw [List.append_nil, ← hm]
    rfl
  | cons e pre ih =>
    rw [hm] at hnd
    have hne : h ≠ e := fun he => (List.nodup_cons.1 hnd).1 (by simp [he])
    -- `e` stands right behind the head, so evicting it erases that one place
    have hev : (r.evict e).1 =
        { r with members := h :: (pre ++ rest), evicted := r.evicted ++ [e] } := by
      have hin : r.members.contains e = true := by simp [hm]
      have herase : r.members.erase e = h :: (pre ++ rest) := by
        rw [hm, List.erase_cons_tail (by simpa using hne), List.cons_append,
          List.erase_cons_head]
      simp only [evict, hin, if_true, herase, hd, Bool.false_or]
      rfl
    have hnd' : (h :: (pre ++ rest)).Nodup := hnd.sublist ((List.sublist_cons_self e _).cons_cons h)
    rw [evictAll_cons, hev, ih (r := { r with members := h :: (pre ++ rest), evicted := r.evicted ++ [e] }) rfl hnd' hd]
    simp

/-! ## The success that completes a turn -/

/-- The success through the head `used` of an enabled ring `used :: cs` without repeats that
brings the count to a positive cadence: the candidates are probed up to the first live one, the
dead ones before it are evicted, and the ring turns to the live one with `used` last, the count
starting again from zero; with no live candidate the ring keeps `used` alone. -/
theorem recordSuccess_due {r : Ring} {used : Endpoint} {cs : List Endpoint}
    (alive : List Endpoint) (hm : r.members = used :: cs) (hnd : r.members.Nodup)
    (hd : r.disabled = false) (hc : 0 < r.cadence) (hdue : (r.successes : Int) + 1 = r.cadence) :
    r.recordSuccess (.probed alive) used =
      ({ r with members := cs.dropWhile (deadTo alive) ++ [used],
                evicted := r.evicted ++ cs.takeWhile (deadTo alive), successes := 0 },
        cs.takeWhile (deadTo alive) ++ (cs.dropWhile (deadTo alive)).take 1) := by
  have hhead : r.head? = some used := by simp [head?, hd, hm]
  have hsplit : cs = cs.takeWhile (deadTo alive) ++ cs.dropWhile (deadTo alive) :=
    List.takeWhile_append_dropWhile.symm
  -- the dead candidates stand right behind the head; evicting them leaves the others
  have hev : ({ r with successes := 0 }).evictAll (cs.takeWhile (deadTo alive)) =
      { r with members := used :: cs.dropWhile (deadTo alive),
               evicted := r.evicted ++ cs.takeWhile (deadTo alive), successes := 0 } :=
    evictAll_behind_head (by simp only; rw [hm, ← hsplit]) hnd hd
  unfold recordSuccess
  rw [hhead]
  have hcount : (decide (r.cadence ≤ 0) || decide (((r.successes + 1 : Nat) : Int) < r.cadence)) =
      false := by
    simp only [Bool.or_eq_false_iff, decide_eq_false_iff_not]
    omega
  simp only [bne_self_eq_false, Bool.false_eq_true, if_false, hcount]
  rw [show r.members.tail = cs by rw [hm, List.tail_cons], findLive_probed]
  simp only
  rw [hev]
  have hnotin : used ∉ cs := (List.nodup_cons.1 (hm ▸ hnd)).1
  -- split on whether some candidate is live
  generalize hrest : cs.dropWhile (deadTo alive) = rest at *
  cases rest with
  | nil => simp
  | cons n rest =>
    have hn : n ∈ cs := by
      rw [hsplit]
      exact List.mem_append_right _ List.mem_cons_self
    have hne : (used == n) = false := by
      simp only [beq_eq_false_iff_ne]
      exact fun h => hnotin (h ▸ hn)
    have hidx : List.findIdx? (fun x => x == n) (used :: n :: rest) = some 1 := by
      simp [List.findIdx?_cons, hne]
    simp [head?, hd, hidx, turn]

/-- Behind the head `p`, `q` is dead and `s` alive: `q` is probed and evicted, `s` is probed and
leads, `p` goes last. -/
example : (build [⟨"p", 1⟩, ⟨"q", 2⟩, ⟨"s", 3⟩] 1).recordSuccess (.probed [⟨"s", 3⟩]) ⟨"p", 1⟩ =
    ({ members := [⟨"s", 3⟩, ⟨"p", 1⟩], evicted := [⟨"q", 2⟩], disabled := false, successes := 0,
       cadence := 1 }, [⟨"q", 2⟩, ⟨"s", 3⟩]) := by decide

/-- Any other report probes nothing and changes at most the count, when the count is below a
positive cadence (as on every reachable ring): either the report is not through the head, or the
count it reaches is short of the cadence, or there is no cadence. -/
theorem recordSuccess_not_due {r : Ring} {used : Endpoint}
    (hlt : 0 < r.cadence → (r.successes : Int) < r.cadence)
    (hnot : ¬(0 < r.cadence ∧ r.head? = some used ∧ (r.successes : Int) + 1 = r.cadence))
    (l : Liveness) :
    (r.recordSuccess l used).2 = [] ∧ ∃ k, (r.recordSuccess l used).1 = { r with successes := k } := by
  unfold recordSuccess
  by_cases hh : r.head? = some used
  · have hshort : (decide (r.cadence ≤ 0) ||
        decide (((r.successes + 1 : Nat) : Int) < r.cadence)) = true := by
      by_cases hc : 0 < r.cadence
      · have hbelow := hlt hc
        have hne : (r.successes : Int) + 1 ≠ r.cadence := fun h => hnot ⟨hc, hh, h⟩
        simp only [Bool.or_eq_true, decide_eq_true_eq]
        omega
      · simp only [Bool.or_eq_true, decide_eq_true_eq]
        omega
    simp only [hh, bne_self_eq_false, Bool.false_eq_true, if_false, hshort, if_true]
    exact ⟨trivial, _, rfl⟩
  · have hother : (r.head? != some used) = true := by simpa using hh
    simp only [hother, if_true]
    exact ⟨trivial, r.successes, rfl⟩

/-! ## The count stays below the cadence -/

theorem evict_counter (r : Ring) (e : Endpoint) :
    (r.evict e).1.cadence = r.cadence ∧ (r.evict e).1.successes = r.successes := by
  unfold evict
  split <;> exact ⟨rfl, rfl⟩

theorem evictAll_counter (r : Ring) (ds : List Endpoint) :
    (r.evictAll ds).cadence = r.cadence ∧ (r.evictAll ds).successes = r.successes := by
  induction ds generalizing r with
  | nil => exact ⟨rfl, rfl⟩
  | cons d ds ih =>
    rw [evictAll_cons, (ih _).1, (ih _).2]
    exact evict_counter r d

/-- A report keeps the cadence, and a count below a positive cadence stays below it: the count
only grows while it is short of the cadence, and starts again from zero otherwise. -/
theorem recordSuccess_counter (r : Ring) (l : Liveness) (used : Endpoint)
    (hlt : 0 < r.cadence → (r.successes : Int) < r.cadence) :
    (r.recordSuccess l used).1.cadence = r.cadence ∧
      (0 < r.cadence → ((r.recordSuccess l used).1.successes : Int) < r.cadence) := by
  -- every ring of the turn's branch is the dead ones evicted from the ring with its count at zero,
  -- perhaps turned
  have hzero : ∀ ds, (({ r with successes := 0 }).evictAll ds).cadence = r.cadence ∧
      (0 < r.cadence → ((({ r with successes := 0 }).evictAll ds).successes : Int) < r.cadence) := by
    intro ds
    obtain ⟨hc, hs⟩ := evictAll_counter { r with successes := 0 } ds
    exact ⟨hc, fun hpos => by rw [hs]; exact_mod_cast hpos⟩
  unfold recordSuccess
  split
  · exact ⟨rfl, hlt⟩
  · dsimp only
    split
    · next hshort =>
      refine ⟨rfl, fun hpos => ?_⟩
      simp only [Bool.or_eq_true, decide_eq_true_eq] at hshort
      dsimp only
      omega
    · split
      · exact hzero _
      · split
        · exact hzero _
        · split
          · split
            · exact hzero _
            · exact ⟨(hzero _).1, fun hpos => by simp only [turn]; exact_mod_cast hpos⟩
          · exact hzero _

theorem rotate_counter (r : Ring) (hlt : 0 < r.cadence → (r.successes : Int) < r.cadence) :
    r.rotate.cadence = r.cadence ∧ (0 < r.cadence → (r.rotate.successes : Int) < r.cadence) := by
  unfold rotate
  split
  · exact ⟨rfl, fun hpos => by exact_mod_cast hpos⟩
  · exact ⟨rfl, hlt⟩

/-- Every operation keeps the cadence, and a count below a positive cadence stays below it. -/
theorem apply_counter (l : Liveness) (r : Ring) (c : Command)
    (hlt : 0 < r.cadence → (r.successes : Int) < r.cadence) :
    (r.apply l c).cadence = r.cadence ∧
      (0 < r.cadence → ((r.apply l c).successes : Int) < r.cadence) := by
  cases c with
  | rotate => exact rotate_counter r hlt
  | rotateAway e =>
    simp only [apply, rotateAway]
    split
    · exact rotate_counter r hlt
    · exact ⟨rfl, hlt⟩
  | evict e =>
    obtain ⟨hc, hs⟩ := evict_counter r e
    exact ⟨hc, by simp only [apply, hs]; exact hlt⟩
  | add e =>
    simp only [apply, Ring.add]
    repeat' split
    all_goals exact ⟨rfl, hlt⟩
  | recordSuccess e => exact recordSuccess_counter r l e hlt
  | current | probe _ | active | state => exact ⟨rfl, hlt⟩

/-- A ring reached from one built with cadence `n` keeps that cadence, and when it is positive its
count stays below it. -/
theorem Reaches.successes_lt {endpoints added : List Endpoint} {n : Int} {r : Ring}
    (hr : Reaches (build endpoints n) added r) :
    r.cadence = n ∧ (0 < n → (r.successes : Int) < n) := by
  induction hr with
  | refl => exact ⟨rfl, fun hpos => by simpa [build] using hpos⟩
  | step l c _ ih =>
    obtain ⟨hc, hlt⟩ := ih
    subst hc
    exact apply_counter l _ c hlt

/-! ## Every reported success -/

/-- What reporting a success through `used` does to a ring `r`, the probes answering yes for the
`alive` endpoints. -/
structure SuccessLaws (r : Ring) (used : Endpoint) : Prop where
  /-- The success through the head of `used :: cs` that brings the count to a positive cadence
  probes the candidates up to the first live one, evicts the dead ones before it, turns the ring to
  it with `used` last and restarts the count; the ring stays active and `used` is not evicted. -/
  due : ∀ cs alive, 0 < r.cadence → r.members = used :: cs → (r.successes : Int) + 1 = r.cadence →
    r.recordSuccess (.probed alive) used =
      ({ r with members := cs.dropWhile (deadTo alive) ++ [used],
                evicted := r.evicted ++ cs.takeWhile (deadTo alive), successes := 0 },
        cs.takeWhile (deadTo alive) ++ (cs.dropWhile (deadTo alive)).take 1) ∧
    (r.recordSuccess (.probed alive) used).1.active = true ∧
    used ∉ (r.recordSuccess (.probed alive) used).1.evicted
  /-- When no candidate is live, each is probed and evicted and the ring holds `used` alone. -/
  allDead : ∀ cs alive, 0 < r.cadence → r.members = used :: cs →
    (r.successes : Int) + 1 = r.cadence → (∀ c ∈ cs, c ∉ alive) →
    (r.recordSuccess (.probed alive) used).1.members = [used] ∧
    (r.recordSuccess (.probed alive) used).1.evicted = r.evicted ++ cs ∧
    (r.recordSuccess (.probed alive) used).2 = cs
  /-- Any other report probes nothing and changes at most the count. -/
  other : ∀ l, ¬(0 < r.cadence ∧ r.head? = some used ∧ (r.successes : Int) + 1 = r.cadence) →
    (r.recordSuccess l used).2 = [] ∧ ∃ k, (r.recordSuccess l used).1 = { r with successes := k }

/-- Every report of a success on a ring reached from a built one, by any operations and whatever
the probes answered before, does what `SuccessLaws` says. -/
theorem Reaches.successLaws {endpoints added : List Endpoint} {n : Int} {r : Ring}
    (hr : Reaches (build endpoints n) added r) (used : Endpoint) : SuccessLaws r used := by
  obtain ⟨hw, -⟩ := hr.wf_perm
  obtain ⟨hcad, hlt⟩ := hr.successes_lt
  subst hcad
  -- a ring holding `used :: cs` is enabled, and `used` is neither a candidate nor evicted
  have hhead : ∀ cs, r.members = used :: cs →
      r.disabled = false ∧ used ∉ cs ∧ used ∉ r.evicted := by
    intro cs hm
    refine ⟨?_, (List.nodup_cons.1 (hm ▸ hw.nodup)).1, hw.disjoint used (by simp [hm])⟩
    cases hd : r.disabled
    · rfl
    · exact absurd (hw.disabled_iff.1 hd) (by simp [hm])
  have hdue : ∀ cs alive, 0 < r.cadence → r.members = used :: cs →
      (r.successes : Int) + 1 = r.cadence →
      r.recordSuccess (.probed alive) used =
        ({ r with members := cs.dropWhile (deadTo alive) ++ [used],
                  evicted := r.evicted ++ cs.takeWhile (deadTo alive), successes := 0 },
          cs.takeWhile (deadTo alive) ++ (cs.dropWhile (deadTo alive)).take 1) :=
    fun cs alive hc hm h1 =>
      recordSuccess_due alive hm hw.nodup (hhead cs hm).1 hc h1
  refine ⟨fun cs alive hc hm h1 => ?_, fun cs alive hc hm h1 hdead => ?_,
    fun l hnot => recordSuccess_not_due hlt hnot l⟩
  · obtain ⟨hd, hcs, hev⟩ := hhead cs hm
    rw [hdue cs alive hc hm h1]
    refine ⟨rfl, by simp [active, hd], ?_⟩
    simp only [List.mem_append, not_or]
    exact ⟨hev, fun h => hcs (List.takeWhile_subset _ h)⟩
  · have hall : ∀ c ∈ cs, deadTo alive c = true := fun c hc' => by simp [deadTo, hdead c hc']
    rw [hdue cs alive hc hm h1, List.takeWhile_eq_self_iff.2 hall,
      List.dropWhile_eq_nil_iff.2 hall]
    simp

/-- A ring over three proxies with a cadence of one, through which requests go: every report of a
success on it obeys the laws, the one through its head most of all. -/
theorem successLaws_built :
    Reaches (build [⟨"p", 1⟩, ⟨"q", 2⟩, ⟨"s", 3⟩] 1) [] (build [⟨"p", 1⟩, ⟨"q", 2⟩, ⟨"s", 3⟩] 1) ∧
      SuccessLaws (build [⟨"p", 1⟩, ⟨"q", 2⟩, ⟨"s", 3⟩] 1) ⟨"p", 1⟩ :=
  ⟨.refl, Reaches.successLaws .refl ⟨"p", 1⟩⟩

end Ring

end Harvest
