import Harvest.Proofs.Fetch.Exposed
/-!
# Harvest.Proofs.Fetch.Budget

How many attempts a fetch makes, and what it answers, when its attempts answer from a script.

The hooks are *scripted* by `rs` (`RetryHooks.Scripted`) when the world counts the attempts made
and the attempt numbered `i` answers `rs i`, whatever endpoint it goes through; the reports to the
ring leave the count alone. An answer *settles* the loop (`Retry.settles`) when it is a success or
a failure that retrying cannot help.

For every retry setting `m` below the greatest 64-bit value, with `b = max m 0 + 1` attempts
allowed, a fetch that the caller did not cancel answers as `Retry.ScriptAnswers` says
(`Retry.fetch_scripted`):

* when the `j`-th answer is the first to settle and `j ≤ b`, exactly `j` attempts are made and
  the fetch answers with the `j`-th answer, stamped with `j`;
* when none of the first `b` answers settles, exactly `b` attempts are made and the fetch fails as
  "failed after `b` attempts", wrapping the failure of the last.

At the greatest setting the budget wraps round to the least 64-bit value: no attempt is made at
all, the world is left as it was, and the fetch fails at once
(`Retry.fetch_greatest_retries_no_attempt`), even where the transport would answer
(`Retry.fetch_greatest_retries`).
-/

namespace Harvest

variable {σ : Type}

/-- The attempts answer from the script `rs`: the world counts the attempts made, the attempt
numbered `i` answers `rs i` whatever endpoint it goes through, and the reports to the ring leave
the count alone. -/
structure RetryHooks.Scripted (h : RetryHooks σ) (count : σ → Nat)
    (rs : Nat → Except FetchError Outcome) : Prop where
  answer : ∀ s via, (h.attempt s via).2 = rs (count s + 1)
  counted : ∀ s via, count (h.attempt s via).1 = count s + 1
  succeeded : ∀ s e, count (h.succeeded s e) = count s
  failed : ∀ s e, count (h.failed s e) = count s

/-- The plainest scripted attempts: the world is the number of attempts made, and no proxy is
used. -/
def RetryHooks.script (rs : Nat → Except FetchError Outcome) : RetryHooks Nat where
  head _ := none
  attempt n _ := (n + 1, rs (n + 1))
  succeeded n _ := n
  failed n _ := n

theorem RetryHooks.script_scripted (rs : Nat → Except FetchError Outcome) :
    (RetryHooks.script rs).Scripted id rs :=
  ⟨fun _ _ => rfl, fun _ _ => rfl, fun _ _ => rfl, fun _ _ => rfl⟩

namespace Retry

/-- Whether an attempt's answer ends the loop: a success, or a failure retrying cannot help. -/
def settles : Except FetchError Outcome → Bool
  | .ok _ => true
  | .error e => e.isTerminal

/-- What the loop answers when the attempt numbered `k` settles it with `r`. -/
def settled (url : String) (k : Nat) : Except FetchError Outcome → Outcome × Option FetchError
  | .ok o => ({ o with attempts := k }, none)
  | .error e => ({ Outcome.failed url e with attempts := k }, some e)

/-- What the loop answers when all `total` attempts failed, the last with `last`. -/
def exhaustedWith (url : String) (total : Int) (last : FetchError) :
    Outcome × Option FetchError :=
  ({ Outcome.failed url (.exhausted url total last) with attempts := total },
    some (.exhausted url total last))

/-- An answer that does not settle the loop is a failure retrying can help. -/
theorem eq_error_of_settles_eq_false {r : Except FetchError Outcome} (hr : settles r = false) :
    ∃ e, r = .error e ∧ e.isTerminal = false := by
  cases r with
  | ok o => cases hr
  | error e => exact ⟨e, rfl, hr⟩

/-- With no attempt left the loop answers that all of them failed. -/
theorem loop_zero (h : RetryHooks σ) (url : String) (total : Int) (n : Nat)
    (last : Option FetchError) (s : σ) :
    loop h url total 0 n last s = (s, exhaustedWith url total (last.getD (.other "<nil>"))) :=
  rfl

end Retry

namespace RetryHooks.Scripted

open Retry

variable {h : RetryHooks σ} {count : σ → Nat} {rs : Nat → Except FetchError Outcome}
  {url : String} {total : Int}

/-- The attempt of one turn of the loop, over scripted hooks, answers from the script. -/
theorem attempt_eq (hs : h.Scripted count rs) (s : σ) (via : Option Endpoint) :
    h.attempt s via = ((h.attempt s via).1, rs (count s + 1)) := by
  rw [← hs.answer s via]

/-- A turn whose answer settles the loop ends it: one more attempt is counted and the loop answers
with the answer stamped with the turn's number. -/
theorem loop_settle (hs : h.Scripted count rs) {fuel n : Nat}
    {last : Option FetchError} {s : σ} (hset : settles (rs (count s + 1)) = true) :
    count (loop h url total (fuel + 1) n last s).1 = count s + 1 ∧
      (loop h url total (fuel + 1) n last s).2 = settled url n (rs (count s + 1)) := by
  have hc := hs.counted s (h.head s)
  simp only [loop]
  rw [hs.attempt_eq s (h.head s)]
  cases hr : rs (count s + 1) with
  | ok o =>
    -- a success is reported to the endpoint it went through, which keeps the count
    refine ⟨?_, rfl⟩
    generalize h.head s = via at hc ⊢
    cases via with
    | none => exact hc
    | some e => rw [hs.succeeded]; exact hc
  | error e =>
    rw [hr] at hset
    simp only [settles] at hset
    simp only [hset, if_true]
    exact ⟨hc, rfl⟩

/-- A turn whose answer is a failure retrying can help goes on to the next attempt, one more
attempt counted. -/
theorem loop_retry (hs : h.Scripted count rs) (fuel n : Nat) (last : Option FetchError)
    {s : σ} {e : FetchError} (he : rs (count s + 1) = .error e) (ht : e.isTerminal = false) :
    ∃ s', count s' = count s + 1 ∧
      loop h url total (fuel + 1) n last s = loop h url total fuel (n + 1) (some e) s' := by
  have hc := hs.counted s (h.head s)
  simp only [loop]
  rw [hs.attempt_eq s (h.head s), he]
  simp only [ht, Bool.false_eq_true, if_false]
  -- the failure is reported to the endpoint it went through, which keeps the count
  refine ⟨_, ?_, rfl⟩
  generalize h.head s = via at hc ⊢
  cases via with
  | none => exact hc
  | some v => rw [hs.failed]; exact hc

/-- A turn from `c` attempts counted whose answer does not settle the loop goes on to the next
attempt, `c + 1` counted, remembering the turn's failure. -/
theorem loop_unsettled (hs : h.Scripted count rs) (fuel n : Nat) (last : Option FetchError)
    {s : σ} {c : Nat} (hcs : count s = c) (hnot : settles (rs (c + 1)) = false) :
    ∃ e s', rs (c + 1) = .error e ∧ count s' = c + 1 ∧
      loop h url total (fuel + 1) n last s = loop h url total fuel (n + 1) (some e) s' := by
  subst hcs
  obtain ⟨e, he, ht⟩ := eq_error_of_settles_eq_false hnot
  obtain ⟨s', hs', hloop⟩ := hs.loop_retry fuel n last he ht
  exact ⟨e, s', he, hs', hloop⟩

/-- The loop from attempt `c + 1` on, when the `j`-th answer is the first from there to settle
and `j` is within the fuel: exactly the attempts up to `j` are made, and the loop answers with the
`j`-th answer. -/
theorem loop_first_settle (hs : h.Scripted count rs) :
    ∀ (fuel c : Nat) (last : Option FetchError) (s : σ), count s = c →
      ∀ j, c < j → j ≤ c + fuel → settles (rs j) = true →
        (∀ i, c < i → i < j → settles (rs i) = false) →
        count (loop h url total fuel (c + 1) last s).1 = j ∧
          (loop h url total fuel (c + 1) last s).2 = settled url j (rs j) := by
  intro fuel
  induction fuel with
  | zero => intro c _ _ _ j hcj hj; omega
  | succ fuel ih =>
    intro c last s hcs j hcj hj hset hfirst
    by_cases hjc : j = c + 1
    · -- this turn settles
      rw [hjc] at hset ⊢
      rw [← hcs] at hset ⊢
      exact hs.loop_settle hset
    · -- this turn fails in a way retrying can help, and the loop goes on from `c + 1`
      obtain ⟨e, s', -, hs', hloop⟩ := hs.loop_unsettled fuel (c + 1) last hcs
        (hfirst (c + 1) (by omega) (by omega))
      rw [hloop]
      exact ih (c + 1) (some e) s' (by omega) j (by omega) (by omega) hset
        (fun i hi hij => hfirst i (by omega) hij)

/-- The loop from attempt `c + 1` on, with `fuel + 1` attempts left none of whose answers
settles: all of them are made, and the loop answers that they failed, the last with the last
answer's failure. -/
theorem loop_exhausts (hs : h.Scripted count rs) (url : String) (total : Int) :
    ∀ (fuel c : Nat) (last : Option FetchError) (s : σ), count s = c →
      (∀ i, c < i → i ≤ c + fuel + 1 → settles (rs i) = false) →
      count (loop h url total (fuel + 1) (c + 1) last s).1 = c + fuel + 1 ∧
        ∃ e, rs (c + fuel + 1) = .error e ∧
          (loop h url total (fuel + 1) (c + 1) last s).2 = exhaustedWith url total e := by
  intro fuel
  induction fuel with
  | zero =>
    intro c last s hcs hnone
    obtain ⟨e, s', he, hs', hloop⟩ := hs.loop_unsettled 0 (c + 1) last hcs
      (hnone (c + 1) (by omega) (by omega))
    rw [hloop, loop_zero]
    refine ⟨?_, e, he, rfl⟩
    show count s' = c + 0 + 1
    omega
  | succ fuel ih =>
    intro c last s hcs hnone
    obtain ⟨e, s', -, hs', hloop⟩ := hs.loop_unsettled (fuel + 1) (c + 1) last hcs
      (hnone (c + 1) (by omega) (by omega))
    rw [hloop]
    have hrest := ih (c + 1) (some e) s' (by omega) (fun i hi hib => hnone i (by omega) (by omega))
    rw [show c + 1 + fuel + 1 = c + (fuel + 1) + 1 by omega] at hrest
    exact hrest

end RetryHooks.Scripted

namespace Retry

variable {h : RetryHooks σ} {count : σ → Nat} {rs : Nat → Except FetchError Outcome}

/-- What a fetch answers, with `b` attempts allowed, when its attempts answer from `rs` and the
count starts from none. -/
structure ScriptAnswers (count : σ → Nat) (rs : Nat → Except FetchError Outcome) (url : String)
    (b : Nat) (r : σ × Outcome × Option FetchError) : Prop where
  /-- When the `j`-th answer is the first to settle and `j ≤ b`, exactly `j` attempts are made,
  and the fetch answers with the `j`-th answer stamped with `j`. -/
  settle : ∀ j, 1 ≤ j → j ≤ b → settles (rs j) = true →
    (∀ i, 1 ≤ i → i < j → settles (rs i) = false) →
    count r.1 = j ∧ r.2 = settled url j (rs j)
  /-- When none of the first `b` answers settles, exactly `b` attempts are made, and the fetch
  fails as "failed after `b` attempts", wrapping the failure of the last. -/
  exhaust : (∀ i, 1 ≤ i → i ≤ b → settles (rs i) = false) →
    count r.1 = b ∧ ∃ last, rs b = .error last ∧ r.2 = exhaustedWith url b last

/-- Below the greatest 64-bit setting, a fetch that the caller did not cancel, from no attempt
counted, makes `min j (max m 0 + 1)` attempts, `j` being the first whose answer settles, and
answers as `ScriptAnswers` says. -/
theorem fetch_scripted (hs : h.Scripted count rs) {m : Int} (hm : m < Decimal.int64Max)
    (url : String) {s : σ} (h0 : count s = 0) :
    ScriptAnswers count rs url ((max m 0).toNat + 1) (fetch h m false url s) := by
  have hb : attempts m = (((max m 0).toNat + 1 : Nat) : Int) := by
    rw [attempts_of_lt hm]
    omega
  have hfetch : fetch h m false url s =
      loop h url (((max m 0).toNat + 1 : Nat) : Int) ((max m 0).toNat + 1) (0 + 1) none s := by
    simp only [fetch, Bool.false_eq_true, if_false, hb, Int.toNat_natCast]
  rw [hfetch]
  constructor
  · intro j h1 hj hset hfirst
    exact hs.loop_first_settle _ 0 none s h0 j (by omega) (by omega) hset
      (fun i hi hij => hfirst i hi hij)
  · intro hnone
    have hrun := hs.loop_exhausts url (((max m 0).toNat + 1 : Nat) : Int) (max m 0).toNat 0 none s
      h0 (fun i hi hib => hnone i hi (by omega))
    simp only [Nat.zero_add] at hrun ⊢
    exact hrun

/-- Two retries over a script whose first two attempts fail and whose third succeeds. -/
theorem fetch_scripted_third_succeeds :
    (RetryHooks.script fun i => if i < 3 then .error (.other "refused") else .ok default).Scripted
        id (fun i => if i < 3 then .error (.other "refused") else .ok default) ∧
      (2 : Int) < Decimal.int64Max ∧ id 0 = 0 ∧
      ScriptAnswers id (fun i => if i < 3 then .error (.other "refused") else .ok default) "u"
        ((max (2 : Int) 0).toNat + 1)
        (fetch (RetryHooks.script fun i => if i < 3 then .error (.other "refused") else .ok default)
          2 false "u" 0) :=
  ⟨RetryHooks.script_scripted _, by decide, rfl,
    fetch_scripted (RetryHooks.script_scripted _) (by decide) "u" rfl⟩

/-- At the greatest setting the budget wraps round to the least 64-bit value. -/
theorem attempts_greatest : attempts Decimal.int64Max = Decimal.int64Min := by
  unfold attempts
  decide

/-- At the greatest retry setting no attempt is made: whatever the hooks, the world is left as it
was and the fetch fails at once as "failed after" the least 64-bit number of attempts, with no
last failure. -/
theorem fetch_greatest_retries_no_attempt (h : RetryHooks σ) (url : String) (s : σ) :
    fetch h Decimal.int64Max false url s =
      (s, exhaustedWith url Decimal.int64Min (.other "<nil>")) := by
  simp only [fetch, Bool.false_eq_true, if_false, attempts_greatest]
  have hz : Decimal.int64Min.toNat = 0 := by decide
  rw [hz, loop_zero]
  rfl

/-- A transport that would answer every attempt is never asked at the greatest retry setting:
no attempt is counted and the fetch fails as exhausted. -/
theorem fetch_greatest_retries :
    fetch (RetryHooks.script fun _ => .ok default) Decimal.int64Max false "http://e.com/doc" 0 =
      (0, exhaustedWith "http://e.com/doc" Decimal.int64Min (.other "<nil>")) :=
  fetch_greatest_retries_no_attempt _ _ _

end Retry

end Harvest
