import Harvest.Engine.Fetch
import Harvest.Proofs.Fetch.Attempt
/-!
# Harvest.Proofs.Fetch.Exposed

The outcomes a fetch shows, and why each of them can be shown.

An outcome is *exposable* (`Outcome.Exposable`) when it is ok exactly when it carries no failure,
an ok one is what a successful attempt downloaded (`Outcome.Downloaded`), a failed one has no
body and fails for a reason a caller may see (the filter, the ceiling, every attempt spent, or a
cancellation the caller made), and its attempt count is at most one more than the retries, the
retries counted as none when negative, and is below one only when no attempt was made.

The attempt loop answers in one of four ways (`Retry.Answer`): the `k`-th attempt succeeded, the
`k`-th attempt failed in a way retrying cannot help, every attempt failed, or the caller had
cancelled (`Retry.fetch_answer`). Each of these, marked failed with its failure where it failed,
is exposable; so the outcome of every engine fetch is (`Engine.fetch_exposable`), and the
observers see only that outcome (`Engine.fetch_seen`).
-/

namespace Harvest

/-- What every outcome shown to a caller or an observer satisfies, under the filter `f` and the
retry setting `maxRetries`; `canceled` says whether the caller had cancelled. -/
structure Outcome.Exposable (f : Filter) (maxRetries : Int) (canceled : Bool) (out : Outcome) :
    Prop where
  /-- It is ok exactly when it carries no failure. -/
  okIff : out.ok = true ↔ out.err = none
  /-- An ok outcome is what a successful attempt downloaded. -/
  downloaded : out.ok = true → out.Downloaded f
  /-- A failed outcome has no body. -/
  failedEmpty : out.ok = false → out.body = []
  /-- A failure is, or wraps, a refusal by the filter, a body too large, the failure of every
  attempt, or a cancellation the caller made. -/
  cause : ∀ e, out.err = some e →
    e.isFiltered = true ∨ e.isTooLarge = true ∨ e.attempts?.isSome = true ∨
      (e.isCanceled = true ∧ canceled = true)
  /-- It counts at most one attempt more than the retries, negative retries counting as none. -/
  attemptsLe : (out.attempts : Int) ≤ max maxRetries 0 + 1
  /-- It counts fewer than one attempt only when none was made: the filter refused the locator
  first, the caller had cancelled, or the retries are so many that the attempt budget wraps. -/
  attempted : out.attempts < 1 →
    ∃ e, out.err = some e ∧ (e.isFiltered = true ∨ (e.isCanceled = true ∧ canceled = true) ∨
      Decimal.int64Max ≤ maxRetries)

namespace Outcome

/-- "Not modified" comes without a body, whether the outcome is ok or not. -/
theorem Exposable.body_of_notModified {f : Filter} {m : Int} {c : Bool} {out : Outcome}
    (hx : out.Exposable f m c) (hn : out.notModified = true) : out.body = [] := by
  cases hok : out.ok
  · exact hx.failedEmpty hok
  · exact (hx.downloaded hok).notModified hn

/-- The downloaded outcome with an attempt count set is still downloaded. -/
theorem Downloaded.withAttempts {f : Filter} {o : Outcome} (hd : o.Downloaded f) (k : Int) :
    Outcome.Downloaded f { o with attempts := k } :=
  ⟨hd.ok, hd.noErr, hd.size, hd.decoded, hd.ceiling, hd.status, hd.notModified⟩

/-- The failed outcome of a locator, with any attempt count and marked with its failure, names
that failure and has no body. -/
theorem exposable_failed {f : Filter} {m : Int} {c : Bool} {out : Outcome} {e : FetchError}
    (u : String) (hb : out.body = [])
    (hc : e.isFiltered = true ∨ e.isTooLarge = true ∨ e.attempts?.isSome = true ∨
      (e.isCanceled = true ∧ c = true))
    (hle : (out.attempts : Int) ≤ max m 0 + 1)
    (h0 : out.attempts < 1 →
      e.isFiltered = true ∨ (e.isCanceled = true ∧ c = true) ∨ Decimal.int64Max ≤ m) :
    Outcome.Exposable f m c { out with url := u, ok := false, err := some e } where
  okIff := by simp
  downloaded := fun hok => by cases hok
  failedEmpty := fun _ => hb
  cause := fun e' he' => by
    cases he'
    exact hc
  attemptsLe := hle
  attempted := fun hz => ⟨e, rfl, h0 hz⟩

end Outcome

/-- The attempt budget of a retry setting is at most one more than its retries, negative ones
counting as none. -/
theorem Retry.attempts_le (m : Int) : Retry.attempts m ≤ max m 0 + 1 := by
  unfold Retry.attempts Decimal.int64Min Decimal.int64Max
  dsimp only
  split <;> omega

/-- Below the greatest 64-bit value the budget is exactly one more than the retries. -/
theorem Retry.attempts_of_lt {m : Int} (hm : m < Decimal.int64Max) :
    Retry.attempts m = max m 0 + 1 := by
  unfold Retry.attempts Decimal.int64Max at *
  dsimp only
  rw [if_pos (by omega)]

/-- The budget is below one only where the addition wraps, at the greatest retry settings. -/
theorem Retry.int64Max_le_of_attempts_lt_one {m : Int} (h : Retry.attempts m < 1) :
    Decimal.int64Max ≤ m := by
  unfold Retry.attempts Decimal.int64Min Decimal.int64Max at *
  dsimp only at h
  split at h <;> omega

namespace Retry

variable {σ : Type} {h : RetryHooks σ} {P : Outcome → Prop} {url : String} {total : Int}

/-- The answers of the attempt loop for `url`, making at most `total` attempts whose successes
satisfy `P`; `callerCanceled` says whether the caller had cancelled. -/
inductive Answer (P : Outcome → Prop) (url : String) (total : Int) (callerCanceled : Bool) :
    Outcome → Option FetchError → Prop
  /-- The `k`-th attempt succeeded. -/
  | success {o : Outcome} {k : Nat} : P o → 1 ≤ k → (k : Int) ≤ total →
      Answer P url total callerCanceled { o with attempts := k } none
  /-- The `k`-th attempt failed in a way retrying cannot help. -/
  | terminal {e : FetchError} {k : Nat} : e.isTerminal = true → 1 ≤ k → (k : Int) ≤ total →
      Answer P url total callerCanceled { Outcome.failed url e with attempts := k } (some e)
  /-- Every attempt failed; `last` is the failure of the last one. -/
  | exhausted (last : FetchError) :
      Answer P url total callerCanceled
        { Outcome.failed url (.exhausted url total last) with attempts := total }
        (some (.exhausted url total last))
  /-- The caller had cancelled: no attempt was made. -/
  | canceled : callerCanceled = true →
      Answer P url total callerCanceled (Outcome.failed url .canceled) (some (.about url .canceled))

/-- The loop from its `n`-th attempt on, with attempts left up to the `total`-th, answers as
`Answer` says. -/
theorem loop_answer (hP : ∀ s via o, (h.attempt s via).2 = .ok o → P o) (c : Bool) :
    ∀ (fuel n : Nat) (last : Option FetchError) (s : σ), 1 ≤ n → n + fuel = total.toNat + 1 →
      Answer P url total c (loop h url total fuel n last s).2.1
        (loop h url total fuel n last s).2.2 := by
  intro fuel
  induction fuel with
  | zero =>
    intro n last s _ _
    exact .exhausted _
  | succ fuel ih =>
    intro n last s h1 hn
    simp only [loop]
    split
    · next s' o hatt =>
      have ho : P o := hP s (h.head s) o (by rw [hatt])
      exact .success ho h1 (by omega)
    · next s' err hatt =>
      split
      · next hterm => exact .terminal hterm h1 (by omega)
      · exact ih (n + 1) (some err) _ (by omega) (by omega)

/-- Every fetch answers as `Answer` says, with as many attempts as the retry setting allows. -/
theorem fetch_answer (hP : ∀ s via o, (h.attempt s via).2 = .ok o → P o) (m : Int) (c : Bool)
    (url : String) (s : σ) :
    Answer P url (attempts m) c (fetch h m c url s).2.1 (fetch h m c url s).2.2 := by
  unfold fetch
  split
  · next hc => exact .canceled hc
  · exact loop_answer hP c _ _ _ _ (Nat.le_refl 1) (Nat.add_comm _ _)

/-- The loop keeps what every attempt and every report to the ring keeps. -/
theorem loop_keeps (Q : σ → Prop) (hatt : ∀ s via, Q s → Q (h.attempt s via).1)
    (hsucc : ∀ s e, Q s → Q (h.succeeded s e)) (hfail : ∀ s e, Q s → Q (h.failed s e)) :
    ∀ (fuel n : Nat) (last : Option FetchError) (s : σ), Q s →
      Q (loop h url total fuel n last s).1 := by
  intro fuel
  induction fuel with
  | zero => exact fun _ _ _ hs => hs
  | succ fuel ih =>
    intro n last s hs
    simp only [loop]
    have ha := hatt s (h.head s) hs
    split
    · next s' o hatt' =>
      rw [hatt'] at ha
      cases h.head s with
      | none => exact ha
      | some e => exact hsucc s' e ha
    · next s' err hatt' =>
      rw [hatt'] at ha
      split
      · exact ha
      · apply ih
        cases h.head s with
        | none => exact ha
        | some e => exact hfail s' e ha

/-- A fetch keeps what every attempt and every report to the ring keeps. -/
theorem fetch_keeps (Q : σ → Prop) (hatt : ∀ s via, Q s → Q (h.attempt s via).1)
    (hsucc : ∀ s e, Q s → Q (h.succeeded s e)) (hfail : ∀ s e, Q s → Q (h.failed s e))
    (m : Int) (c : Bool) (url : String) {s : σ} (hs : Q s) : Q (fetch h m c url s).1 := by
  unfold fetch
  split
  · exact hs
  · exact loop_keeps Q hatt hsucc hfail _ _ _ _ hs

variable {f : Filter} {m : Int} {c : Bool} {out : Outcome}

/-- Below the greatest retry setting, an answer to a caller that did not cancel counts at least
one attempt. -/
theorem Answer.one_le_attempts {err : Option FetchError} (hm : m < Decimal.int64Max)
    (ha : Answer P url (attempts m) false out err) : 1 ≤ out.attempts := by
  cases ha with
  | success _ h1 _ => simp only; omega
  | terminal _ h1 _ => simp only; omega
  | exhausted last =>
    simp only
    rw [attempts_of_lt hm]
    omega
  | canceled hc => cases hc

/-- A successful answer is exposable as it is. -/
theorem Answer.exposable_ok (ha : Answer (Outcome.Downloaded f) url (attempts m) c out none) :
    out.Exposable f m c := by
  cases ha with
  | @success o k hd h1 hk =>
    have hle : (k : Int) ≤ max m 0 + 1 := by
      have := attempts_le m
      omega
    exact {
      okIff := by simp [hd.ok, hd.noErr]
      downloaded := fun _ => hd.withAttempts _
      failedEmpty := fun hok => by simp [hd.ok] at hok
      cause := fun e he => by simp [hd.noErr] at he
      attemptsLe := hle
      attempted := fun hz => by simp at hz; omega }

/-- A failed answer, marked failed with its failure, is exposable, whatever locator it names. -/
theorem Answer.exposable_failed {e : FetchError}
    (ha : Answer (Outcome.Downloaded f) url (attempts m) c out (some e)) (u : String) :
    Outcome.Exposable f m c { out with url := u, ok := false, err := some e } := by
  have hm := attempts_le m
  cases ha with
  | @terminal e k he h1 hk =>
    simp only [FetchError.isTerminal, Bool.or_eq_true] at he
    refine Outcome.exposable_failed u rfl (by rcases he with he | he <;> simp [he]) ?_ ?_
    · simp only
      omega
    · intro hz
      simp at hz
      omega
  | exhausted last =>
    refine Outcome.exposable_failed u rfl ?_ hm ?_
    · simp [FetchError.attempts?, FetchError.chain]
    · exact fun hz => .inr (.inr (Retry.int64Max_le_of_attempts_lt_one hz))
  | canceled hc =>
    have hcan : (FetchError.about url .canceled).isCanceled = true := by
      simp [FetchError.isCanceled, FetchError.chain]
    refine Outcome.exposable_failed u rfl (.inr (.inr (.inr ⟨hcan, hc⟩))) ?_
      (fun _ => .inr (.inl ⟨hcan, hc⟩))
    simp [Outcome.failed]
    omega

end Retry

namespace Engine

variable {σ : Type} (e : Engine σ)

/-- An attempt of the engine succeeds exactly when its download does. -/
theorem retryHooks_attempt_ok {url : String} {cond : Conditional} {w : World σ}
    {via : Option Endpoint} {o : Outcome} (h : ((e.retryHooks url cond).attempt w via).2 = .ok o) :
    (e.downloader.fetch e.transport w.disk w.net url via cond).2 = .ok o := by
  simp only [retryHooks] at h
  split at h
  · next net out hd =>
    simp only at h
    rw [hd, h]
  · simp at h

/-- The engine's attempt loop answers with downloaded successes. -/
theorem attemptAll_answer (w : World σ) (url : String) (cond : Conditional) (canceled : Bool) :
    Retry.Answer (Outcome.Downloaded e.filter) url (Retry.attempts e.config.settings.maxRetries)
      canceled (e.attemptAll w url cond canceled).2.1 (e.attemptAll w url cond canceled).2.2 :=
  Retry.fetch_answer (fun _ _ _ h => Downloader.fetch_downloaded (e.retryHooks_attempt_ok h)) _ _
    _ _

/-- The engine's attempt loop leaves the observers' record as it was. -/
theorem attemptAll_seen (w : World σ) (url : String) (cond : Conditional) (canceled : Bool) :
    (e.attemptAll w url cond canceled).1.seen = w.seen := by
  unfold attemptAll
  refine Retry.fetch_keeps (fun (w' : World σ) => w'.seen = w.seen) ?_ ?_ ?_ _ _ _ rfl
  · intro w' via hw
    simp only [retryHooks]
    split <;> exact hw
  · intro w' ep hw
    exact hw
  · intro w' ep hw
    exact hw

/-- Handing an outcome to the observers adds to their record only that outcome, once per
logging observer. -/
theorem dispatch_seen (w : World σ) (batchId : String) (out : Outcome) :
    ∃ k, (e.dispatch w batchId out).1.seen = w.seen ++ List.replicate k (out, batchId) := by
  unfold dispatch
  dsimp only
  -- over the observers, from any record and any answers so far
  suffices ∀ (obs : List Observer) (p : World σ × List (Option String)), ∃ k,
      (obs.foldl (fun x o => ((observe x.1 batchId out o).1, x.2 ++ [(observe x.1 batchId out o).2]))
        p).1.seen = p.1.seen ++ List.replicate k (out, batchId) from this _ _
  intro obs
  induction obs with
  | nil => exact fun p => ⟨0, by simp⟩
  | cons o os ih =>
    intro p
    obtain ⟨k, hk⟩ := ih ((observe p.1 batchId out o).1, p.2 ++ [(observe p.1 batchId out o).2])
    simp only [List.foldl_cons]
    rw [hk]
    cases o with
    | log fails => exact ⟨k + 1, by simp [observe, List.replicate_succ]⟩
    | recorder => exact ⟨k, by simp [observe]⟩

/-- The observers saw, from `w` to `w'`, only outcomes that satisfy `P`. -/
def SeenOnly (P : Outcome → Prop) (w w' : World σ) : Prop :=
  ∃ new, w'.seen = w.seen ++ new ∧ ∀ p ∈ new, P p.1

/-- The outcome of every fetch is exposable. -/
theorem fetch_exposable (w : World σ) (url : String) (cond : Conditional)
    (deliver canceled : Bool) :
    (e.fetch w url cond deliver canceled).2.1.Exposable e.filter e.config.settings.maxRetries
      canceled := by
  have ha := e.attemptAll_answer w url cond canceled
  unfold fetch
  rcases hr : e.attemptAll w url cond canceled with ⟨w', out, err⟩
  rw [hr] at ha
  cases err with
  | none => exact ha.exposable_ok
  | some er => exact ha.exposable_failed _

/-- A fetch by a caller that did not cancel, the retries below the greatest setting, makes an
attempt and counts it. -/
theorem fetch_attempted (hm : e.config.settings.maxRetries < Decimal.int64Max) (w : World σ)
    (url : String) (cond : Conditional) (deliver : Bool) :
    1 ≤ (e.fetch w url cond deliver false).2.1.attempts := by
  have ha := e.attemptAll_answer w url cond false
  unfold fetch
  rcases hr : e.attemptAll w url cond false with ⟨w', out, err⟩
  rw [hr] at ha
  have h1 := ha.one_le_attempts hm
  cases err <;> exact h1

/-- A fetch shows the observers its outcome and nothing else. -/
theorem fetch_seen (w : World σ) (url : String) (cond : Conditional) (deliver canceled : Bool) :
    SeenOnly (Outcome.Exposable e.filter e.config.settings.maxRetries canceled) w
      (e.fetch w url cond deliver canceled).1 := by
  have hx := e.fetch_exposable w url cond deliver canceled
  have hs := e.attemptAll_seen w url cond canceled
  unfold fetch at hx ⊢
  rcases hr : e.attemptAll w url cond canceled with ⟨w', out, err⟩
  rw [hr] at hx hs
  dsimp only at hx hs ⊢
  cases deliver with
  | false => exact ⟨[], by simpa using hs, by simp⟩
  | true =>
    obtain ⟨k, hk⟩ := e.dispatch_seen w' "" _
    refine ⟨List.replicate k _, by rw [if_pos rfl, hk, hs], ?_⟩
    intro p hp
    rw [(List.eq_of_mem_replicate hp)]
    exact hx

end Engine

end Harvest
