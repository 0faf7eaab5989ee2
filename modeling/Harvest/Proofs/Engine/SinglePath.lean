import Harvest.Engine.Batch
import Harvest.Proofs.Batch.Schedule
import Harvest.Proofs.Fetch.Exposed
/-!
# Harvest.Proofs.Engine.SinglePath

Fetching one locator, and running a batch over a pending set that holds only that locator, show
the same outcome and send the same requests (`batch_matches_fetch`): the batch hands its
callback, and its observers, exactly the outcome the fetch answers, in the same world, provided
the callback adds nothing and one failure does not reach the failure ceiling. There is one
exception. A locator the filter refuses is refused by the batch itself, before the attempt loop,
and shown with no attempt; the fetch reaches the downloader's own filter check on its first
attempt and counts that attempt (`batch_refusal_counts_no_attempt`).

Two facts carry the agreement. The attempt loop cannot tell apart worlds that share their
transport state, disk, proxy ring and probe log (`FetchAlike`, `attemptAll_alike`): the batch's
worker fetches in a world that differs from the caller's only in its counters. And the
scheduler's run over one locator is a fixed sequence of steps for each branch the worker takes
(`Batch.run_one_world`), so the batch ends in the world the worker settles the locator into
(`settleFetched_shows`, `run_refused`, `run_permitted`). For a locator the filter permits the
agreement holds at every retry setting; the refused one needs the retries below the greatest
setting, where the fetch's budget wraps and it makes no attempt at all.
-/

namespace Harvest

/-! ## The attempt loop from worlds alike -/

namespace Retry

variable {σ : Type} {h : RetryHooks σ} {url : String} {total : Int}

section Congr

variable (R : σ → σ → Prop) (hhead : ∀ s t, R s t → h.head s = h.head t)
  (hatt : ∀ s t via, R s t →
    R (h.attempt s via).1 (h.attempt t via).1 ∧ (h.attempt s via).2 = (h.attempt t via).2)
  (hsucc : ∀ s t ep, R s t → R (h.succeeded s ep) (h.succeeded t ep))
  (hfail : ∀ s t ep, R s t → R (h.failed s ep) (h.failed t ep))
include hhead hatt hsucc hfail

/-- The loop answers alike from worlds that its hooks cannot tell apart, and leaves worlds that
they still cannot. -/
theorem loop_congr : ∀ (fuel n : Nat) (last : Option FetchError) (s t : σ), R s t →
    R (loop h url total fuel n last s).1 (loop h url total fuel n last t).1 ∧
      (loop h url total fuel n last s).2 = (loop h url total fuel n last t).2 := by
  intro fuel
  induction fuel with
  | zero => exact fun _ _ _ _ hr => ⟨hr, rfl⟩
  | succ fuel ih =>
    intro n last s t hr
    have hv := hhead s t hr
    obtain ⟨hra, hout⟩ := hatt s t (h.head s) hr
    simp only [loop, ← hv]
    rcases hs : h.attempt s (h.head s) with ⟨s', r⟩
    rcases ht : h.attempt t (h.head s) with ⟨t', r'⟩
    rw [hs, ht] at hra hout
    dsimp only at hra hout
    subst hout
    cases r with
    | ok out =>
      -- a success is reported to the ring through the endpoint used, the same on both sides
      cases h.head s with
      | none => exact ⟨hra, rfl⟩
      | some ep => exact ⟨hsucc s' t' ep hra, rfl⟩
    | error err =>
      dsimp only
      split
      · exact ⟨hra, rfl⟩
      · cases h.head s with
        | none => exact ih (n + 1) (some err) s' t' hra
        | some ep => exact ih (n + 1) (some err) _ _ (hfail s' t' ep hra)

theorem fetch_congr (m : Int) (c : Bool) (url : String) {s t : σ} (hr : R s t) :
    R (fetch h m c url s).1 (fetch h m c url t).1 ∧ (fetch h m c url s).2 = (fetch h m c url t).2 := by
  unfold fetch
  split
  · exact ⟨hr, rfl⟩
  · exact loop_congr R hhead hatt hsucc hfail _ _ _ _ _ hr

end Congr

/-- A failed answer names the locator it was asked for. -/
theorem Answer.url_of_failed {P : Outcome → Prop} {c : Bool} {out : Outcome} {e : FetchError}
    (ha : Answer P url total c out (some e)) : out.url = url := by
  cases ha <;> rfl

end Retry

/-! ## Runs over one locator -/

/-- A pending set holding one locator is that locator with its key. -/
theorem Pending.eq_of_toList_singleton {p : Pending} {u : String} (hp : p.toList = [u]) :
    ∃ k, p = ⟨[(u, k)]⟩ := by
  obtain ⟨entries⟩ := p
  match entries, hp with
  | [(v, k)], hp =>
    simp only [Pending.toList, List.map_cons, List.map_nil, List.cons.injEq, and_true] at hp
    exact ⟨k, by rw [hp]⟩

namespace Engine

variable {σ : Type} (e : Engine σ)

/-- Two worlds a fetch cannot tell apart: the same transport state, disk, proxy ring and probe
log; the counters, the observers and the rest may differ. -/
structure FetchAlike (w w' : World σ) : Prop where
  net : w.net = w'.net
  disk : w.disk = w'.disk
  ring : w.ring = w'.ring
  probes : w.probes = w'.probes

/-- The attempt loop answers alike from worlds a fetch cannot tell apart, and sends the same
requests. -/
theorem attemptAll_alike {w w' : World σ} (hw : FetchAlike w w') (url : String)
    (cond : Conditional) (canceled : Bool) :
    FetchAlike (e.attemptAll w url cond canceled).1 (e.attemptAll w' url cond canceled).1 ∧
      (e.attemptAll w url cond canceled).2 = (e.attemptAll w' url cond canceled).2 := by
  unfold attemptAll
  refine Retry.fetch_congr FetchAlike ?_ ?_ ?_ ?_ _ _ _ hw
  · intro s t hr
    simp [retryHooks, hr.ring]
  · intro s t via hr
    simp only [retryHooks, hr.disk, hr.net]
    -- both attempts download the same, in the same transport state
    rcases e.downloader.fetch e.transport t.disk t.net url via cond with ⟨net, _ | out⟩
    · exact ⟨⟨rfl, rfl, hr.ring, hr.probes⟩, rfl⟩
    · exact ⟨⟨rfl, rfl, hr.ring, hr.probes⟩, rfl⟩
  · intro s t ep hr
    simp only [retryHooks, hr.ring]
    exact ⟨hr.net, hr.disk, rfl, by rw [hr.probes]⟩
  · intro s t ep hr
    simp only [retryHooks, hr.ring]
    exact ⟨hr.net, hr.disk, rfl, hr.probes⟩

/-- Handing an outcome to the observers changes only what they hold. -/
theorem dispatch_frame (w : World σ) (batchId : String) (out : Outcome) :
    ∃ seen recorder, (e.dispatch w batchId out).1 = { w with seen := seen, recorder := recorder } := by
  unfold dispatch
  dsimp only
  suffices ∀ (obs : List Observer) (p : World σ × List (Option String)), ∃ seen recorder,
      (obs.foldl (fun x o => ((observe x.1 batchId out o).1, x.2 ++ [(observe x.1 batchId out o).2]))
        p).1 = { p.1 with seen := seen, recorder := recorder } from this _ _
  intro obs
  induction obs with
  | nil => exact fun p => ⟨p.1.seen, p.1.recorder, rfl⟩
  | cons o os ih =>
    intro p
    obtain ⟨seen, recorder, hk⟩ :=
      ih ((observe p.1 batchId out o).1, p.2 ++ [(observe p.1 batchId out o).2])
    simp only [List.foldl_cons]
    rw [hk]
    cases o <;> exact ⟨seen, recorder, rfl⟩

theorem dispatch_net (w : World σ) (batchId : String) (out : Outcome) :
    (e.dispatch w batchId out).1.net = w.net := by
  obtain ⟨seen, recorder, hd⟩ := e.dispatch_frame w batchId out
  rw [hd]

/-- What the logging observers hold after a dispatch depends on the world only through what they
held before. -/
theorem dispatch_seen_congr {w w' : World σ} (hs : w.seen = w'.seen) (batchId : String)
    (out : Outcome) : (e.dispatch w batchId out).1.seen = (e.dispatch w' batchId out).1.seen := by
  unfold dispatch
  dsimp only
  suffices ∀ (obs : List Observer) (p p' : World σ × List (Option String)), p.1.seen = p'.1.seen →
      (obs.foldl (fun x o => ((observe x.1 batchId out o).1, x.2 ++ [(observe x.1 batchId out o).2]))
        p).1.seen =
      (obs.foldl (fun x o => ((observe x.1 batchId out o).1, x.2 ++ [(observe x.1 batchId out o).2]))
        p').1.seen from this _ _ _ hs
  intro obs
  induction obs with
  | nil => exact fun _ _ hp => hp
  | cons o os ih =>
    intro p p' hp
    simp only [List.foldl_cons]
    apply ih
    cases o <;> simp [observe, hp]

/-- An answer of the attempt loop as a caller is shown it: a failure marked failed, with its
failure. -/
def withError (out : Outcome) : Option FetchError → Outcome
  | none => out
  | some er => { out with ok := false, err := some er }

/-- A fetch shows the attempt loop's answer, marked failed with its failure when it failed. -/
theorem fetch_outcome (w : World σ) (url : String) (cond : Conditional) (deliver canceled : Bool) :
    (e.fetch w url cond deliver canceled).2.1 =
      withError (e.attemptAll w url cond canceled).2.1 (e.attemptAll w url cond canceled).2.2 := by
  have ha := e.attemptAll_answer w url cond canceled
  unfold fetch
  rcases hr : e.attemptAll w url cond canceled with ⟨w', out, err⟩
  rw [hr] at ha
  cases err with
  | none => rfl
  | some er =>
    -- a failed answer names the locator already, so the fetch's fallback changes nothing
    have hu : out.url = url := ha.url_of_failed
    simp [withError, hu]

/-- A fetch sends the requests of its attempt loop and no others. -/
theorem fetch_net (w : World σ) (url : String) (cond : Conditional) (deliver canceled : Bool) :
    (e.fetch w url cond deliver canceled).1.net = (e.attemptAll w url cond canceled).1.net := by
  unfold fetch
  rcases e.attemptAll w url cond canceled with ⟨w', out, err⟩
  cases deliver with
  | false => rfl
  | true => exact e.dispatch_net _ _ _

/-- What a batch run by the engine shows: the world the scheduler ends with gives the requests
sent, the observers' record and the outcomes handed to the callback. -/
theorem run_shows (w : World σ) (batchId : String) (cb : Option (Outcome → List String)) :
    (e.run w batchId cb).1.net = (Batch.run (e.batchHooks batchId cb) batchId e.config.maxFailures
        cb.isNone w.pending (w, [])).1.1.net ∧
      (e.run w batchId cb).1.seen = (Batch.run (e.batchHooks batchId cb) batchId
        e.config.maxFailures cb.isNone w.pending (w, [])).1.1.seen ∧
      (e.run w batchId cb).2.2.2 = (Batch.run (e.batchHooks batchId cb) batchId
        e.config.maxFailures cb.isNone w.pending (w, [])).1.2 :=
  ⟨rfl, rfl, rfl⟩

/-- The attempt loop over a locator the filter refuses, below the greatest retry setting, stops at
its first attempt, which the downloader refuses before sending anything. -/
theorem attemptAll_refused (hm : e.config.settings.maxRetries < Decimal.int64Max) (w : World σ)
    {u : String} (hperm : e.filter.permits u = false) (cond : Conditional) :
    e.attemptAll w u cond false = (w, { Outcome.failed u (.filtered u) with attempts := 1 },
      some (.filtered u)) := by
  -- the budget leaves a first attempt
  have hfuel : (Retry.attempts e.config.settings.maxRetries).toNat =
      (max e.config.settings.maxRetries 0).toNat + 1 := by
    rw [Retry.attempts_of_lt hm]
    omega
  -- the downloader refuses `u` before sending anything, a refusal retrying cannot help
  have hrefuse : e.downloader.fetch e.transport w.disk w.net u w.ring.head? cond =
      (w.net, .error (.filtered u)) := by
    simp only [Downloader.fetch, downloader, hperm, Bool.not_false, if_true]
  have hterm : (FetchError.filtered u).isTerminal = true := by
    simp [FetchError.isTerminal, FetchError.isFiltered, FetchError.chain]
  unfold attemptAll Retry.fetch
  rw [if_neg Bool.false_ne_true, hfuel]
  simp only [Retry.loop, retryHooks, hrefuse, hterm, if_true]
  rfl

/-- A fetch of a locator the filter refuses answers the refusal, with its one attempt counted,
and sends nothing. -/
theorem fetch_refused (hm : e.config.settings.maxRetries < Decimal.int64Max) (w : World σ)
    {u : String} (hperm : e.filter.permits u = false) (cond : Conditional) (deliver : Bool) :
    (e.fetch w u cond deliver false).2.1 = { Outcome.failed u (.filtered u) with attempts := 1 } ∧
      (e.fetch w u cond deliver false).1.net = w.net := by
  rw [fetch_outcome, fetch_net, attemptAll_refused e hm w hperm]
  exact ⟨rfl, rfl⟩

section OneLocator

variable (w : World σ) {u k : String} (hw : w.pending = ⟨[(u, k)]⟩) (batchId : String)
  {cb : Outcome → List String} (hcb : ∀ o, cb o = [])

include hcb in
/-- The worker of a batch over one locator settles what it fetched, the callback adding nothing
and one failure staying below the ceiling, into a world that shows the outcome as a fetch
answers it: the callback and the observers are handed it, marked failed when it failed, and no
request is sent. -/
theorem settleFetched_shows (hmf : e.config.maxFailures ≤ 0 ∨ 1 < e.config.maxFailures)
    (w' : World σ) (out : Outcome) (err : Option FetchError) :
    ∃ W t evs, Batch.settleFetched (e.batchHooks batchId (some cb))
        (Batch.fetchedOne batchId u (w', []) false e.config.maxFailures out err) u out err =
        (Batch.settledOne batchId W t, evs) ∧
      t.aborted = false ∧ t.inflight = 1 ∧ t.wake = false ∧ W.2 = [withError out err] ∧
      W.1.net = w'.net ∧ W.1.seen = (e.dispatch w' batchId (withError out err)).1.seen := by
  cases err with
  | none =>
    have hd : (e.batchHooks batchId (some cb)).deliver (w', []) out =
        (((e.dispatch w' batchId out).1, [out]), [[]]) := by
      simp only [batchHooks, hcb, List.nil_append]
    exact ⟨_, _, _, Batch.settleFetched_success _ hd, rfl, rfl, rfl, rfl, e.dispatch_net _ _ _, rfl⟩
  | some er =>
    cases hfil : er.isFiltered with
    | true =>
      -- a refusal met on the way is counted as filtered and delivered
      have hd : (e.batchHooks batchId (some cb)).deliver (w', []) (withError out (some er)) =
          (((e.dispatch w' batchId (withError out (some er))).1, [withError out (some er)]), [[]]) := by
        simp only [batchHooks, hcb, List.nil_append]
      exact ⟨_, _, _, Batch.settleFetched_filtered _ hfil hd, rfl, rfl, rfl, rfl,
        e.dispatch_net _ _ _, rfl⟩
    | false =>
      -- a failure is counted, stays below the ceiling, and is delivered
      have hd : (e.batchHooks batchId (some cb)).deliver
          ((e.batchHooks batchId (some cb)).batchFailure (w', [])) (withError out (some er)) =
          (((e.dispatch { w' with counters := w'.counters.batchFailure } batchId
            (withError out (some er))).1, [withError out (some er)]), [[]]) := by
        simp only [batchHooks, hcb, List.nil_append]
      have hs : ({ w' with counters := w'.counters.batchFailure } : World σ).seen = w'.seen := rfl
      exact ⟨_, _, _, Batch.settleFetched_failed _ hfil hmf hd, rfl, rfl, rfl, rfl,
        e.dispatch_net _ _ _, e.dispatch_seen_congr hs _ _⟩

include hw hcb

/-- A batch over one locator the filter refuses hands the callback and the observers the
refusal, with no attempt counted, and sends nothing. -/
theorem run_refused (hperm : e.filter.permits u = false) :
    (e.run w batchId (some cb)).2.2.2 = [Outcome.failed u (.filtered u)] ∧
      (e.run w batchId (some cb)).1.net = w.net ∧
      (e.run w batchId (some cb)).1.seen =
        (e.dispatch w batchId (Outcome.failed u (.filtered u))).1.seen := by
  -- the worker refuses `u` and delivers the refusal, the callback adding nothing
  have hd : (e.batchHooks batchId (some cb)).deliver
      ((e.batchHooks batchId (some cb)).workerStarted (w, [])) (Outcome.failed u (.filtered u)) =
      (((e.dispatch { w with counters := w.counters.workerStarted.1 } batchId
        (Outcome.failed u (.filtered u))).1, [Outcome.failed u (.filtered u)]), [[]]) := by
    simp only [batchHooks, hcb, List.nil_append]
  have hp : (e.batchHooks batchId (some cb)).permits u = false := by
    simp only [batchHooks]
    exact hperm
  have hk := Batch.drive_refuseOne (e.batchHooks batchId (some cb)) (b := batchId) (c := false)
    (L := e.config.maxFailures) hp hd
  have hrun := Batch.run_one_world (e.batchHooks batchId (some cb)) (k := k) (by decide) hk rfl rfl
    rfl
  obtain ⟨hnet, hseen, hcalls⟩ := e.run_shows w batchId (some cb)
  rw [hw, Option.isNone_some] at hnet hseen hcalls
  rw [hnet, hseen, hcalls, hrun]
  -- the worker's counting changes only the counters, which the observers do not read
  have hs : ({ w with counters := w.counters.workerStarted.1 } : World σ).seen = w.seen := rfl
  exact ⟨rfl, e.dispatch_net _ _ _, e.dispatch_seen_congr hs _ _⟩

/-- A batch over one locator the filter permits hands the callback and the observers the answer
of the attempt loop its worker runs, marked failed with its failure when it failed, and sends
the requests of that loop; one failure stays below the ceiling. -/
theorem run_permitted (hmf : e.config.maxFailures ≤ 0 ∨ 1 < e.config.maxFailures)
    (hperm : e.filter.permits u = true) {w' : World σ} {out : Outcome} {err : Option FetchError}
    (hf : e.attemptAll { w with counters := w.counters.workerStarted.1 } u {} false =
      (w', out, err)) :
    (e.run w batchId (some cb)).2.2.2 = [withError out err] ∧
      (e.run w batchId (some cb)).1.net = w'.net ∧
      (e.run w batchId (some cb)).1.seen = (e.dispatch w' batchId (withError out err)).1.seen := by
  have hp : (e.batchHooks batchId (some cb)).permits u = true := by
    simp only [batchHooks]
    exact hperm
  have hfetch : (e.batchHooks batchId (some cb)).fetch
      ((e.batchHooks batchId (some cb)).workerStarted (w, [])) u = ((w', []), out, err) := by
    simp only [batchHooks, hf]
  obtain ⟨W, t, evs, hsettle, ha, hi, hwake, hcalls, hnetW, hseenW⟩ :=
    e.settleFetched_shows batchId hcb hmf w' out err
  have hrun := Batch.run_one_world (e.batchHooks batchId (some cb)) (k := k) (by decide)
    (Batch.drive_fetchOne _ hp hfetch hsettle) ha hi hwake
  obtain ⟨hnet, hseen, hcl⟩ := e.run_shows w batchId (some cb)
  rw [hw, Option.isNone_some] at hnet hseen hcl
  rw [hnet, hseen, hcl, hrun]
  exact ⟨hcalls, hnetW, hseenW⟩

end OneLocator

/-- What a batch over `u` shows for the outcome a fetch of `u` answers: the same outcome, but
with no attempt when the filter refuses `u`, which the batch then refuses itself. -/
def batchShows (u : String) (out : Outcome) : Outcome :=
  if e.filter.permits u then out else { out with attempts := 0 }

/-- Running a batch over a pending set that holds only `u`, with a callback that adds nothing
and a failure ceiling that one failure does not reach, shows the callback and the observers the
outcome a fetch of `u` from the same world answers, with no attempt counted when the filter
refuses `u`, and sends the requests that fetch sends. For a refused `u` the retries must stay
below the greatest setting, where the fetch makes its one refused attempt. -/
theorem batch_matches_fetch (w₀ : World σ) (u batchId : String) (p : Pending) (hp : p.toList = [u])
    (cb : Outcome → List String) (hcb : ∀ o, cb o = [])
    (hmf : e.config.maxFailures ≤ 0 ∨ 1 < e.config.maxFailures)
    (hm : e.filter.permits u = false → e.config.settings.maxRetries < Decimal.int64Max)
    (deliver : Bool) :
    (e.run { w₀ with pending := p } batchId (some cb)).2.2.2 =
        [e.batchShows u (e.fetch w₀ u {} deliver false).2.1] ∧
      (e.run { w₀ with pending := p } batchId (some cb)).1.seen =
        (e.dispatch w₀ batchId (e.batchShows u (e.fetch w₀ u {} deliver false).2.1)).1.seen ∧
      (e.run { w₀ with pending := p } batchId (some cb)).1.net =
        (e.fetch w₀ u {} deliver false).1.net := by
  obtain ⟨k, rfl⟩ := Pending.eq_of_toList_singleton hp
  cases hperm : e.filter.permits u with
  | false =>
    -- the batch refuses `u` itself; the fetch's one attempt is refused by the downloader
    obtain ⟨hcalls, hnet, hseen⟩ := e.run_refused { w₀ with pending := ⟨[(u, k)]⟩ } rfl batchId hcb hperm
    obtain ⟨hout, hfnet⟩ := e.fetch_refused (hm hperm) w₀ hperm {} deliver
    have hshow : e.batchShows u (e.fetch w₀ u {} deliver false).2.1 = Outcome.failed u (.filtered u) := by
      rw [batchShows, hperm, hout]
      rfl
    rw [hshow, hcalls, hseen, hnet, hfnet]
    have hs : ({ w₀ with pending := ⟨[(u, k)]⟩ } : World σ).seen = w₀.seen := rfl
    exact ⟨rfl, e.dispatch_seen_congr hs _ _, rfl⟩
  | true =>
    -- the worker fetches in a world that differs from `w₀` only in its counters
    have hal : FetchAlike { { w₀ with pending := ⟨[(u, k)]⟩ } with
        counters := w₀.counters.workerStarted.1 } w₀ := ⟨rfl, rfl, rfl, rfl⟩
    obtain ⟨halike, hsame⟩ := e.attemptAll_alike hal u {} false
    have hseen₀ := e.attemptAll_seen { { w₀ with pending := ⟨[(u, k)]⟩ } with
        counters := w₀.counters.workerStarted.1 } u {} false
    rcases hb : e.attemptAll { { w₀ with pending := ⟨[(u, k)]⟩ } with
        counters := w₀.counters.workerStarted.1 } u {} false with ⟨w', out, err⟩
    obtain ⟨hcalls, hnet, hseen⟩ := e.run_permitted { w₀ with pending := ⟨[(u, k)]⟩ } rfl batchId hcb
      hmf hperm hb
    rw [hb] at halike hsame hseen₀
    have hs : w'.seen = w₀.seen := hseen₀
    have hshow : e.batchShows u (e.fetch w₀ u {} deliver false).2.1 = withError out err := by
      rw [batchShows, hperm, if_pos rfl, fetch_outcome, ← hsame]
    rw [hshow, hcalls, hseen, hnet, fetch_net]
    exact ⟨rfl, e.dispatch_seen_congr hs _ _, halike.net⟩

/-! ## Fetching and batching one page, and one refused locator -/

/-- An engine whose filter refuses executables, over a scripted transport. -/
def refusesExe : Engine Http.Script :=
  { config := { filter := { deny := ["exe"] } }, transport := Http.Script.transport }

/-- A world whose transport serves one page. -/
def onePage : World Http.Script :=
  refusesExe.initial { routes := [("http://e.com/doc", [{ body := Bytes.ofString "hello world" }])] }
    {} Instant.zero

/-- A batch over the one page shows what fetching it shows, and sends the same requests. -/
theorem batch_matches_fetch_onePage :
    (Pending.ofList ["http://e.com/doc"]).toList = ["http://e.com/doc"] ∧
      (∀ o : Outcome, (fun _ : Outcome => ([] : List String)) o = []) ∧
      (refusesExe.config.maxFailures ≤ 0 ∨ 1 < refusesExe.config.maxFailures) ∧
      (refusesExe.filter.permits "http://e.com/doc" = false →
        refusesExe.config.settings.maxRetries < Decimal.int64Max) ∧
      (refusesExe.run { onePage with pending := Pending.ofList ["http://e.com/doc"] } "b"
          (some fun _ => [])).2.2.2 =
        [refusesExe.batchShows "http://e.com/doc"
          (refusesExe.fetch onePage "http://e.com/doc" {} true false).2.1] ∧
      (refusesExe.run { onePage with pending := Pending.ofList ["http://e.com/doc"] } "b"
          (some fun _ => [])).1.seen =
        (refusesExe.dispatch onePage "b" (refusesExe.batchShows "http://e.com/doc"
          (refusesExe.fetch onePage "http://e.com/doc" {} true false).2.1)).1.seen ∧
      (refusesExe.run { onePage with pending := Pending.ofList ["http://e.com/doc"] } "b"
          (some fun _ => [])).1.net =
        (refusesExe.fetch onePage "http://e.com/doc" {} true false).1.net := by
  have hp : (Pending.ofList ["http://e.com/doc"]).toList = ["http://e.com/doc"] := by
    decide +kernel
  have hm : refusesExe.config.settings.maxRetries < Decimal.int64Max := by decide
  exact ⟨hp, fun _ => rfl, .inl (Int.le_refl 0), fun _ => hm, refusesExe.batch_matches_fetch
    onePage "http://e.com/doc" "b" _ hp _ (fun _ => rfl) (.inl (Int.le_refl 0)) (fun _ => hm) true⟩

/-- Fetching an executable counts the one attempt the downloader refused, while a batch over it
refuses it itself and shows no attempt. -/
theorem batch_refusal_counts_no_attempt :
    (refusesExe.fetch onePage "http://e.com/a.exe" {} false false).2.1.attempts = 1 ∧
      (refusesExe.run { onePage with pending := Pending.ofList ["http://e.com/a.exe"] } ""
        (some fun _ => [])).2.2.2.map (·.attempts) = [0] := by
  have hperm : refusesExe.filter.permits "http://e.com/a.exe" = false := by decide +kernel
  have hp : (Pending.ofList ["http://e.com/a.exe"]).toList = ["http://e.com/a.exe"] := by
    decide +kernel
  obtain ⟨k, hk⟩ := Pending.eq_of_toList_singleton hp
  rw [(refusesExe.fetch_refused (by decide) onePage hperm {} false).1,
    (refusesExe.run_refused _ hk "" (fun _ => rfl) hperm).1]
  exact ⟨rfl, rfl⟩

end Engine

end Harvest
