import Harvest.Engine.Batch
import Harvest.Proofs.Batch.Deliver
import Harvest.Proofs.Fetch.Exposed
/-!
# Harvest.Proofs.Engine.Shown

Every outcome an engine shows is exposable (`Engine.shows_exposable`), whatever its settings,
filter, proxies and transport: the outcome a fetch answers, the one `fetchOne` answers, those a
batch answers or hands to its callback, and everything the observers are handed on the way, by
any of the engine's calls.

A batch runs the attempt loop as a single fetch does, with a caller that has not cancelled, and
its own refusal of a locator by the filter counts no attempt and is a filtered failure. So the
hooks an engine gives a batch keep the property "the observers and the callback were handed only
exposable outcomes" (`Engine.batchHooks_keeps`), and `Batch.run_delivers` carries it through the
whole run.

The attempt count is bounded by the retries plus one only when the retries are not negative: an
engine set to retry `-1` times still makes its one attempt (`fetch_attempts_exceed_negative_retries`).
-/

namespace Harvest

namespace Engine

variable {σ : Type} (e : Engine σ)

/-! ## What the observers were handed -/

section Seen

variable {e} {P : Outcome → Prop} {w w₁ w₂ : World σ}

theorem SeenOnly.refl (w : World σ) : SeenOnly P w w := ⟨[], by simp, by simp⟩

/-- Handing the observers nothing new keeps what they were handed. -/
theorem SeenOnly.of_seen (h : SeenOnly P w w₁) (hs : w₂.seen = w₁.seen) : SeenOnly P w w₂ := by
  obtain ⟨new, hn, hp⟩ := h
  exact ⟨new, hs.trans hn, hp⟩

theorem SeenOnly.trans (h₁ : SeenOnly P w w₁) (h₂ : SeenOnly P w₁ w₂) : SeenOnly P w w₂ := by
  obtain ⟨new₁, hn₁, hp₁⟩ := h₁
  obtain ⟨new₂, hn₂, hp₂⟩ := h₂
  refine ⟨new₁ ++ new₂, by rw [hn₂, hn₁, List.append_assoc], ?_⟩
  intro p hp
  rcases List.mem_append.1 hp with hp | hp
  · exact hp₁ p hp
  · exact hp₂ p hp

/-- Handing the observers an outcome that satisfies `P` keeps them handed only such. -/
theorem SeenOnly.dispatch (h : SeenOnly P w w₁) {out : Outcome} (ho : P out) (batchId : String) :
    SeenOnly P w (e.dispatch w₁ batchId out).1 := by
  obtain ⟨k, hk⟩ := e.dispatch_seen w₁ batchId out
  refine h.trans ⟨List.replicate k (out, batchId), hk, ?_⟩
  intro p hp
  rw [List.eq_of_mem_replicate hp]
  exact ho

end Seen

/-- From the world `w₀` on, the observers and a batch's callback were handed only outcomes that
satisfy `P`. -/
def ShownOnly (P : Outcome → Prop) (w₀ : World σ) (x : World σ × List Outcome) : Prop :=
  SeenOnly P w₀ x.1 ∧ ∀ o ∈ x.2, P o

/-! ## Batches -/

variable {e}

/-- The run's own refusal of a locator by the filter counts no attempt and is a filtered
failure. -/
theorem exposable_refused (f : Filter) (m : Int) (c : Bool) (u : String) :
    (Outcome.failed u (.filtered u)).Exposable f m c := by
  have hf : (FetchError.filtered u).isFiltered = true := by
    simp [FetchError.isFiltered, FetchError.chain]
  have hle : ((Outcome.failed u (.filtered u)).attempts : Int) ≤ max m 0 + 1 := by
    simp only [Outcome.failed]
    omega
  exact @Outcome.exposable_failed f m c (Outcome.failed u (.filtered u)) (.filtered u) u rfl
    (.inl hf) hle (fun _ => .inl hf)

variable (e)

/-- Asking for a batch id leaves the observers' record as it was. -/
theorem newBatchId_seen (w : World σ) : (e.newBatchId w).1.seen = w.seen := by
  unfold newBatchId
  split <;> rfl

/-- The hooks an engine gives a batch keep the observers and the callback handed only exposable
outcomes, and answer exposable outcomes. -/
theorem batchHooks_keeps (batchId : String) (callback : Option (Outcome → List String))
    (w₀ : World σ) :
    Batch.Keeps (Outcome.Exposable e.filter e.config.settings.maxRetries false)
      (ShownOnly (Outcome.Exposable e.filter e.config.settings.maxRetries false) w₀)
      (e.batchHooks batchId callback) where
  fetch p u hp := by
    have ha := e.attemptAll_answer p.1 u {} false
    have hs := e.attemptAll_seen p.1 u {} false
    simp only [batchHooks]
    rcases hr : e.attemptAll p.1 u {} false with ⟨w', out, err⟩
    rw [hr] at ha hs
    refine ⟨⟨hp.1.of_seen hs, hp.2⟩, ?_⟩
    cases err with
    | none => exact ha.exposable_ok
    | some er => exact ha.exposable_failed out.url
  deliver p o hp ho := by
    simp only [batchHooks]
    cases callback with
    | none => exact ⟨hp.1.dispatch ho batchId, hp.2⟩
    | some cb =>
      refine ⟨hp.1.dispatch ho batchId, ?_⟩
      intro o' ho'
      rcases List.mem_append.1 ho' with ho' | ho'
      · exact hp.2 o' ho'
      · rw [List.mem_singleton.1 ho']
        exact ho
  workerStarted p hp := ⟨hp.1.of_seen rfl, hp.2⟩
  workerFinished p hp := ⟨hp.1.of_seen rfl, hp.2⟩
  batchFailure p hp := ⟨hp.1.of_seen rfl, hp.2⟩
  refused u := exposable_refused _ _ _ u

/-- A batch answers, hands its callback and shows its observers only exposable outcomes. -/
theorem run_shown {w w' : World σ} {batchId : String} {callback : Option (Outcome → List String)}
    {r : BatchResult} {err : Option FetchError} {calls : List Outcome}
    (h : e.run w batchId callback = (w', r, err, calls)) :
    (∀ o ∈ r.outcomes, o.Exposable e.filter e.config.settings.maxRetries false) ∧
      (∀ o ∈ calls, o.Exposable e.filter e.config.settings.maxRetries false) ∧
      SeenOnly (Outcome.Exposable e.filter e.config.settings.maxRetries false) w w' := by
  have hw₀ : ShownOnly (Outcome.Exposable e.filter e.config.settings.maxRetries false) w
      (w, []) := ⟨SeenOnly.refl w, by simp⟩
  have hd := Batch.run_delivers (e.batchHooks_keeps batchId callback w) batchId
    e.config.maxFailures callback.isNone w.pending hw₀
  unfold run at h
  rcases hb : Batch.run (e.batchHooks batchId callback) batchId e.config.maxFailures
    callback.isNone w.pending (w, []) with ⟨⟨w₁, calls₁⟩, p, result, err₁⟩
  rw [hb] at h hd
  simp only [Prod.mk.injEq] at h
  obtain ⟨rfl, rfl, -, rfl⟩ := h
  exact ⟨hd.2, hd.1.2, hd.1.1.of_seen rfl⟩

/-- A batch under a new id answers, hands its callback and shows its observers only exposable
outcomes; when no id can be had, it answers nothing. -/
theorem start_shown {w w' : World σ} {callback : Option (Outcome → List String)}
    {r : BatchResult} {err : Option FetchError} {calls : List Outcome}
    (h : e.start w callback = (w', r, err, calls)) :
    (∀ o ∈ r.outcomes, o.Exposable e.filter e.config.settings.maxRetries false) ∧
      (∀ o ∈ calls, o.Exposable e.filter e.config.settings.maxRetries false) ∧
      SeenOnly (Outcome.Exposable e.filter e.config.settings.maxRetries false) w w' := by
  have hs := e.newBatchId_seen w
  unfold start at h
  split at h
  · next w₁ msg hid =>
    simp only [Prod.mk.injEq] at h
    obtain ⟨rfl, rfl, -, rfl⟩ := h
    rw [hid] at hs
    exact ⟨by simp, by simp, (SeenOnly.refl w).of_seen hs⟩
  · next w₁ id hid =>
    obtain ⟨h1, h2, h3⟩ := e.run_shown h
    rw [hid] at hs
    exact ⟨h1, h2, ((SeenOnly.refl w).of_seen hs).trans h3⟩

/-- A batch over the caller's own pending set answers and shows its observers only exposable
outcomes. -/
theorem runPending_shown {w w' : World σ} {batchId : String} {p p' : Pending} {r : BatchResult}
    {err : Option FetchError} (h : e.runPending w batchId p = (w', p', r, err)) :
    (∀ o ∈ r.outcomes, o.Exposable e.filter e.config.settings.maxRetries false) ∧
      SeenOnly (Outcome.Exposable e.filter e.config.settings.maxRetries false) w w' := by
  unfold runPending at h
  rcases hr : e.run { w with pending := p } batchId none with ⟨w₁, result, err₁, calls⟩
  rw [hr] at h
  simp only [Prod.mk.injEq] at h
  obtain ⟨rfl, -, rfl, -⟩ := h
  obtain ⟨h1, -, h3⟩ := e.run_shown hr
  exact ⟨h1, h3.of_seen rfl⟩

/-! ## Single fetches -/

/-- `fetchOne` answers, when it answers an outcome, an exposable one, and shows its observers
nothing else. -/
theorem fetchOne_shown {w w' : World σ} {url : String} {deliver : Bool} {res : Option Outcome}
    (h : e.fetchOne w url deliver = (w', res)) :
    (∀ out, res = some out → out.Exposable e.filter e.config.settings.maxRetries false) ∧
      SeenOnly (Outcome.Exposable e.filter e.config.settings.maxRetries false) w w' := by
  have hx := e.fetch_exposable w url {} deliver false
  have hs := e.fetch_seen w url {} deliver false
  unfold fetchOne at h
  split at h
  · next w₁ out₁ hf =>
    simp only [Prod.mk.injEq] at h
    obtain ⟨rfl, rfl⟩ := h
    rw [hf] at hx hs
    refine ⟨fun out ho => ?_, hs⟩
    cases ho
    exact hx
  · next w₁ out₁ er hf =>
    simp only [Prod.mk.injEq] at h
    obtain ⟨rfl, rfl⟩ := h
    rw [hf] at hs
    exact ⟨(fun out ho => by cases ho), hs⟩

/-- Fetching a document shows the observers what its fetch showed them, and nothing else. -/
theorem fetchDocument_world (w : World σ) (url : String) (asXml deliver : Bool) :
    (e.fetchDocument w url asXml deliver).1 = (e.fetchOne w url deliver).1 := by
  unfold fetchDocument
  split
  · next w₁ hf => rw [hf]
  · next w₁ out hf =>
    rw [hf]
    simp only
    split
    · rfl
    · next p hp =>
      -- whatever the parser makes of the body, the world is the fetch's
      cases p.parse out.body (if out.finalUrl.isEmpty then url else out.finalUrl) asXml <;> rfl

/-- Downloading text shows the observers what its fetch showed them, and nothing else. -/
theorem download_world (w : World σ) (url : String) (strip : List Stripper) :
    (e.download w url strip).1 = (e.fetchOne w url false).1 := by
  unfold download
  split
  · next w₁ hf => rw [hf]
  · next w₁ out hf => rw [hf]

/-! ## Everything an engine shows -/

/-- An outcome the engine `e` may show, to a caller that had cancelled when `canceled`:
exposable under the engine's filter and retry setting. -/
def Exposes (canceled : Bool) (out : Outcome) : Prop :=
  out.Exposable e.filter e.config.settings.maxRetries canceled

/-- Every outcome an engine shows is exposable: what a fetch answers (by a caller that may have
cancelled), what `fetchOne` answers, what a batch answers or hands its callback, and what the
observers are handed by any call. -/
structure ShowsExposable : Prop where
  fetch : ∀ (w : World σ) url cond deliver canceled,
    e.Exposes canceled (e.fetch w url cond deliver canceled).2.1 ∧
      SeenOnly (e.Exposes canceled) w (e.fetch w url cond deliver canceled).1
  fetchOne : ∀ (w w' : World σ) url deliver res, e.fetchOne w url deliver = (w', res) →
    (∀ out, res = some out → e.Exposes false out) ∧ SeenOnly (e.Exposes false) w w'
  fetchDocument : ∀ (w : World σ) url asXml deliver,
    SeenOnly (e.Exposes false) w (e.fetchDocument w url asXml deliver).1
  download : ∀ (w : World σ) url strip, SeenOnly (e.Exposes false) w (e.download w url strip).1
  run : ∀ (w w' : World σ) batchId callback r err calls,
    e.run w batchId callback = (w', r, err, calls) →
      (∀ o ∈ r.outcomes, e.Exposes false o) ∧ (∀ o ∈ calls, e.Exposes false o) ∧
        SeenOnly (e.Exposes false) w w'
  start : ∀ (w w' : World σ) callback r err calls, e.start w callback = (w', r, err, calls) →
    (∀ o ∈ r.outcomes, e.Exposes false o) ∧ (∀ o ∈ calls, e.Exposes false o) ∧
      SeenOnly (e.Exposes false) w w'
  runPending : ∀ (w w' : World σ) batchId p p' r err,
    e.runPending w batchId p = (w', p', r, err) →
      (∀ o ∈ r.outcomes, e.Exposes false o) ∧ SeenOnly (e.Exposes false) w w'

/-- Every engine, whatever its settings, filter, proxies and transport, shows only exposable
outcomes. -/
theorem shows_exposable : e.ShowsExposable where
  fetch w url cond deliver canceled :=
    ⟨e.fetch_exposable w url cond deliver canceled, e.fetch_seen w url cond deliver canceled⟩
  fetchOne _ _ _ _ _ h := e.fetchOne_shown h
  fetchDocument w url asXml deliver := by
    rw [e.fetchDocument_world]
    have h : ((e.fetchOne w url deliver).1, (e.fetchOne w url deliver).2) =
        e.fetchOne w url deliver := Prod.eta _
    exact (e.fetchOne_shown h.symm).2
  download w url strip := by
    rw [e.download_world]
    have h : ((e.fetchOne w url false).1, (e.fetchOne w url false).2) = e.fetchOne w url false :=
      Prod.eta _
    exact (e.fetchOne_shown h.symm).2
  run _ _ _ _ _ _ _ h := e.run_shown h
  start _ _ _ _ _ _ h := e.start_shown h
  runPending _ _ _ _ _ _ _ h := e.runPending_shown h

/-! ## Negative retries -/

/-- An engine set to retry `-1` times, over a scripted transport. -/
def negativeRetries : Engine Http.Script :=
  { config := { settings := { maxRetries := -1 } }, transport := Http.Script.transport }

/-- A world whose transport serves one page. -/
def servedWorld : World Http.Script :=
  negativeRetries.initial
    { routes := [("http://e.com/doc", [{ body := Bytes.ofString "hello world" }])] } {}
    Instant.zero

/-- Retrying `-1` times still makes the one attempt a fetch needs: one more than the retries
plus one. -/
theorem fetch_attempts_exceed_negative_retries :
    (negativeRetries.fetch servedWorld "http://e.com/doc" {} false false).2.1.attempts = 1 ∧
      ¬(((negativeRetries.fetch servedWorld "http://e.com/doc" {} false false).2.1.attempts :
        Int) ≤ negativeRetries.config.settings.maxRetries + 1) := by
  have h1 := negativeRetries.fetch_attempted (by decide) servedWorld "http://e.com/doc" {} false
  have hle := (negativeRetries.fetch_exposable servedWorld "http://e.com/doc" {} false
    false).attemptsLe
  have hm : negativeRetries.config.settings.maxRetries = -1 := rfl
  rw [hm] at hle ⊢
  omega

end Engine

end Harvest
