import Harvest.Api.Server
import Harvest.Proofs.Api.Routing
import Harvest.Proofs.Engine.Fleet
/-!
# The batch registry of the service

A server keeps one record per batch it was given. Over any sequence of requests served from a
fresh registry (`Server.serveAll`), with a source of distinct batch ids (`Server.DistinctIds`) and
a router that behaves as documented (`Router.Lawful`):

* a submission that waits answers `200` with the record of its batch (`Server.Waited`): the id
  the source gave, the number of locators its pending set took, the run's result, and how the run
  ended; and every later lookup of that id answers the same thing;
* the id of no batch answers `404`; an unreadable body or an empty list of locators answers `400`
  and changes nothing;
* adding a proxy answers `201`, `409` or `400` exactly as the body, the endpoint and the ring
  decide, and listing the proxies reports the ring;
* with keys enforced, a request of a standard method under `/v1` with the wrong key answers `403`
  and changes nothing; a request of any other method answers `405` whatever its key and path.

The registry's frame (`Server.Grows`): a request leaves the records as they were, or takes an id,
or takes an id and records one new batch under it. Since ids are distinct, a record once made is
never touched again (`Server.record?_serveAll`).
-/

namespace Harvest

/-! ## Runs the scheduler drives end completed or aborted -/

namespace Batch

variable {σ : Type} (h : BatchHooks σ)

/-- A run ends completed or aborted: the scheduler never cancels it. -/
theorem run_error (batchId : String) (M : Int) (collect : Bool) (p : Pending) (world : σ) :
    (run h batchId M collect p world).2.2.2 = none ∨
      ∃ F L, (run h batchId M collect p world).2.2.2 = some (.aborted F L) := by
  have hc : (drive h fuel (start batchId p world collect M)).canceled = false := by
    rw [drive_canceled]; rfl
  -- whether or not it answered, a run reports the error of its last state
  have herr : (run h batchId M collect p world).2.2.2 =
      (drive h fuel (start batchId p world collect M)).error := by
    unfold run State.answer
    dsimp only
    split
    · next r err hst =>
      obtain ⟨l, -, rfl⟩ := (reaches_drive fuel _).invariant.answered r err hst
      rfl
    · rfl
  rw [herr]
  unfold State.error
  rw [hc]
  split
  · exact .inr ⟨_, _, rfl⟩
  · exact .inl rfl

end Batch

namespace Engine

variable {σ : Type} (e : Engine σ)

/-- A run over a caller's pending set ends completed or aborted. -/
theorem runPending_error (w : World σ) (batchId : String) (p : Pending) :
    (e.runPending w batchId p).2.2.2 = none ∨
      ∃ F L, (e.runPending w batchId p).2.2.2 = some (.aborted F L) :=
  Batch.run_error _ _ _ _ _ _

end Engine

namespace Api

/-! ## How a batch ends -/

/-- The record of a batch once its run, at time `now`, answered `result` and `err`. -/
def BatchRecord.finish (b : BatchRecord) (now : Instant) (result : BatchResult) :
    Option FetchError → BatchRecord
  | none => { b with finished := some now, result := some result, phase := .completed }
  | some e =>
    { b with finished := some now, result := some result, phase := .ofError e, error := e.message }

namespace BatchRecord

variable (b : BatchRecord) (now : Instant) (result : BatchResult) (err : Option FetchError)

@[simp] theorem batchId_finish : (b.finish now result err).batchId = b.batchId := by
  cases err <;> rfl

@[simp] theorem added_finish : (b.finish now result err).added = b.added := by
  cases err <;> rfl

@[simp] theorem submitted_finish : (b.finish now result err).submitted = b.submitted := by
  cases err <;> rfl

@[simp] theorem result_finish : (b.finish now result err).result = some result := by
  cases err <;> rfl

theorem phase_finish_completed : (b.finish now result err).phase = .completed ↔ err = none := by
  cases err with
  | none => simp [finish]
  | some e =>
    simp only [finish, BatchPhase.ofError, reduceCtorEq, iff_false]
    split
    · simp
    · split <;> simp

theorem phase_finish_aborted :
    (b.finish now result err).phase = .aborted ↔ ∃ e, err = some e ∧ e.isAborted = true := by
  cases err with
  | none => simp [finish]
  | some e =>
    simp only [finish, BatchPhase.ofError, Option.some.injEq, exists_eq_left']
    split
    · simpa
    · split <;> simp_all

theorem phase_finish_canceled :
    (b.finish now result err).phase = .canceled ↔
      ∃ e, err = some e ∧ e.isAborted = false ∧ e.isCanceled = true := by
  cases err with
  | none => simp [finish]
  | some e =>
    simp only [finish, BatchPhase.ofError, Option.some.injEq, exists_eq_left']
    split
    · simp_all
    · split <;> simp_all

theorem phase_finish_failed :
    (b.finish now result err).phase = .failed ↔
      ∃ e, err = some e ∧ e.isAborted = false ∧ e.isCanceled = false := by
  cases err with
  | none => simp [finish]
  | some e =>
    simp only [finish, BatchPhase.ofError, Option.some.injEq, exists_eq_left']
    split
    · simp_all
    · split <;> simp_all

theorem error_finish : (b.finish now result err).error =
    match err with
    | none => b.error
    | some e => e.message := by
  cases err <;> rfl

end BatchRecord

/-! ## The registry -/

namespace ServerState

variable {σ : Type}

/-- Replacing a record whose id no other record has replaces that record alone. -/
theorem setRecord_batches {st : ServerState σ} {b : BatchRecord} {bs : List BatchRecord}
    (hst : st.batches = b :: bs) (hfresh : ∀ x ∈ bs, x.batchId ≠ b.batchId) (rec : BatchRecord)
    (hid : rec.batchId = b.batchId) : (st.setRecord rec).batches = rec :: bs := by
  simp only [setRecord, hst, List.map_cons, hid, beq_self_eq_true, if_true, List.cons.injEq,
    true_and]
  refine (List.map_congr_left fun x hx => ?_).trans (List.map_id bs)
  simp [hfresh x hx]

end ServerState

namespace Server

variable {σ : Type} (s : Server σ)

/-- Serves requests one after another; answers the state and the responses. -/
def serveAll (st : ServerState σ) : List Request → ServerState σ × List Response
  | [] => (st, [])
  | r :: rs =>
    let (st', a) := s.handle st r
    let (st'', as) := serveAll st' rs
    (st'', a :: as)

@[simp] theorem serveAll_nil (st : ServerState σ) : s.serveAll st [] = (st, []) := rfl

@[simp] theorem serveAll_cons (st : ServerState σ) (r : Request) (rs : List Request) :
    s.serveAll st (r :: rs) =
      ((s.serveAll (s.handle st r).1 rs).1, (s.handle st r).2 :: (s.serveAll (s.handle st r).1 rs).2) :=
  rfl

/-- The source of batch ids never answers one id twice. -/
def DistinctIds : Prop := ∀ m n id, s.idAt m = .ok id → s.idAt n = .ok id → m = n

/-- Whether the key check lets a request through: keys are not enforced, or it has the key. -/
def Admits (r : Request) : Prop := s.authEnabled = false ∨ r.apiKey = s.apiKey

/-- What the registry keeps: every record's id was answered by the source at a call already made,
and no two records share an id. -/
structure Registry (st : ServerState σ) : Prop where
  minted : ∀ b ∈ st.batches, ∃ n, n ≤ st.issued ∧ s.idAt n = .ok b.batchId
  nodup : (st.batches.map (·.batchId)).Nodup

/-- How one request may change the registry: not at all, by taking an id, or by taking an id and
recording one batch under it. -/
inductive Grows (st st' : ServerState σ) : Prop
  | same (hb : st'.batches = st.batches) (hi : st'.issued = st.issued)
  | took (hb : st'.batches = st.batches) (hi : st'.issued = st.issued + 1)
  | recorded (b : BatchRecord) (hid : s.idAt (st.issued + 1) = .ok b.batchId)
      (hb : st'.batches = b :: st.batches) (hi : st'.issued = st.issued + 1)

variable {s}

/-- A fresh registry is one. -/
theorem Registry.initial (w : World σ) : s.Registry { world := w } :=
  ⟨by simp, by simp⟩

/-- The id of the next call is the id of no record. -/
theorem Registry.fresh (hd : s.DistinctIds) {st : ServerState σ} (hreg : s.Registry st) {id : String}
    (hid : s.idAt (st.issued + 1) = .ok id) : ∀ x ∈ st.batches, x.batchId ≠ id := by
  intro x hx heq
  obtain ⟨n, hn, hx⟩ := hreg.minted x hx
  have := hd _ _ _ hx (heq ▸ hid)
  omega

theorem Registry.step {st st' : ServerState σ} (hd : s.DistinctIds) (hreg : s.Registry st)
    (hg : s.Grows st st') : s.Registry st' := by
  cases hg with
  | same hb hi => exact ⟨by rw [hb, hi]; exact hreg.minted, by rw [hb]; exact hreg.nodup⟩
  | took hb hi =>
    refine ⟨fun b hbm => ?_, by rw [hb]; exact hreg.nodup⟩
    obtain ⟨n, hn, hid⟩ := hreg.minted b (hb ▸ hbm)
    exact ⟨n, by omega, hid⟩
  | recorded b hid hb hi =>
    -- the new record's id is the next call's, which no record had
    have hfresh := hreg.fresh hd hid
    refine ⟨fun x hx => ?_, ?_⟩
    · rw [hb, List.mem_cons] at hx
      rcases hx with rfl | hx
      · exact ⟨_, by omega, hid⟩
      · obtain ⟨n, hn, hid⟩ := hreg.minted x hx
        exact ⟨n, by omega, hid⟩
    · rw [hb, List.map_cons, List.nodup_cons]
      exact ⟨fun hm => by
        obtain ⟨x, hx, heq⟩ := List.mem_map.1 hm
        exact hfresh x hx heq, hreg.nodup⟩

/-- A request leaves every record already made as it was. -/
theorem Grows.record? (hd : s.DistinctIds) {st st' : ServerState σ} (hreg : s.Registry st)
    (hg : s.Grows st st') {id : String} {b : BatchRecord} (hb : st.record? id = some b) :
    st'.record? id = some b := by
  cases hg with
  | same hbs => simpa [ServerState.record?, hbs] using hb
  | took hbs => simpa [ServerState.record?, hbs] using hb
  | recorded c hid hbs =>
    unfold ServerState.record? at hb ⊢
    rw [hbs, List.find?_cons]
    split
    · next hc =>
      -- the new record has the id of no earlier one
      have hbm := List.mem_of_find?_eq_some hb
      have hbid : b.batchId = id := by simpa using List.find?_some hb
      have hcid : c.batchId = id := by simpa using hc
      exact absurd (hbid.trans hcid.symm) (hreg.fresh hd hid b hbm)
    · exact hb

/-! ## The key check -/

theorem serve_submitBatch (st : ServerState σ) (r : Request) :
    s.serve st r .submitBatch = s.submit st r.body := rfl

theorem serve_addProxy (st : ServerState σ) (r : Request) :
    s.serve st r .addProxy = s.addProxy st r.body := rfl

theorem handle_of_admits {r : Request} (h : s.Admits r) (st : ServerState σ) :
    s.handle st r = s.serve st r (s.router r.method r.routePath) := by
  unfold handle
  rw [if_neg]
  rcases h with h | h <;> simp [h]

/-- With keys enforced, a request of a standard method under `/v1` with the wrong key is refused
and changes nothing. -/
theorem handle_refused {r : Request} (ha : s.authEnabled = true) (hm : r.method ∈ knownMethods)
    (hk : keyed r.routePath = true) (hkey : r.apiKey ≠ s.apiKey) (st : ServerState σ) :
    s.handle st r = (st, .error 403 "unauthorized") := by
  unfold handle
  rw [if_pos (by simp [ha, hk, hkey, hm])]

/-- A request of a method outside the standard nine is refused as *method not allowed*, whatever
its key and its path, and changes nothing: the router refuses it before the key is looked at. -/
theorem handle_unknown_method (hrt : s.router.Lawful) {r : Request} (hm : r.method ∉ knownMethods)
    (st : ServerState σ) : s.handle st r = (st, .wrongMethod) := by
  have hroute := hrt.unknownMethod r.method r.routePath hm
  unfold handle
  dsimp only
  rw [if_neg (by simp [hm]), hroute]
  rfl

/-! ## Running a recorded batch -/

/-- The run of a submission's batch: over a fresh pending set of its locators, from the server's
world. -/
def runOf (st : ServerState σ) (urls : List String) (id : String) :
    World σ × Pending × BatchResult × Option FetchError :=
  s.engine.runPending st.world id (Pending.empty.add urls).1

theorem runBatch_ran (st : ServerState σ) (b : BatchRecord) (p : Pending) :
    s.runBatch st b p false =
      { st with world := (s.engine.runPending st.world b.batchId p).1 }.setRecord
        (b.finish st.world.clock (s.engine.runPending st.world b.batchId p).2.2.1
          (s.engine.runPending st.world b.batchId p).2.2.2) := by
  unfold runBatch
  simp only [Bool.false_eq_true, if_false]
  split <;> (rename_i herr; rw [herr]; rfl)

/-- Running a batch whose id no other record has replaces its record alone and takes no id. -/
theorem runBatch_batches (st : ServerState σ) {b : BatchRecord} {bs : List BatchRecord}
    (hst : st.batches = b :: bs) (hfresh : ∀ x ∈ bs, x.batchId ≠ b.batchId) (p : Pending)
    (canceled : Bool) :
    ∃ b', b'.batchId = b.batchId ∧ (s.runBatch st b p canceled).batches = b' :: bs ∧
      (s.runBatch st b p canceled).issued = st.issued := by
  cases canceled with
  | true =>
    refine ⟨{ b with phase := .canceled, finished := some st.world.clock,
                     result := some { batchId := b.batchId },
                     error := "batch canceled: " ++ FetchError.canceled.message }, rfl, ?_, rfl⟩
    exact ServerState.setRecord_batches hst hfresh _ rfl
  | false =>
    rw [runBatch_ran]
    exact ⟨_, BatchRecord.batchId_finish .., ServerState.setRecord_batches hst hfresh _
      (BatchRecord.batchId_finish ..), rfl⟩

/-! ## One request -/

/-- Recording a batch under the next call's id and running it grows the registry by it. -/
theorem grows_runBatch (hd : s.DistinctIds) {st : ServerState σ} (hreg : s.Registry st)
    {id : String} (hid : s.idAt (st.issued + 1) = .ok id) {b : BatchRecord} (p : Pending)
    (canceled : Bool) (hb : b.batchId = id) :
    s.Grows st (s.runBatch { st with issued := st.issued + 1, batches := b :: st.batches } b p
      canceled) := by
  subst hb
  obtain ⟨b', hb', hbs, hi⟩ :=
    runBatch_batches (s := s) { st with issued := st.issued + 1, batches := b :: st.batches } rfl
      (hreg.fresh hd hid) p canceled
  exact .recorded b' (by rw [hb']; exact hid) hbs hi

theorem submit_grows (hd : s.DistinctIds) {st : ServerState σ} (hreg : s.Registry st)
    (body : String) : s.Grows st (s.submit st body).1 := by
  unfold submit
  split
  · exact .same rfl rfl
  split
  · exact .same rfl rfl
  simp only [nextId]
  cases hid : s.idAt (st.issued + 1) with
  | error msg => exact .took rfl rfl
  | ok id =>
    dsimp only
    -- waited or not, the batch is recorded under the new id
    split <;> dsimp only <;> exact grows_runBatch hd hreg hid _ _ rfl

theorem addProxy_grows (st : ServerState σ) (body : String) : s.Grows st (s.addProxy st body).1 := by
  unfold addProxy
  repeat' split
  all_goals exact .same rfl rfl

theorem handle_grows (hd : s.DistinctIds) {st : ServerState σ} (hreg : s.Registry st)
    (r : Request) : s.Grows st (s.handle st r).1 := by
  unfold handle
  dsimp only
  split
  · exact .same rfl rfl
  generalize s.router r.method r.routePath = rt
  cases rt with
  | submitBatch => exact submit_grows hd hreg r.body
  | addProxy => exact addProxy_grows st r.body
  | ready => dsimp only [serve]; split <;> exact .same rfl rfl
  | batch id => dsimp only [serve]; split <;> exact .same rfl rfl
  | _ => exact .same rfl rfl

/-! ## Sequences of requests -/

theorem Registry.serveAll (hd : s.DistinctIds) {st : ServerState σ} (hreg : s.Registry st)
    (rs : List Request) : s.Registry (s.serveAll st rs).1 := by
  induction rs generalizing st with
  | nil => exact hreg
  | cons r rs ih => exact ih (hreg.step hd (handle_grows hd hreg r))

/-- A record once made stays as it is, whatever requests follow. -/
theorem record?_serveAll (hd : s.DistinctIds) {st : ServerState σ} (hreg : s.Registry st)
    (rs : List Request) {id : String} {b : BatchRecord} (hb : st.record? id = some b) :
    (s.serveAll st rs).1.record? id = some b := by
  induction rs generalizing st with
  | nil => exact hb
  | cons r rs ih =>
    exact ih (hreg.step hd (handle_grows hd hreg r)) ((handle_grows hd hreg r).record? hd hreg hb)

/-! ## Answers -/

/-- The record a submission that waits ends with: under the id the source gave, with the count of
locators its pending set took, stamped with the clock, and finished as its run answered. -/
def waited (st : ServerState σ) (urls : List String) (id : String) : BatchRecord :=
  BatchRecord.finish
    { batchId := id, added := (Pending.empty.add urls).2, submitted := st.world.clock }
    st.world.clock (s.runOf st urls id).2.2.1 (s.runOf st urls id).2.2.2

/-- What the record of a batch submitted with `wait` from state `st` holds: the id, the number of
locators its pending set took, the submission time, the result of its run, and how the run ended
(completed without an error, aborted on an abort, canceled on a cancellation that is not an abort,
failed on any other error), which for a run the scheduler drives is completed or aborted. -/
structure Waited (st : ServerState σ) (urls : List String) (id : String) (rec : BatchRecord) :
    Prop where
  batchId : rec.batchId = id
  added : rec.added = (Pending.empty.add urls).2
  submitted : rec.submitted = st.world.clock
  result : rec.result = some (s.runOf st urls id).2.2.1
  completed : rec.phase = .completed ↔ (s.runOf st urls id).2.2.2 = none
  aborted : rec.phase = .aborted ↔ ∃ e, (s.runOf st urls id).2.2.2 = some e ∧ e.isAborted = true
  canceled : rec.phase = .canceled ↔
    ∃ e, (s.runOf st urls id).2.2.2 = some e ∧ e.isAborted = false ∧ e.isCanceled = true
  failed : rec.phase = .failed ↔
    ∃ e, (s.runOf st urls id).2.2.2 = some e ∧ e.isAborted = false ∧ e.isCanceled = false
  ended : rec.phase = .completed ∨ rec.phase = .aborted

theorem waited_spec (st : ServerState σ) (urls : List String) (id : String) :
    s.Waited st urls id (s.waited st urls id) := by
  refine ⟨by simp [waited], by simp [waited], by simp [waited], by simp [waited],
    BatchRecord.phase_finish_completed .., BatchRecord.phase_finish_aborted ..,
    BatchRecord.phase_finish_canceled .., BatchRecord.phase_finish_failed .., ?_⟩
  -- the run was never cancelled, so it ended completed or aborted
  rcases (s.engine.runPending_error st.world id _) with h | ⟨F, L, h⟩
  · exact .inl ((BatchRecord.phase_finish_completed ..).2 h)
  · exact .inr ((BatchRecord.phase_finish_aborted ..).2 ⟨_, h, by simp [FetchError.isAborted,
      FetchError.chain]⟩)

theorem record?_of_batches {st : ServerState σ} {b : BatchRecord} {bs : List BatchRecord}
    (hst : st.batches = b :: bs) {id : String} (hb : b.batchId = id) : st.record? id = some b := by
  simp [ServerState.record?, hst, hb]

/-- Running a batch just recorded under a fresh id leaves its finished record under that id. -/
theorem record?_runBatch_ran (st : ServerState σ) (b : BatchRecord) (p : Pending)
    (hfresh : ∀ x ∈ st.batches, x.batchId ≠ b.batchId) :
    (s.runBatch { st with issued := st.issued + 1, batches := b :: st.batches } b p false).record?
        b.batchId =
      some (b.finish st.world.clock (s.engine.runPending st.world b.batchId p).2.2.1
        (s.engine.runPending st.world b.batchId p).2.2.2) := by
  rw [runBatch_ran]
  exact record?_of_batches (ServerState.setRecord_batches rfl hfresh _
    (BatchRecord.batchId_finish ..)) (BatchRecord.batchId_finish ..)

/-- A submission that waits, with a readable body, some locators and an id from the source,
answers `200` with the record of its batch and leaves that record in the registry. -/
theorem submit_waited (hd : s.DistinctIds) {st : ServerState σ} (hreg : s.Registry st)
    {body : String} {req : BatchRequest} (hread : BatchRequest.read body = some req)
    (hne : req.urls.items ≠ []) (hw : req.wait = true) {id : String}
    (hid : s.idAt (st.issued + 1) = .ok id) :
    (s.submit st body).2 = .json 200 (s.waited st req.urls.items id).toJson ∧
      (s.submit st body).1.record? id = some (s.waited st req.urls.items id) := by
  have hempty : req.urls.items.isEmpty = false := List.isEmpty_eq_false_iff.2 hne
  unfold submit
  simp only [hread, hempty, Bool.false_eq_true, if_false, nextId, hid, hw, if_true]
  rw [record?_runBatch_ran st { batchId := id, added := _, submitted := _ } _ (hreg.fresh hd hid)]
  exact ⟨rfl, rfl⟩

theorem submit_unreadable {st : ServerState σ} {body : String}
    (hread : BatchRequest.read body = none) : s.submit st body = (st, .error 400 "invalid JSON") := by
  unfold submit
  rw [hread]

theorem submit_no_urls {st : ServerState σ} {body : String} {req : BatchRequest}
    (hread : BatchRequest.read body = some req) (he : req.urls.items = []) :
    s.submit st body = (st, .error 400 "urls required") := by
  unfold submit
  simp [hread, he]

/-- Adding a proxy answers `201` exactly when the body reads, the endpoint parses and the ring
takes it; `409` exactly when the endpoint parses and the ring refuses it; and `400` exactly when
the body does not read or the endpoint does not parse. -/
theorem addProxy_status (st : ServerState σ) (body : String) :
    ((s.addProxy st body).2.status = 201 ↔ ∃ req ep, ProxyRequest.read body = some req ∧
      Endpoint.parse req.endpoint = .ok ep ∧ (st.world.ring.add ep).2 = true) ∧
    ((s.addProxy st body).2.status = 409 ↔ ∃ req ep, ProxyRequest.read body = some req ∧
      Endpoint.parse req.endpoint = .ok ep ∧ (st.world.ring.add ep).2 = false) ∧
    ((s.addProxy st body).2.status = 400 ↔ ProxyRequest.read body = none ∨
      ∃ req f, ProxyRequest.read body = some req ∧ Endpoint.parse req.endpoint = .error f) := by
  unfold addProxy
  cases hread : ProxyRequest.read body with
  | none => simp [Response.error, Response.json]
  | some req =>
    cases hparse : Endpoint.parse req.endpoint with
    | error f => simp [hparse, Response.error, Response.json]
    | ok ep =>
      simp only [hparse]
      -- the ring answers whether it took the endpoint
      have hexec : s.engine.poolExec st.world (.add ep) =
          ({ st.world with ring := (st.world.ring.add ep).1, probes := st.world.probes ++ [] },
            .flag (st.world.ring.add ep).2) := rfl
      rw [hexec]
      cases hok : (st.world.ring.add ep).2 <;> simp [hparse, hok, Response.error, Response.json]

/-- An admitted request is served as routed. -/
theorem handle_lookup {g : Request} (ha : s.Admits g) {id : String}
    (hg : s.router g.method g.routePath = .batch id) {st : ServerState σ} {b : BatchRecord}
    (hb : st.record? id = some b) : s.handle st g = (st, .json 200 b.toJson) := by
  rw [handle_of_admits ha, hg]
  simp only [serve, hb]

theorem handle_lookup_missing {g : Request} (ha : s.Admits g) {id : String}
    (hg : s.router g.method g.routePath = .batch id) {st : ServerState σ}
    (hb : st.record? id = none) : s.handle st g = (st, .error 404 "batch not found") := by
  rw [handle_of_admits ha, hg]
  simp only [serve, hb]

/-! ## The contract over every sequence of requests -/

/-- The states a server reaches from a fresh registry by serving requests. -/
def Reachable (st : ServerState σ) : Prop := ∃ w pre, st = (s.serveAll { world := w } pre).1

theorem Reachable.registry (hd : s.DistinctIds) {st : ServerState σ} (h : s.Reachable st) :
    s.Registry st := by
  obtain ⟨w, pre, rfl⟩ := h
  exact (Registry.initial w).serveAll hd pre

/-- The service's contract in every state reached from a fresh registry, with a source of distinct
ids and a router that behaves as documented: a submission that waits answers the record of its
batch, and every later lookup of its id answers the same; the id of no batch answers `404`; an
unreadable body or no locators answers `400` and changes nothing; adding a proxy answers `201`,
`409` or `400` as the body, the endpoint and the ring decide, and listing the proxies reports the
ring; with keys enforced, a request of a standard method under `/v1` with the wrong key answers
`403` and changes nothing; a request of any other method answers `405` and changes nothing. -/
theorem serve_contract (hd : s.DistinctIds) (hrt : s.router.Lawful) {st : ServerState σ}
    (hst : s.Reachable st) :
    (∀ r req id, s.Admits r → r.method = "POST" → r.routePath = "/v1/batches" →
      BatchRequest.read r.body = some req → req.urls.items ≠ [] → req.wait = true →
      s.idAt (st.issued + 1) = .ok id →
      ∃ rec, s.Waited st req.urls.items id rec ∧ (s.handle st r).2 = .json 200 rec.toJson ∧
        (IsSegment id → ∀ post g, s.Admits g → g.method = "GET" →
          g.routePath = "/v1/batches/" ++ id →
          (s.handle (s.serveAll (s.handle st r).1 post).1 g).2 = .json 200 rec.toJson)) ∧
    (∀ g id, s.Admits g → g.method = "GET" → g.routePath = "/v1/batches/" ++ id → IsSegment id →
      st.record? id = none → s.handle st g = (st, .error 404 "batch not found")) ∧
    (∀ r, s.Admits r → r.method = "POST" → r.routePath = "/v1/batches" →
      BatchRequest.read r.body = none → s.handle st r = (st, .error 400 "invalid JSON")) ∧
    (∀ r req, s.Admits r → r.method = "POST" → r.routePath = "/v1/batches" →
      BatchRequest.read r.body = some req → req.urls.items = [] →
      s.handle st r = (st, .error 400 "urls required")) ∧
    (∀ r, s.Admits r → r.method = "POST" → r.routePath = "/v1/proxies" →
      ((s.handle st r).2.status = 201 ↔ ∃ req ep, ProxyRequest.read r.body = some req ∧
        Endpoint.parse req.endpoint = .ok ep ∧ (st.world.ring.add ep).2 = true) ∧
      ((s.handle st r).2.status = 409 ↔ ∃ req ep, ProxyRequest.read r.body = some req ∧
        Endpoint.parse req.endpoint = .ok ep ∧ (st.world.ring.add ep).2 = false) ∧
      ((s.handle st r).2.status = 400 ↔ ProxyRequest.read r.body = none ∨
        ∃ req f, ProxyRequest.read r.body = some req ∧ Endpoint.parse req.endpoint = .error f)) ∧
    (∀ g, s.Admits g → g.method = "GET" → g.routePath = "/v1/proxies" →
      s.handle st g = (st, .json 200 (ringJson st.world.ring))) ∧
    (s.authEnabled = true → ∀ r, r.method ∈ knownMethods → keyed r.routePath = true →
      r.apiKey ≠ s.apiKey → s.handle st r = (st, .error 403 "unauthorized")) ∧
    (∀ r, r.method ∉ knownMethods → s.handle st r = (st, .wrongMethod)) := by
  have hreg := hst.registry hd
  -- the endpoints of the contract, as the router reaches them
  have hsubmit : ∀ r : Request, s.Admits r → r.method = "POST" → r.routePath = "/v1/batches" →
      s.handle st r = s.submit st r.body := fun r ha hm hp => by
    rw [handle_of_admits ha, hm, hp, hrt.submitBatch, serve_submitBatch]
  have hbatch : ∀ {g : Request} {id}, g.method = "GET" → g.routePath = "/v1/batches/" ++ id →
      IsSegment id → s.router g.method g.routePath = .batch id := fun hm hp hid => by
    rw [hm, hp, hrt.batch _ hid]
  refine ⟨fun r req id ha hm hp hread hne hw hid => ?_,
    fun g id ha hm hp hid hb => handle_lookup_missing ha (hbatch hm hp hid) hb,
    fun r ha hm hp hread => (hsubmit r ha hm hp).trans (submit_unreadable hread),
    fun r req ha hm hp hread he => (hsubmit r ha hm hp).trans (submit_no_urls hread he),
    fun r ha hm hp => ?_,
    fun g ha hm hp => by rw [handle_of_admits ha, hm, hp, hrt.listProxies]; rfl,
    fun hae r hm hk hkey => handle_refused hae hm hk hkey st,
    fun r hm => handle_unknown_method hrt hm st⟩
  · -- the submission records its batch, which no later request touches
    rw [hsubmit r ha hm hp]
    obtain ⟨hans, hrec⟩ := submit_waited hd hreg hread hne hw hid
    refine ⟨_, s.waited_spec st req.urls.items id, hans, fun hseg post g hga hgm hgp => ?_⟩
    have hreg' := hreg.step hd (submit_grows hd hreg r.body)
    rw [handle_lookup hga (hbatch hgm hgp hseg) (record?_serveAll hd hreg' post hrec)]
  · rw [handle_of_admits ha, hm, hp, hrt.addProxy, serve_addProxy]
    exact addProxy_status st r.body

end Server

/-- A server over a scripted transport whose keys are enforced (the key is `k`) and whose `n`-th
batch id is `n` letters `b`. -/
def sampleServer : Server Http.Script where
  engine := { config := {}, transport := Http.Script.transport }
  authEnabled := true
  apiKey := "k"
  ids := .source fun n => .ok (String.ofList (List.replicate n 'b'))

theorem distinctIds_sampleServer : sampleServer.DistinctIds := by
  intro m n id hm hn
  have h := (Except.ok.inj hm).trans (Except.ok.inj hn).symm
  simpa using congrArg String.length h

/-- A fresh sample server refuses a keyless request for the counters with `403`, and the same
request of the method `PURGE` with `405`. -/
theorem serve_contract_sampleServer :
    sampleServer.handle { world := sampleServer.engine.initial {} {} Instant.zero }
        { target := "/v1/stats" } =
      ({ world := sampleServer.engine.initial {} {} Instant.zero }, .error 403 "unauthorized") ∧
    sampleServer.handle { world := sampleServer.engine.initial {} {} Instant.zero }
        { method := "PURGE", target := "/v1/stats" } =
      ({ world := sampleServer.engine.initial {} {} Instant.zero }, .wrongMethod) :=
  have h := Server.serve_contract distinctIds_sampleServer route_lawful ⟨_, [], rfl⟩
  ⟨h.2.2.2.2.2.2.1 rfl _ (by decide) (by decide +kernel) (by decide +kernel),
    h.2.2.2.2.2.2.2 _ (by decide)⟩

/-- With keys enforced, a submission whose body has text after its JSON value is run and answered
`200`, and a keyless request of the method `PURGE` under `/v1` is answered `405`, not `403`. -/
theorem sampleServer_trailing_text_unknown_method :
    (sampleServer.serveAll { world := sampleServer.engine.initial {} {} Instant.zero }
      [{ method := "POST", target := "/v1/batches", headers := [("X-API-Key", "k")],
         body := "\x7b\"urls\":[\"http://e.com/a\"],\"wait\":true\x7d x" },
       { method := "PURGE", target := "/v1/stats" }]).2.map (·.status) = [200, 405] := by
  decide +kernel

end Api

end Harvest
