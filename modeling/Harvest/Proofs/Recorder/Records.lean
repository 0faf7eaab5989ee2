import Harvest.Recorder.Observe
import Harvest.Proofs.Recorder.BlobPath
/-!
# What the recorder keeps

Over memory stores that keep blobs and records, and with an id generator whose ids are non-empty,
distinct and not yet used (`Recorder.FreshIds`), observing an outcome never fails
(`Recorder.observe_recorded`). A success that is not a not-modified answer has its body written at
its blob path; every success, and every failure when failures are recorded, gets one record
(`Recorder.recordOf`), appended to the record store and, when a topic is set, announced on it.

Over a sequence of observations (`Recorder.observeAll`) this gives the recorder's contract
(`Recorder.observeAll_keeps`): one record per recorded outcome, in order, each describing its
outcome (`Recorder.Describes`); one announcement per record when a topic is set; the blob store
written exactly at the kept bodies' paths; and blob paths that are content addresses.
-/

namespace Harvest

namespace BlobStore

theorem get?_write (s : BlobStore) (path p : String) (b : Blob) :
    (s.write path b).get? p = if p = path then some b else s.get? p := by
  unfold write get?
  split
  · next h =>
    subst h
    rw [List.find?_append, List.find?_eq_none.2 (by simp)]
    simp
  · next h =>
    rw [List.find?_append]
    have hlast : [(path, b)].find? (·.1 == p) = none := by simp [Ne.symm h]
    rw [hlast, Option.or_none, List.find?_filter]
    congr 2
    funext x
    by_cases hx : x.1 = p <;> simp [hx, h]

/-- After writes in order, a path holds the last blob written there, or else what it held. -/
theorem get?_foldl_write {α : Type} (s : BlobStore) (path : α → String) (blob : α → Blob)
    (xs : List α) (p : String) :
    (xs.foldl (fun s x => s.write (path x) (blob x)) s).get? p =
      ((xs.filter (path · = p)).getLast?.map blob).or (s.get? p) := by
  induction xs generalizing s with
  | nil => simp
  | cons x xs ih =>
    rw [List.foldl_cons, ih, get?_write]
    by_cases hx : path x = p
    · -- `x` is written at `p`, unless a later write there supersedes it
      simp only [hx, if_true, List.filter_cons, decide_true, List.getLast?_cons]
      cases (xs.filter (path · = p)).getLast? <;> rfl
    · simp [hx, Ne.symm hx]

/-- A put at a non-empty path writes the blob there and answers the path's URI. -/
theorem put_of_ne {s : BlobStore} {path : String} (ct : String) (data : Bytes) (h : path ≠ "") :
    s.put path ct data = .ok (s.write path ⟨ct, data⟩, "memory://" ++ path) := by
  simp [put, h]

end BlobStore

theorem BlobPath.of_ne_empty {pre h : String} (u : String) (hh : Hashlike h) : of pre h u ≠ "" := by
  intro he
  have hbase : SlashPath.base (of pre h u) = fileName h (Locator.extension u) := base_of u hh
  rw [he] at hbase
  -- the base of the empty path is `.`, which no file name is
  obtain ⟨c, r, hcr⟩ := List.exists_cons_of_ne_nil hh.1
  have hname := congrArg String.toList hbase
  rw [toList_fileName, hcr] at hname
  have hc : c ≠ '.' := (hh.2 c (by simp [hcr])).1
  split at hname
  · simp [SlashPath.base] at hname
    exact hc hname.1.symm
  · simp [SlashPath.base] at hname

namespace Recorder

/-- Whether the recorder keeps a record of an outcome: every success, and failures when asked. -/
def Records (c : RecorderConfig) (out : Outcome) : Bool := out.ok || c.recordFailures

/-- Whether an outcome's body is kept: a success that is not a not-modified answer. -/
def KeepsBody (out : Outcome) : Bool := out.ok && !out.notModified

/-- Where a kept body is written: the content address of the body under the blob prefix. -/
def blobPath (pre : String) (out : Outcome) : String :=
  BlobPath.of pre (Sha256.hexDigest out.body) out.url

/-- The blob a kept body is written as: the body under the response's content type. -/
def blobOf (out : Outcome) : Blob := ⟨contentType out.header, out.body⟩

/-- The record of an outcome under an id: what the outcome says and, for a kept body, its hash and
the URI of its blob. -/
def recordOf (pre id batchId : String) (now : Instant) (out : Outcome) : Record :=
  if KeepsBody out then
    { baseRecord id batchId now out with
      hash := Sha256.hexDigest out.body
      blobUri := "memory://" ++ blobPath pre out }
  else baseRecord id batchId now out

/-- What the record of an outcome delivered in batch `batchId` holds: the outcome's locator,
result, size and failure text, the batch id, the content type of its response, and for a kept
body the hex SHA-256 of the body and the URI of its blob; for any other outcome no hash and no
blob. -/
def Describes (pre batchId : String) (out : Outcome) (rec : Record) : Prop :=
  rec.batchId = batchId ∧ rec.url = out.url ∧ rec.ok = out.ok ∧ rec.bytes = out.size ∧
    rec.errorText = (out.err.map FetchError.message).getD "" ∧
    rec.contentType = contentType out.header ∧
    if KeepsBody out then
      rec.hash = Sha256.hexDigest out.body ∧
        rec.blobUri = "memory://" ++ BlobPath.of pre rec.hash out.url
    else rec.hash = "" ∧ rec.blobUri = ""

theorem describes_recordOf (pre id batchId : String) (now : Instant) (out : Outcome) :
    Describes pre batchId out (recordOf pre id batchId now out) := by
  unfold Describes recordOf
  split <;> simp_all [baseRecord, blobPath]

@[simp] theorem id_recordOf (pre id batchId : String) (now : Instant) (out : Outcome) :
    (recordOf pre id batchId now out).id = id := by
  unfold recordOf
  split <;> rfl

/-- The id generator, from the recorder's next call on, answers non-empty ids that differ from
each other and from the ids of the records already kept. -/
structure FreshIds (r : Recorder) : Prop where
  ok : ∀ n, r.issued < n → ∃ id, r.newId n = .ok id ∧ id ≠ ""
  distinct : ∀ m n id, r.issued < m → r.issued < n → r.newId m = .ok id → r.newId n = .ok id →
    m = n
  unused : ∀ n id, r.issued < n → r.newId n = .ok id → ∀ x ∈ r.records.records, x.id ≠ id

variable {r : Recorder} {batchId : String} {now : Instant} {out : Outcome}

theorem withBlob_eq (hkeep : r.config.keepBlobs = true) (record : Record) :
    r.withBlob record out =
      .ok (if KeepsBody out then
        ({ r with
            blobs := r.blobs.write (BlobPath.of r.config.blobPrefix
              (Sha256.hexDigest out.body) out.url) ⟨record.contentType, out.body⟩ },
          { record with
            hash := Sha256.hexDigest out.body
            blobUri := "memory://" ++ BlobPath.of r.config.blobPrefix
              (Sha256.hexDigest out.body) out.url })
        else (r, record)) := by
  unfold withBlob KeepsBody
  by_cases hk : (out.ok && !out.notModified) = true
  · have hkk : (!out.ok || out.notModified) = false := by
      revert hk; cases out.ok <;> cases out.notModified <;> decide
    rw [if_neg (by simp [hkk]), if_pos hk, if_neg (by simp [hkeep]),
      BlobStore.put_of_ne _ _ (BlobPath.of_ne_empty _ (BlobPath.hashlike_hexDigest _))]
  · have hkk : (!out.ok || out.notModified) = true := by
      revert hk; cases out.ok <;> cases out.notModified <;> decide
    rw [if_pos hkk, if_neg hk]

theorem file_eq (hrec : r.config.keepRecords = true) {record : Record} (hid : record.id ≠ "")
    (hfresh : ∀ x ∈ r.records.records, x.id ≠ record.id) :
    r.file record =
      ({ r with
          records := ⟨r.records.records ++ [record]⟩
          outbox := if r.config.topic.isEmpty then r.outbox
            else (r.outbox.publish r.config.topic (payload record)).1 }, none) := by
  have hstore : r.records.store record = .ok ⟨r.records.records ++ [record]⟩ := by
    have hany : (r.records.records.any (·.id == record.id)) = false := by
      simpa using hfresh
    simp [RecordStore.store, hid, hany]
  unfold file
  simp only [hrec, Bool.not_true, Bool.false_eq_true, if_false, hstore, Except.map]
  split <;> rfl

/-- An outcome the recorder does not record leaves it as it was. -/
theorem observe_ignored (h : Records r.config out = false) :
    r.observe batchId now out = (r, none) := by
  unfold observe
  rw [if_pos (by revert h; unfold Records; cases out.ok <;> cases r.config.recordFailures <;>
    decide)]

/-- Observing an outcome the recorder records: the next id is taken, a kept body is written at its
blob path, and the record is kept and, when a topic is set, announced; nothing fails. -/
theorem observe_recorded (hkeep : r.config.keepBlobs = true) (hrec : r.config.keepRecords = true)
    (h : Records r.config out = true) {id : String} (hid : r.newId (r.issued + 1) = .ok id)
    (hne : id ≠ "") (hfresh : ∀ x ∈ r.records.records, x.id ≠ id) :
    r.observe batchId now out =
      ({ r with
          issued := r.issued + 1
          blobs := if KeepsBody out then r.blobs.write (blobPath r.config.blobPrefix out) (blobOf out)
            else r.blobs
          records := ⟨r.records.records ++ [recordOf r.config.blobPrefix id batchId now out]⟩
          outbox := if r.config.topic.isEmpty then r.outbox
            else (r.outbox.publish r.config.topic
              (payload (recordOf r.config.blobPrefix id batchId now out))).1 }, none) := by
  have hnot : (!out.ok && !r.config.recordFailures) = false := by
    revert h; unfold Records; cases out.ok <;> cases r.config.recordFailures <;> decide
  unfold observe
  rw [if_neg (by simp [hnot])]
  dsimp only
  rw [hid]
  dsimp only
  rw [withBlob_eq (r := { r with issued := r.issued + 1 }) hkeep]
  by_cases hk : KeepsBody out
  -- the record is filed in the recorder the blob was written to
  · simp only [hk, if_true, recordOf]
    refine (file_eq ?_ ?_ ?_).trans ?_
    exacts [hrec, hne, hfresh, rfl]
  · simp only [hk, Bool.false_eq_true, if_false, recordOf]
    refine (file_eq ?_ ?_ ?_).trans ?_
    exacts [hrec, hne, hfresh, rfl]

/-- Observing keeps the id generator fresh. -/
theorem FreshIds.observe (hkeep : r.config.keepBlobs = true) (hrec : r.config.keepRecords = true)
    (hf : r.FreshIds) : (r.observe batchId now out).1.FreshIds := by
  cases h : Records r.config out
  · rwa [observe_ignored h]
  · obtain ⟨id, hid, hne⟩ := hf.ok (r.issued + 1) (by omega)
    rw [observe_recorded hkeep hrec h hid hne (hf.unused _ _ (by omega) hid)]
    refine ⟨fun n hn => hf.ok n (by simp only at hn; omega),
      fun m n a hm hn => hf.distinct m n a (by simp only at hm; omega) (by simp only at hn; omega),
      ?_⟩
    intro n a hn ha x hx
    simp only at hn ha hx
    rcases List.mem_append.1 hx with hx | hx
    · exact hf.unused n a (by omega) ha x hx
    · -- the record just kept has the id of an earlier call
      rw [List.mem_singleton] at hx
      subst hx
      rw [id_recordOf]
      rintro rfl
      have := hf.distinct _ _ _ (by omega) (by omega) hid ha
      omega

/-- Observes outcomes one after another, each delivered in a batch at a time; answers the
recorder and what each observation answered. -/
def observeAll (r : Recorder) : List (String × Instant × Outcome) → Recorder × List (Option String)
  | [] => (r, [])
  | (b, t, o) :: rest =>
    let (r', e) := r.observe b t o
    let (r'', es) := r'.observeAll rest
    (r'', e :: es)

@[simp] theorem observeAll_nil : r.observeAll [] = (r, []) := rfl

@[simp] theorem observeAll_cons (b : String) (t : Instant) (o : Outcome) (rest) :
    r.observeAll ((b, t, o) :: rest) =
      (((r.observe b t o).1.observeAll rest).1,
        (r.observe b t o).2 :: ((r.observe b t o).1.observeAll rest).2) := rfl

theorem config_withBlob {r' : Recorder} {record rec' : Record}
    (h : r.withBlob record out = .ok (r', rec')) : r'.config = r.config := by
  unfold withBlob at h
  split at h
  · cases h; rfl
  split at h
  · cases h; rfl
  dsimp only at h
  split at h
  · cases h; rfl
  · cases h

theorem config_file (record : Record) : (r.file record).1.config = r.config := by
  unfold file
  cases hk : (if !r.config.keepRecords then Except.ok r
      else (r.records.store record).map (fun s => { r with records := s }) : Except String Recorder)
    with
  | error e => rfl
  | ok r' =>
    -- keeping the record changes only the record store
    have hcfg : r'.config = r.config := by
      split at hk
      · cases hk; rfl
      · cases hs : r.records.store record <;> simp [hs, Except.map] at hk
        subst hk; rfl
    dsimp only
    split <;> exact hcfg

@[simp] theorem config_observe : (r.observe batchId now out).1.config = r.config := by
  unfold observe
  split
  · rfl
  dsimp only
  cases r.newId (r.issued + 1) with
  | error e => rfl
  | ok id =>
    dsimp only
    cases hw : ({ r with issued := r.issued + 1 }).withBlob (baseRecord id batchId now out) out with
    | error e => rfl
    | ok p =>
      obtain ⟨r', rec'⟩ := p
      dsimp only
      rw [config_file, config_withBlob hw]

/-- What a run of observations leaves, when the generator stays fresh: no observation fails, the
records kept are one per recorded outcome in order, the announcements one per record when a topic
is set, and the blob store is the kept bodies written at their paths in order. -/
theorem observeAll_run (obs : List (String × Instant × Outcome))
    (hkeep : r.config.keepBlobs = true) (hrec : r.config.keepRecords = true) (hf : r.FreshIds) :
    (r.observeAll obs).2 = obs.map (fun _ => none) ∧
    (∃ recs, (r.observeAll obs).1.records.records = r.records.records ++ recs ∧
      List.Forall₂ (fun (x : String × Instant × Outcome) rec =>
          Describes r.config.blobPrefix x.1 x.2.2 rec)
        (obs.filter fun x => Records r.config x.2.2) recs ∧
      ∃ msgs, (r.observeAll obs).1.outbox.messages = r.outbox.messages ++ msgs ∧
        msgs.map (fun m => (m.topic, m.payload)) =
          if r.config.topic.isEmpty then [] else recs.map fun rec => (r.config.topic, payload rec)) ∧
    (r.observeAll obs).1.blobs = (obs.filter fun x => KeepsBody x.2.2).foldl (fun s x =>
      s.write (blobPath r.config.blobPrefix x.2.2) (blobOf x.2.2)) r.blobs := by
  induction obs generalizing r with
  | nil => exact ⟨rfl, ⟨[], by simp, .nil, [], by simp, by split <;> rfl⟩, rfl⟩
  | cons x rest ih =>
    obtain ⟨b, t, o⟩ := x
    have hcfg : (r.observe b t o).1.config = r.config := config_observe
    obtain ⟨ih₁, ⟨recs, hrecs, hdesc, msgs, hmsgs, hpay⟩, hblobs⟩ :=
      ih (r := (r.observe b t o).1) (by rwa [hcfg]) (by rwa [hcfg]) (hf.observe hkeep hrec)
    rw [hcfg] at hdesc hpay hblobs
    cases h : Records r.config o
    · -- an outcome that is not recorded changes nothing
      have hobs : r.observe b t o = (r, none) := observe_ignored h
      have hbody : KeepsBody o = false := by
        revert h; unfold Records KeepsBody; cases o.ok <;> simp
      simp only [observeAll, hobs] at ih₁ hrecs hmsgs hblobs ⊢
      refine ⟨by simp [ih₁], ⟨recs, hrecs, by simpa [h] using hdesc, msgs, hmsgs, hpay⟩, ?_⟩
      simpa [hbody] using hblobs
    · -- a recorded outcome adds its record, its announcement and its blob
      obtain ⟨id, hid, hne⟩ := hf.ok (r.issued + 1) (by omega)
      have hobs : r.observe b t o = _ := observe_recorded hkeep hrec h hid hne
        (hf.unused _ _ (by omega) hid)
      simp only [observeAll, hobs] at ih₁ hrecs hmsgs hblobs ⊢
      refine ⟨by rw [ih₁]; rfl, ⟨recordOf r.config.blobPrefix id b t o :: recs, by rw [hrecs]; simp,
        ?_, ?_⟩, ?_⟩
      · simp only [List.filter_cons, h, if_true]
        exact List.Forall₂.cons (describes_recordOf _ _ _ _ _) hdesc
      · by_cases ht : r.config.topic.isEmpty
        · exact ⟨msgs, by simpa [ht] using hmsgs, by simpa [ht] using hpay⟩
        · refine ⟨⟨_, r.config.topic, payload (recordOf r.config.blobPrefix id b t o)⟩ :: msgs,
            by simpa [ht, Outbox.publish] using hmsgs, by simp [ht] at hpay ⊢; exact hpay⟩
      · by_cases hk : KeepsBody o <;> simpa [hk, recordOf] using hblobs

/-- The blob store after a run of observations: each path holds the blob of the last kept body
written there, or else what it held before. -/
theorem get?_observeAll (obs : List (String × Instant × Outcome))
    (hkeep : r.config.keepBlobs = true) (hrec : r.config.keepRecords = true) (hf : r.FreshIds)
    (p : String) :
    (r.observeAll obs).1.blobs.get? p =
      (((obs.filter fun x => KeepsBody x.2.2).filter fun x =>
          blobPath r.config.blobPrefix x.2.2 = p).getLast?.map fun x => blobOf x.2.2).or
        (r.blobs.get? p) := by
  rw [(observeAll_run obs hkeep hrec hf).2.2, BlobStore.get?_foldl_write]

/-- Right after a kept body is observed, its blob path holds its blob. -/
theorem get?_observeAll_take (obs : List (String × Instant × Outcome))
    (hkeep : r.config.keepBlobs = true) (hrec : r.config.keepRecords = true) (hf : r.FreshIds)
    (i : Nat) (hi : i < obs.length) (hk : KeepsBody obs[i].2.2 = true) :
    (r.observeAll (obs.take (i + 1))).1.blobs.get? (blobPath r.config.blobPrefix obs[i].2.2) =
      some (blobOf obs[i].2.2) := by
  rw [get?_observeAll _ hkeep hrec hf, List.take_succ_eq_append_getElem hi, List.filter_append,
    List.filter_append]
  simp only [List.filter_cons, List.filter_nil, hk, if_true, decide_true, List.getLast?_append,
    List.getLast?_singleton, Option.some_or, Option.map_some]

/-- The recorder's contract, over memory stores that keep blobs and records and an id generator
that stays fresh: no observation fails; each recorded outcome (every success, and failures when
asked) gets one record, in order, describing it; one announcement per record, in order, when a
topic is set; each kept body is written at its blob path under its content type, the path holding
the last body written there; and the blob path of a body is its hash's first two digits and its
hash with its locator's extension under the prefix, so two kept bodies share a path exactly when
their hashes and extensions agree. -/
theorem observeAll_keeps (obs : List (String × Instant × Outcome))
    (hkeep : r.config.keepBlobs = true) (hrec : r.config.keepRecords = true) (hf : r.FreshIds) :
    (r.observeAll obs).2 = obs.map (fun _ => none) ∧
    (∃ recs, (r.observeAll obs).1.records.records = r.records.records ++ recs ∧
      List.Forall₂ (fun (x : String × Instant × Outcome) rec =>
          Describes r.config.blobPrefix x.1 x.2.2 rec)
        (obs.filter fun x => Records r.config x.2.2) recs ∧
      ∃ msgs, (r.observeAll obs).1.outbox.messages = r.outbox.messages ++ msgs ∧
        msgs.map (fun m => (m.topic, m.payload)) =
          if r.config.topic.isEmpty then [] else recs.map fun rec => (r.config.topic, payload rec)) ∧
    (∀ i (hi : i < obs.length), KeepsBody obs[i].2.2 = true →
      (r.observeAll (obs.take (i + 1))).1.blobs.get? (blobPath r.config.blobPrefix obs[i].2.2) =
        some (blobOf obs[i].2.2)) ∧
    (∀ p, (r.observeAll obs).1.blobs.get? p =
      (((obs.filter fun x => KeepsBody x.2.2).filter fun x =>
          blobPath r.config.blobPrefix x.2.2 = p).getLast?.map fun x => blobOf x.2.2).or
        (r.blobs.get? p)) ∧
    (∀ m u, BlobPath.of r.config.blobPrefix (Sha256.hexDigest m) u =
      SlashPath.join [BlobPath.trimSlashes r.config.blobPrefix,
        String.ofList ((Sha256.hexDigest m).toList.take 2),
        BlobPath.fileName (Sha256.hexDigest m) (Locator.extension u)]) ∧
    (∀ m m' u u', BlobPath.of r.config.blobPrefix (Sha256.hexDigest m) u =
        BlobPath.of r.config.blobPrefix (Sha256.hexDigest m') u' ↔
      Sha256.hexDigest m = Sha256.hexDigest m' ∧ Locator.extension u = Locator.extension u') := by
  obtain ⟨hnone, hrecs, -⟩ := observeAll_run obs hkeep hrec hf
  refine ⟨hnone, hrecs, get?_observeAll_take obs hkeep hrec hf, get?_observeAll obs hkeep hrec hf,
    fun m u => ?_, BlobPath.of_hexDigest_eq_iff _⟩
  rw [BlobPath.of, BlobPath.shard_hexDigest]

/-- A recorder over empty memory stores whose `n`-th id is `n` letters `r`. -/
def sampleRecorder : Recorder where
  config := {}
  newId n := .ok (String.ofList (List.replicate n 'r'))

theorem freshIds_sampleRecorder : sampleRecorder.FreshIds where
  ok n hn := ⟨_, rfl, fun h => by
    have := congrArg String.length h
    simp at this
    simp [sampleRecorder] at hn
    omega⟩
  distinct m n id _ _ hm hn := by
    have h := (Except.ok.inj hm).trans (Except.ok.inj hn).symm
    simpa using congrArg String.length h
  unused n id _ _ x hx := by simp [sampleRecorder] at hx

theorem observeAll_keeps_sampleRecorder :
    (sampleRecorder.observeAll [("batch-1", ⟨0, 0⟩,
      { url := "http://e.com/a.txt", ok := true, body := [104, 105] })]).2 = [none] :=
  (observeAll_keeps _ rfl rfl freshIds_sampleRecorder).1

end Recorder

end Harvest
