import Harvest.Fetch.Download
/-!
# Harvest.Proofs.Fetch.Attempt

What one download attempt guarantees of the outcome it answers.

A bounded read decides by length alone (`readBounded_go_verdict`): whatever chunks the stream
comes in and however it ends, it passes the limit exactly when the whole stream is longer than the
limit, the count it reports then lying past the limit and within the whole length; otherwise it
reads the stream whole and ends as the stream ends. So a read that completes had a stream that
ended cleanly, read it whole, and is within its limit (`readBody_complete`).

A decoder's output is read the same way, so the limit comes before the decoder's fault
(`limitDecoded_eq`): content longer than the limit is refused even when the stream broke after
it. Decoding under a limit either refuses or gives the whole decoded content, which is then within
the limit (`decodeBody_ok`): the check after decoding is exact, whatever the raw ceiling let
through. So an attempt that succeeds answers a *downloaded* outcome (`Outcome.Downloaded`): its
size is the length of its body, its body is the whole decoding of the raw body whose size it
reports, it is within the filter's ceiling, a response over HTTP had status 2xx or 304, and a 304
comes without a body (`Downloader.fetch_downloaded`). For a remote locator the raw body is the
whole body of the response the transport gave (`Downloader.fetchRemote_ok`); for a local one it
is the file's content (`Downloader.fetchLocal_ok`).
-/

namespace Harvest

/-! ## Bounded reads decide by length -/

/-- `n` bytes are over the ceiling `limit`, a negative ceiling being none. -/
def OverCeiling (limit : Int) (n : Nat) : Prop := 0 ≤ limit ∧ limit < n

instance (limit : Int) (n : Nat) : Decidable (OverCeiling limit n) :=
  inferInstanceAs (Decidable (_ ∧ _))

/-- The check the readers make is `OverCeiling`. -/
@[simp] theorem ceiling_check_iff {limit : Int} {n : Nat} :
    (limit ≥ 0 && (n : Int) > limit) = true ↔ OverCeiling limit n := by
  simp [OverCeiling]

/-- More bytes are over a ceiling that fewer are over. -/
theorem OverCeiling.mono {limit : Int} {m n : Nat} (h : OverCeiling limit m) (hmn : m ≤ n) :
    OverCeiling limit n :=
  ⟨h.1, by have := h.2; omega⟩

/-- Within a ceiling means at most the ceiling, when there is one. -/
theorem not_overCeiling_iff {limit : Int} {n : Nat} :
    ¬ OverCeiling limit n ↔ (0 ≤ limit → (n : Int) ≤ limit) := by
  simp only [OverCeiling, not_and, Int.not_lt]

/-- No ceiling is passed by nothing. -/
theorem not_overCeiling_zero (limit : Int) : ¬ OverCeiling limit 0 :=
  fun h => by have := h.1; have := h.2; omega

/-- How a read that took every chunk answers: the whole stream and its length after a clean end,
the length and the failure otherwise. -/
def Bounded.atEnd {ε : Type} (failure : Option ε) (data : Bytes) (total : Nat) : Bounded ε :=
  match failure with
  | none => .complete data total
  | some e => .failed total e

/-- A read that took every chunk is not over its limit. -/
@[simp] theorem Bounded.atEnd_ne_exceeded {ε : Type} (failure : Option ε) (data : Bytes)
    (total t : Nat) : Bounded.atEnd failure data total ≠ .exceeded t := by
  cases failure <;> simp [Bounded.atEnd]

/-- A read that took every chunk completes exactly when the stream ended cleanly. -/
theorem Bounded.atEnd_eq_complete {ε : Type} {failure : Option ε} {data data' : Bytes}
    {total n : Nat} (h : Bounded.atEnd failure data total = .complete data' n) :
    failure = none ∧ data' = data ∧ n = total := by
  cases failure with
  | none =>
    simp only [Bounded.atEnd, Bounded.complete.injEq] at h
    exact ⟨rfl, h.1.symm, h.2.symm⟩
  | some e => simp [Bounded.atEnd] at h

/-- From a total not over the limit, a read of the chunks `cs` passes the limit exactly when the
whole total does, at a count past the limit and within the whole; otherwise it takes every chunk
and ends as the stream ends. -/
theorem readBounded_go_verdict {ε : Type} (failure : Option ε) (limit : Int) :
    ∀ (cs : List Bytes) (total : Nat) (acc : Bytes), ¬ OverCeiling limit total →
      (OverCeiling limit (total + cs.flatten.length) →
        ∃ n : Nat, limit < n ∧ n ≤ total + cs.flatten.length ∧
          readBounded.go failure limit cs total acc = .exceeded n) ∧
      (¬ OverCeiling limit (total + cs.flatten.length) →
        readBounded.go failure limit cs total acc =
          Bounded.atEnd failure (acc ++ cs.flatten) (total + cs.flatten.length)) := by
  intro cs
  induction cs with
  | nil =>
    intro total acc hin
    simp only [List.flatten_nil, List.length_nil, Nat.add_zero, List.append_nil]
    refine ⟨fun hov => absurd hov hin, fun _ => ?_⟩
    cases failure <;> rfl
  | cons c cs ih =>
    intro total acc hin
    have hlen : total + (c :: cs).flatten.length = total + c.length + cs.flatten.length := by
      simp only [List.flatten_cons, List.length_append]
      omega
    rw [hlen]
    simp only [readBounded.go]
    by_cases hc : OverCeiling limit (total + c.length)
    · -- this chunk takes the total past the limit: the read stops here
      have hcheck : (limit ≥ 0 && ((total + c.length : Nat) : Int) > limit) = true :=
        ceiling_check_iff.2 hc
      rw [if_pos hcheck]
      exact ⟨fun _ => ⟨_, hc.2, by omega, rfl⟩,
        fun hno => absurd (hc.mono (by omega)) hno⟩
    · -- the read goes on with the chunk appended
      have hcheck : ¬ (limit ≥ 0 && ((total + c.length : Nat) : Int) > limit) = true :=
        fun h => hc (ceiling_check_iff.1 h)
      rw [if_neg hcheck]
      obtain ⟨hover, hwithin⟩ := ih (total + c.length) (acc ++ c) hc
      refine ⟨hover, fun hno => ?_⟩
      rw [hwithin hno, List.flatten_cons, List.append_assoc]

/-- Splitting into chunks of a positive size loses nothing while the fuel outlasts the bytes. -/
theorem flatten_splitChunks_go {n : Nat} (hn : 0 < n) (fuel : Nat) (bs : Bytes)
    (hf : bs.length < fuel) : (splitChunks.go n fuel bs).flatten = bs := by
  induction fuel generalizing bs with
  | zero => omega
  | succ fuel ih =>
    simp only [splitChunks.go]
    split
    · next he => simpa using he
    · next he =>
      have hne : bs ≠ [] := by simpa using he
      have hpos : 0 < bs.length := List.length_pos_iff.2 hne
      have hmax : max n 1 = n := by omega
      have hlen : (bs.drop n).length < fuel := by simp; omega
      rw [List.flatten_cons, hmax, ih _ hlen, List.take_append_drop]

theorem flatten_splitChunks {n : Nat} (hn : 0 < n) (bs : Bytes) :
    (splitChunks n bs).flatten = bs :=
  flatten_splitChunks_go hn _ bs (Nat.lt_succ_self _)

/-- A read of a stream passes its ceiling exactly when the whole stream is longer than the
ceiling, at a count past the ceiling and within the stream; otherwise it reads the stream whole and
ends as the stream ends. -/
theorem readBounded_verdict {ε : Type} (chunks : List Bytes) (failure : Option ε) (limit : Int) :
    (OverCeiling limit chunks.flatten.length →
        ∃ n : Nat, limit < n ∧ n ≤ chunks.flatten.length ∧
          readBounded chunks failure limit = .exceeded n) ∧
      (¬ OverCeiling limit chunks.flatten.length →
        readBounded chunks failure limit =
          Bounded.atEnd failure chunks.flatten chunks.flatten.length) := by
  have hv := readBounded_go_verdict failure limit chunks 0 [] (not_overCeiling_zero limit)
  rw [Nat.zero_add, List.nil_append] at hv
  exact hv

section ReadBody

variable {ε : Type} {body : Bytes} {fault : Option ε} {limit : Int}

/-- A body read under a ceiling: the chunked read's verdict over the chunks the body is cut
into. -/
theorem readBody_verdict (body : Bytes) (fault : Option ε) (limit : Int) :
    (OverCeiling limit body.length →
        ∃ n : Nat, limit < n ∧ n ≤ body.length ∧ readBody body fault limit = .exceeded n) ∧
      (¬ OverCeiling limit body.length →
        readBody body fault limit = Bounded.atEnd fault body body.length) := by
  have hv := readBounded_verdict (splitChunks chunkSize body) fault limit
  rw [flatten_splitChunks (by decide : 0 < chunkSize) body] at hv
  exact hv

/-- A body longer than a ceiling is refused after a count past the ceiling and within the body,
however it ends. -/
theorem readBody_over (h : OverCeiling limit body.length) :
    ∃ n : Nat, limit < n ∧ n ≤ body.length ∧ readBody body fault limit = .exceeded n :=
  (readBody_verdict body fault limit).1 h

/-- A body within a ceiling is read whole, and ends as it ends. -/
theorem readBody_within (h : ¬ OverCeiling limit body.length) :
    readBody body fault limit = Bounded.atEnd fault body body.length :=
  (readBody_verdict body fault limit).2 h

/-- A read that passes its ceiling does so at a count over the ceiling and within the body. -/
theorem readBody_exceeded {n : Nat} (h : readBody body fault limit = .exceeded n) :
    OverCeiling limit n ∧ n ≤ body.length := by
  by_cases hover : OverCeiling limit body.length
  · obtain ⟨m, hm, hmb, hread⟩ := (readBody_verdict body fault limit).1 hover
    rw [hread] at h
    cases h
    exact ⟨⟨hover.1, hm⟩, hmb⟩
  · rw [readBody_within hover] at h
    exact absurd h (Bounded.atEnd_ne_exceeded _ _ _ _)

/-- A read that completes had a body that ended cleanly, read it whole, and is within the
ceiling when there is one. -/
theorem readBody_complete {data : Bytes} {n : Nat}
    (h : readBody body fault limit = .complete data n) :
    fault = none ∧ data = body ∧ n = body.length ∧ (0 ≤ limit → (n : Int) ≤ limit) := by
  by_cases hover : OverCeiling limit body.length
  · obtain ⟨m, -, -, hread⟩ := (readBody_verdict body fault limit).1 hover
    rw [hread] at h
    cases h
  · rw [readBody_within hover] at h
    obtain ⟨hf, rfl, rfl⟩ := Bounded.atEnd_eq_complete h
    exact ⟨hf, rfl, rfl, not_overCeiling_iff.1 hover⟩

end ReadBody

/-! ## Decoding under a limit -/

/-- However a decoder's output is cut into chunks, reading it answers by its whole length before
its fault: output over the limit is refused as such, and output within it fails with the fault or
passes whole. -/
theorem Bounded.decoded_readBounded (ce : String) (chunks : List Bytes)
    (fault : Option StreamError) (limit : Int) :
    (readBounded chunks fault limit).decoded ce =
      if OverCeiling limit chunks.flatten.length then .error .exceeded
      else match fault with
        | some e => .error (.stream ce e)
        | none => .ok chunks.flatten := by
  by_cases hover : OverCeiling limit chunks.flatten.length
  · obtain ⟨n, -, -, hread⟩ := (readBounded_verdict chunks fault limit).1 hover
    rw [hread, if_pos hover]
    rfl
  · rw [(readBounded_verdict chunks fault limit).2 hover, if_neg hover]
    cases fault <;> rfl

/-- The limit comes before the decoder's fault: the decoded bytes are counted chunk by chunk
before the fault is looked at. -/
theorem limitDecoded_eq (ce : String) (limit : Int) (out : Bytes) (fault : Option StreamError) :
    limitDecoded ce limit (out, fault) =
      if OverCeiling limit out.length then .error .exceeded
      else match fault with
        | some e => .error (.stream ce e)
        | none => .ok out := by
  simp only [limitDecoded, readBody]
  rw [Bounded.decoded_readBounded, flatten_splitChunks (by decide : 0 < chunkSize) out]

/-- A decoder's output passes the limit only whole and unbroken, and then within the limit. -/
theorem limitDecoded_ok {ce : String} {limit : Int} {r : Bytes × Option StreamError}
    {body : Bytes} (h : limitDecoded ce limit r = .ok body) :
    r = (body, none) ∧ (0 ≤ limit → (body.length : Int) ≤ limit) := by
  obtain ⟨out, fault⟩ := r
  rw [limitDecoded_eq] at h
  by_cases hover : OverCeiling limit out.length
  · rw [if_pos hover] at h
    cases h
  · rw [if_neg hover] at h
    cases fault with
    | some e => cases h
    | none =>
      cases h
      exact ⟨rfl, not_overCeiling_iff.1 hover⟩

/-- With no limit, a whole and unbroken output passes. -/
theorem limitDecoded_unbounded (ce : String) (body : Bytes) :
    limitDecoded ce Filter.unbounded (body, none) = .ok body := by
  have hno : ¬ OverCeiling Filter.unbounded body.length := fun h => by
    have := h.1
    simp [Filter.unbounded] at this
  rw [limitDecoded_eq, if_neg hno]

/-- Decoding that succeeds under a limit gives what decoding without a limit gives, and is
within the limit when there is one. -/
theorem decodeBody_ok {ce : String} {raw body : Bytes} {limit : Int}
    (h : decodeBody ce raw limit = .ok body) :
    decodeBody ce raw Filter.unbounded = .ok body ∧ (0 ≤ limit → (body.length : Int) ≤ limit) := by
  unfold decodeBody at h ⊢
  dsimp only at h ⊢
  split at h
  · next hg =>
    rw [if_pos hg]
    split at h
    · cases h
    · next r hr =>
      obtain ⟨rfl, hb⟩ := limitDecoded_ok h
      exact ⟨limitDecoded_unbounded ce body, hb⟩
  · next hg =>
    rw [if_neg hg]
    split at h
    · next hd =>
      rw [if_pos hd]
      obtain ⟨hr, hb⟩ := limitDecoded_ok h
      rw [hr]
      exact ⟨limitDecoded_unbounded ce body, hb⟩
    · next hd =>
      rw [if_neg hd]
      split at h
      · cases h
      · next hle =>
        cases h
        refine ⟨by simp [Filter.unbounded], fun h0 => ?_⟩
        simp only [ge_iff_le, gt_iff_lt, Bool.and_eq_true, decide_eq_true_eq, not_and,
          Int.not_lt] at hle
        exact hle h0

/-- A body with no encoding decodes to itself. -/
theorem decodeBody_identity (raw : Bytes) : decodeBody "" raw Filter.unbounded = .ok raw := rfl

/-! ## A successful attempt -/

/-- What a successful download attempt guarantees of its outcome, under the filter `f`. -/
structure Outcome.Downloaded (f : Filter) (out : Outcome) : Prop where
  /-- It is marked ok and carries no failure. -/
  ok : out.ok = true
  noErr : out.err = none
  /-- Its size is the length of its body. -/
  size : out.size = out.body.length
  /-- Unless the server answered "not modified", its body is the whole decoding, with no limit,
  of a raw body of the size it reports. -/
  decoded : out.notModified = false →
    ∃ raw, decodeBody out.contentEncoding raw Filter.unbounded = .ok out.body ∧
      out.rawSize = raw.length
  /-- Its size is within the filter's ceiling, when there is one. -/
  ceiling : f.bounded = true → out.size ≤ f.maxBytes
  /-- A response over HTTP had status 2xx or 304. -/
  status : Locator.isLocal out.url = false →
    (200 ≤ out.status ∧ out.status < 300) ∨ out.status = 304
  /-- "Not modified" comes without a body. -/
  notModified : out.notModified = true → out.body = []

namespace Downloader

variable {σ : Type} {d : Downloader} {t : Http.Transport σ} {disk : Disk} {s : σ} {url : String}
  {via : Option Endpoint} {cond : Conditional} {out : Outcome}

/-- The decoded ceiling is the filter's, when the filter has one. -/
theorem limit_of_bounded (hb : d.filter.bounded = true) :
    d.limit = d.filter.maxBytes ∧ 0 ≤ d.limit := by
  have hpos : 0 < d.filter.maxBytes := by simpa [Filter.bounded] using hb
  have hl : d.limit = d.filter.maxBytes := by simp [limit, Filter.readLimit, hb]
  exact ⟨hl, by omega⟩

/-- A local file read whole: its content is the body and both sizes, within the ceiling. -/
theorem fetchLocal_ok (h : d.fetchLocal disk url = .ok out) :
    ∃ data, disk.lookup (Locator.localPath url) = .ok (.file data) ∧
      out = { finalUrl := Locator.localPath url, body := data, size := data.length,
              rawSize := data.length } ∧
      (0 ≤ d.limit → (data.length : Int) ≤ d.limit) := by
  unfold fetchLocal at h
  dsimp only at h
  split at h
  · cases h
  · next entry hl =>
    -- only a read that completes answers ok, and it completes only on a file read whole
    cases hread : readBody (entry.contents (Locator.localPath url)).1
        (entry.contents (Locator.localPath url)).2 d.limit with
    | exceeded n => rw [hread] at h; cases h
    | failed n e => rw [hread] at h; cases h
    | complete body n =>
      rw [hread] at h
      cases h
      obtain ⟨hclean, rfl, rfl, hb⟩ := readBody_complete hread
      rw [DiskEntry.eq_file_of_contents hclean] at hl
      exact ⟨_, hl, rfl, hb⟩

/-- A remote locator fetched: the transport answered a response, through `via`; a 304 gives an
outcome marked not modified, without a body, and a 2xx gives the body decoded under the ceiling
from the whole body of the response. -/
theorem fetchRemote_ok (h : (d.fetchRemote t s url via cond).2 = .ok out) :
    ∃ req s' final resp, Http.get t s req = (s', .ok (final, resp)) ∧ req.proxy = via ∧
      out.err = none ∧ out.status = resp.status ∧
      out.contentEncoding = resp.header.get "Content-Encoding" ∧
      ((resp.status = 304 ∧ out.notModified = true ∧ out.body = [] ∧ out.size = 0) ∨
        (200 ≤ resp.status ∧ resp.status < 300 ∧ out.notModified = false ∧
          out.size = out.body.length ∧ out.rawSize = resp.body.length ∧
          decodeBody out.contentEncoding resp.body d.limit = .ok out.body)) := by
  unfold fetchRemote at h
  split at h
  · cases h
  · next ref hp =>
    simp only at h
    split at h
    · cases h
    · next s' final resp hg =>
      refine ⟨_, s', final, resp, hg, rfl, ?_⟩
      split at h
      · next h304 =>
        cases h
        have : resp.status = 304 := by simpa using h304
        exact ⟨rfl, rfl, rfl, .inl ⟨this, rfl, rfl, rfl⟩⟩
      · next h304 =>
        split at h
        · cases h
        · next hok =>
          split at h
          · cases h
          · cases h
          · next raw rawSize hr =>
            obtain ⟨-, rfl, rfl, -⟩ := readBody_complete hr
            split at h
            · cases h
            · cases h
            · next body hd =>
              cases h
              simp only [Bool.or_eq_true, decide_eq_true_eq, not_or, Int.not_lt] at hok
              exact ⟨rfl, rfl, rfl, .inr ⟨hok.1, by omega, rfl, rfl, rfl, hd⟩⟩

/-- A local success is downloaded. -/
theorem downloaded_local (h : d.fetchLocal disk url = .ok out) (hl : Locator.isLocal url = true) :
    Outcome.Downloaded d.filter { out with url := url, ok := true } := by
  obtain ⟨data, -, rfl, hb⟩ := fetchLocal_ok h
  refine ⟨rfl, rfl, rfl, fun _ => ⟨data, decodeBody_identity data, rfl⟩, fun hc => ?_,
    fun hr => by simp [hl] at hr, fun hn => by cases hn⟩
  obtain ⟨hlim, h0⟩ := limit_of_bounded hc
  rw [← hlim]
  exact hb h0

/-- A remote success is downloaded. -/
theorem downloaded_remote (h : (d.fetchRemote t s url via cond).2 = .ok out) :
    Outcome.Downloaded d.filter { out with url := url, ok := true } := by
  obtain ⟨-, -, -, resp, -, -, herr, hst, -, h304 | h2xx⟩ := fetchRemote_ok h
  · obtain ⟨hs, hn, hb, hz⟩ := h304
    refine ⟨rfl, herr, by simp [hz, hb], fun hm => by simp [hn] at hm, fun hc => ?_,
      fun _ => .inr (by simp [hst, hs]), fun _ => hb⟩
    -- no body: size zero, within any ceiling
    have hpos : 0 < d.filter.maxBytes := by simpa [Filter.bounded] using hc
    simp only [hz]
    omega
  · obtain ⟨hlo, hhi, hn, hsz, hraw, hd⟩ := h2xx
    obtain ⟨hdu, hb⟩ := decodeBody_ok hd
    refine ⟨rfl, herr, hsz, fun _ => ⟨resp.body, hdu, hraw⟩, fun hc => ?_,
      fun _ => .inl (by simp [hst, hlo, hhi]), fun hm => by simp [hn] at hm⟩
    obtain ⟨hlim, h0⟩ := limit_of_bounded hc
    simp only [hsz]
    rw [← hlim]
    exact hb h0

/-- Every successful download attempt answers a downloaded outcome. -/
theorem fetch_downloaded (h : (d.fetch t disk s url via cond).2 = .ok out) :
    out.Downloaded d.filter := by
  unfold fetch at h
  split at h
  · cases h
  · by_cases hl : Locator.isLocal url = true
    · simp only [hl, if_true] at h
      cases hr : d.fetchLocal disk url with
      | error e => simp [hr, Except.map] at h
      | ok o =>
        simp only [hr, Except.map, Except.ok.injEq] at h
        rw [← h]
        exact downloaded_local hr hl
    · simp only [hl, if_false, Bool.false_eq_true] at h
      cases hr : (d.fetchRemote t s url via cond).2 with
      | error e => simp [hr, Except.map] at h
      | ok o =>
        simp only [hr, Except.map, Except.ok.injEq] at h
        rw [← h]
        exact downloaded_remote hr

end Downloader

end Harvest
