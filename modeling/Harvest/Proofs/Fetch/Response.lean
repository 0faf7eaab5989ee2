import Harvest.Proofs.Fetch.Attempt
import Mathlib.Control.Monad.Basic
/-!
# Harvest.Proofs.Fetch.Response

How one attempt at a locator over HTTP answers, rule by rule, whatever the transport.

Decoding is the decoder's output read under the limit (`decodeBody_eq`), the decoder an encoding
names being `decoderOutput`. An attempt at a locator over HTTP that the filter permits answers as
`Downloader.RemoteAnswer` says (`Downloader.fetch_remote_answer`): the request cannot be built, or
the transport fails, both with status 0; or the response is answered by the first of the rules of
`Downloader.ResponseAnswer` that applies. The raw ceiling is checked before the body's own
failure, and the decoded ceiling before the decoder's, both by the bounded read
(`readBody_verdict`, `limitDecoded_eq`). These rules exclude each other, so the answer is
determined but for the count of raw bytes read when the raw ceiling was passed
(`Downloader.ResponseAnswer.unique`).

A stream that breaks off after decoding past the ceiling is refused as too large, not as a failure
of the transport (`Downloader.fetch_broken_overlong_too_large`).
-/

namespace Harvest

/-! ## The decoder an encoding names -/

/-- What the decoder of an encoding gives for a body, before any ceiling: for gzip nothing when
the header of the first member does not read, and otherwise the bytes decoded and the fault that
stopped the decoder, if any. A body in an encoding that is not decoded passes as it is. -/
def decoderOutput (ce : String) (raw : Bytes) : Except StreamError (Bytes × Option StreamError) :=
  let enc := normalizeEncoding ce
  if enc == "gzip" || enc == "x-gzip" then Gzip.decode raw
  else if enc == "deflate" then .ok (inflateBody raw)
  else .ok (raw, none)

/-- Decoding under a ceiling is the decoder's output read under the ceiling. -/
theorem decodeBody_eq (ce : String) (raw : Bytes) (limit : Int) :
    decodeBody ce raw limit = match decoderOutput ce raw with
      | .error e => .error (.opening e)
      | .ok r => limitDecoded ce limit r := by
  unfold decodeBody decoderOutput
  dsimp only
  split
  · rfl
  · split
    · rfl
    · -- a body that is not decoded is checked whole, as reading it under the ceiling does
      show _ = limitDecoded ce limit (raw, none)
      rw [limitDecoded_eq]
      by_cases hover : OverCeiling limit raw.length
      · rw [if_pos (ceiling_check_iff.2 hover), if_pos hover]
      · rw [if_neg (fun h => hover (ceiling_check_iff.1 h)), if_neg hover]

/-! ## The answer to a response -/

namespace Downloader

variable {σ : Type}

/-- The outcome an attempt at `url` shows for the response `resp` to the request `final`, before
any body. -/
def shown (url : String) (final : Http.Request) (resp : Http.Response) : Outcome :=
  { url := url, ok := true, finalUrl := final.url.render, status := resp.status,
    header := some resp.header, contentEncoding := resp.header.get "Content-Encoding" }

/-- The answers of an attempt at `url` to the response `resp`, received for the request `final`,
by the first rule that applies. The raw ceiling is that of the response's encoding. -/
inductive ResponseAnswer (d : Downloader) (url : String) (final : Http.Request)
    (resp : Http.Response) : Except FetchError Outcome → Prop
  /-- "Not modified": ok, marked so, without a body. -/
  | notModified : resp.status = 304 →
      ResponseAnswer d url final resp (.ok { (shown url final resp) with notModified := true })
  /-- Any other status outside 200–299: a failure of the transport carrying the status. -/
  | badStatus : resp.status ≠ 304 → ¬ (200 ≤ resp.status ∧ resp.status < 300) →
      ResponseAnswer d url final resp
        (.error (.transport url resp.status ("unexpected status " ++ quoted resp.statusText)))
  /-- A raw body over the raw ceiling: too large, `n` bytes having been read. -/
  | rawTooLarge {n : Nat} : 200 ≤ resp.status → resp.status < 300 →
      OverCeiling (d.rawLimit (resp.header.get "Content-Encoding")) resp.body.length →
      d.rawLimit (resp.header.get "Content-Encoding") < n → n ≤ resp.body.length →
      ResponseAnswer d url final resp (.error (d.tooLarge url n))
  /-- A body cut off within the raw ceiling: a failure of the transport carrying the status. -/
  | unread {e : String} : 200 ≤ resp.status → resp.status < 300 →
      ¬ OverCeiling (d.rawLimit (resp.header.get "Content-Encoding")) resp.body.length →
      resp.bodyFault = some e →
      ResponseAnswer d url final resp (.error (.transport url resp.status ("read body: " ++ e)))
  /-- A gzip body whose header does not read: a failure of the transport carrying the status. -/
  | unopened {e : StreamError} : 200 ≤ resp.status → resp.status < 300 →
      ¬ OverCeiling (d.rawLimit (resp.header.get "Content-Encoding")) resp.body.length →
      resp.bodyFault = none →
      decoderOutput (resp.header.get "Content-Encoding") resp.body = .error e →
      ResponseAnswer d url final resp
        (.error (.transport url resp.status (DecodeError.opening e).message))
  /-- Decoded content over the ceiling, whether the stream broke after it or not: too large,
  reporting the raw length. -/
  | decodedTooLarge {out : Bytes} {fault : Option StreamError} :
      200 ≤ resp.status → resp.status < 300 →
      ¬ OverCeiling (d.rawLimit (resp.header.get "Content-Encoding")) resp.body.length →
      resp.bodyFault = none →
      decoderOutput (resp.header.get "Content-Encoding") resp.body = .ok (out, fault) →
      OverCeiling d.limit out.length →
      ResponseAnswer d url final resp (.error (d.tooLarge url resp.body.length))
  /-- A stream that broke within the ceiling: a failure of the transport carrying the status. -/
  | broken {out : Bytes} {e : StreamError} : 200 ≤ resp.status → resp.status < 300 →
      ¬ OverCeiling (d.rawLimit (resp.header.get "Content-Encoding")) resp.body.length →
      resp.bodyFault = none →
      decoderOutput (resp.header.get "Content-Encoding") resp.body = .ok (out, some e) →
      ¬ OverCeiling d.limit out.length →
      ResponseAnswer d url final resp (.error (.transport url resp.status
        (DecodeError.stream (resp.header.get "Content-Encoding") e).message))
  /-- Otherwise ok, with the decoded body, its length and the raw length. -/
  | downloaded {out : Bytes} : 200 ≤ resp.status → resp.status < 300 →
      ¬ OverCeiling (d.rawLimit (resp.header.get "Content-Encoding")) resp.body.length →
      resp.bodyFault = none →
      decoderOutput (resp.header.get "Content-Encoding") resp.body = .ok (out, none) →
      ¬ OverCeiling d.limit out.length →
      ResponseAnswer d url final resp
        (.ok { (shown url final resp) with
          body := out, size := out.length, rawSize := resp.body.length })

/-- The rules exclude each other: two answers to one response are equal, unless both are the
raw ceiling's refusal, which may differ in the count of bytes read when the ceiling was passed. -/
theorem ResponseAnswer.unique {d : Downloader} {url : String} {final : Http.Request}
    {resp : Http.Response} {r₁ r₂ : Except FetchError Outcome}
    (h₁ : ResponseAnswer d url final resp r₁) (h₂ : ResponseAnswer d url final resp r₂) :
    r₁ = r₂ ∨ ∃ n₁ n₂ : Nat, r₁ = .error (d.tooLarge url n₁) ∧ r₂ = .error (d.tooLarge url n₂) := by
  cases h₁ <;> cases h₂
  case notModified.notModified => exact .inl rfl
  case badStatus.badStatus => exact .inl rfl
  case rawTooLarge.rawTooLarge => exact .inr ⟨_, _, rfl, rfl⟩
  case decodedTooLarge.decodedTooLarge => exact .inl rfl
  case unread.unread _ _ _ _ hfault₁ _ _ _ _ hfault₂ =>
    rw [hfault₁] at hfault₂
    cases hfault₂
    exact .inl rfl
  -- under one rule twice the decoder's one output fixes the answer
  case unopened.unopened _ _ _ _ _ hdec₁ _ _ _ _ _ hdec₂ =>
    rw [hdec₁] at hdec₂
    cases hdec₂
    exact .inl rfl
  case broken.broken _ _ _ _ _ _ hdec₁ _ _ _ _ _ _ _ hdec₂ _ =>
    rw [hdec₁] at hdec₂
    cases hdec₂
    exact .inl rfl
  case downloaded.downloaded _ _ _ _ _ hdec₁ _ _ _ _ _ _ hdec₂ _ =>
    rw [hdec₁] at hdec₂
    cases hdec₂
    exact .inl rfl
  -- two different rules never both apply: their guards on the status, the raw ceiling, the
  -- body's end, the decoder's output and the decoded ceiling contradict each other
  all_goals simp_all

/-- The answers of one attempt at a remote locator: the request cannot be built, the transport
fails, or the transport answers a response, answered as `ResponseAnswer` says. -/
inductive RemoteAnswer (d : Downloader) (t : Http.Transport σ) (s : σ) (url : String)
    (via : Option Endpoint) (cond : Conditional) : σ × Except FetchError Outcome → Prop
  | unbuilt {e : Url.Failure} : Url.parse url = .error e →
      RemoteAnswer d t s url via cond
        (s, .error (.transport url 0 ("build request: " ++ e.message)))
  | unsent {ref : Url.Ref} {s' : σ} {f : Http.ClientFailure} : Url.parse url = .ok ref →
      Http.get t s {
        url := { ref with host := removeEmptyPort ref.host },
        header := d.requestHeader cond, proxy := via } = (s', .error f) →
      RemoteAnswer d t s url via cond
        (s', .error (.transport url 0 ("send request: " ++ f.message)))
  | answered {ref : Url.Ref} {s' : σ} {final : Http.Request} {resp : Http.Response}
      {r : Except FetchError Outcome} : Url.parse url = .ok ref →
      Http.get t s {
        url := { ref with host := removeEmptyPort ref.host },
        header := d.requestHeader cond, proxy := via } = (s', .ok (final, resp)) →
      ResponseAnswer d url final resp r → RemoteAnswer d t s url via cond (s', r)

variable {d : Downloader} {t : Http.Transport σ} {disk : Disk} {s : σ} {url : String}
  {via : Option Endpoint} {cond : Conditional}

/-- An attempt at a permitted remote locator is the remote fetch, its success marked ok and
carrying the locator. -/
theorem fetch_of_remote (hp : d.filter.permits url = true) (hl : Locator.isLocal url = false) :
    d.fetch t disk s url via cond =
      ((d.fetchRemote t s url via cond).1,
        (d.fetchRemote t s url via cond).2.map fun out => { out with url := url, ok := true }) := by
  simp [fetch, hp, hl]

/-- An attempt at a locator over HTTP that the filter permits answers as `RemoteAnswer` says. -/
theorem fetch_remote_answer (hp : d.filter.permits url = true) (hl : Locator.isLocal url = false) :
    RemoteAnswer d t s url via cond (d.fetch t disk s url via cond) := by
  rw [fetch_of_remote hp hl]
  unfold fetchRemote
  split
  · next e hparse => exact .unbuilt hparse
  · next ref hparse =>
    dsimp only
    split
    · next s' f hget => exact .unsent hparse hget
    · next s' final resp hget =>
      -- the status decides first, then the raw ceiling, then the decoder against the ceiling
      by_cases h304 : resp.status = 304
      · have heq : (resp.status == 304) = true := by simp [h304]
        simp only [heq, if_true]
        exact .answered hparse hget (.notModified h304)
      have hne : (resp.status == 304) = false := by simpa using h304
      simp only [hne, Bool.false_eq_true, if_false]
      by_cases hbad : ¬ (200 ≤ resp.status ∧ resp.status < 300)
      · have hcheck : (resp.status < 200 || resp.status ≥ 300) = true := by
          simp only [Bool.or_eq_true, decide_eq_true_eq]
          omega
        simp only [hcheck, if_true]
        exact .answered hparse hget (.badStatus h304 hbad)
      have hlo : 200 ≤ resp.status := by omega
      have hhi : resp.status < 300 := by omega
      have hcheck : (resp.status < 200 || resp.status ≥ 300) = false := by
        simp only [Bool.or_eq_false_iff, decide_eq_false_iff_not]
        omega
      simp only [hcheck, Bool.false_eq_true, if_false]
      by_cases hraw : OverCeiling (d.rawLimit (resp.header.get "Content-Encoding")) resp.body.length
      · obtain ⟨n, hn, hnb, hread⟩ := readBody_over hraw
        rw [hread]
        exact .answered hparse hget (.rawTooLarge hlo hhi hraw hn hnb)
      rw [readBody_within hraw]
      -- within the raw ceiling the body's end decides, then the decoder against the ceiling
      cases hfault : resp.bodyFault with
      | some e => exact .answered hparse hget (.unread hlo hhi hraw hfault)
      | none =>
      dsimp only [Bounded.atEnd]
      rw [decodeBody_eq]
      cases hdec : decoderOutput (resp.header.get "Content-Encoding") resp.body with
      | error e => exact .answered hparse hget (.unopened hlo hhi hraw hfault hdec)
      | ok r =>
        obtain ⟨out, fault⟩ := r
        dsimp only
        rw [limitDecoded_eq]
        by_cases hover : OverCeiling d.limit out.length
        · rw [if_pos hover]
          exact .answered hparse hget (.decodedTooLarge hlo hhi hraw hfault hdec hover)
        rw [if_neg hover]
        cases fault with
        | some e => exact .answered hparse hget (.broken hlo hhi hraw hfault hdec hover)
        | none => exact .answered hparse hget (.downloaded hlo hhi hraw hfault hdec hover)

/-- A deflate body of fifteen bytes whose stream decodes eighteen bytes and then breaks off. -/
def brokenOverlong : Bytes := [100, 192, 129, 0, 0, 0, 0, 128, 32, 214, 252, 37, 6, 56, 19]

/-- A scripted transport serving `brokenOverlong` as `deflate` at one locator. -/
def overlongServer : Http.Script :=
  { routes := [("http://e.com/doc",
      [{ header := ({} : Http.Header).set "Content-Encoding" "deflate",
         body := brokenOverlong }])] }

theorem fetch_remote_answer_served :
    Filter.permits ⟨[], [], 15⟩ "http://e.com/doc" = true ∧
      Locator.isLocal "http://e.com/doc" = false ∧
      RemoteAnswer ⟨{ compression := false }, ⟨[], [], 15⟩⟩ Http.Script.transport overlongServer
        "http://e.com/doc" none {}
        (Downloader.fetch ⟨{ compression := false }, ⟨[], [], 15⟩⟩ Http.Script.transport {}
          overlongServer "http://e.com/doc" none {}) :=
  ⟨by decide +kernel, by decide +kernel,
    fetch_remote_answer (by decide +kernel) (by decide +kernel)⟩

/-- A stream that breaks off after decoding past the ceiling is refused as too large: the body of
fifteen bytes is within the raw ceiling, the decoder gives eighteen bytes before it finds the
stream cut short, and the attempt answers that the body exceeded the ceiling of fifteen bytes,
not a failure of the transport. -/
theorem fetch_broken_overlong_too_large :
    decoderOutput "deflate" brokenOverlong = .ok (List.replicate 18 97, some .truncated) ∧
      (Downloader.fetch ⟨{ compression := false }, ⟨[], [], 15⟩⟩ Http.Script.transport {}
        overlongServer "http://e.com/doc" none {}).2 =
        .error (.tooLarge "http://e.com/doc" 15 15) := by
  constructor <;> decide +kernel

end Downloader

end Harvest
