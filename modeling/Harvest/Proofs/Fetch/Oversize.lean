import Harvest.Proofs.Fetch.Response
import Mathlib
/-!
# Harvest.Proofs.Fetch.Oversize

What a too-large failure of one attempt reports.

Every too-large failure of an attempt names the locator and reports the filter's ceiling, which is
then positive, as its limit, and the raw bytes read as its count (`Downloader.tooLarge_reports`).
How the count came about is `Downloader.Oversize`: a local file was read past the ceiling; a
response body was read past the raw ceiling of its encoding; or a response body within the raw
ceiling decoded past the ceiling, the count then being the whole raw body. Only a gzip or deflate
body can report a count within the limit (`Downloader.Oversize.limit_lt_or_encoded`): any other
body has the ceiling itself as its raw ceiling and is not decoded. A deflate body of fifteen bytes
that inflates to forty, under a ceiling of thirty with compression off, is refused after reading
fifteen (`Downloader.fetch_inflating_reports_raw`).
-/

namespace Harvest

/-! ## Reads and decoding that pass a ceiling -/

/-- Decoding refuses content as too large only when the decoder's output passed the ceiling. -/
theorem decodeBody_exceeded {ce : String} {raw : Bytes} {limit : Int}
    (h : decodeBody ce raw limit = .error .exceeded) :
    ∃ out fault, decoderOutput ce raw = .ok (out, fault) ∧ OverCeiling limit out.length := by
  rw [decodeBody_eq] at h
  cases hdec : decoderOutput ce raw with
  | error e =>
    rw [hdec] at h
    cases h
  | ok r =>
    obtain ⟨out, fault⟩ := r
    rw [hdec] at h
    dsimp only at h
    rw [limitDecoded_eq] at h
    by_cases hover : OverCeiling limit out.length
    · exact ⟨out, fault, rfl, hover⟩
    · rw [if_neg hover] at h
      cases fault <;> cases h

/-- A body in an encoding that is not decoded passes the decoder as it is. -/
theorem decoderOutput_of_plain {ce : String} (raw : Bytes) (h : isEncoded ce = false) :
    decoderOutput ce raw = .ok (raw, none) := by
  unfold isEncoded at h
  unfold decoderOutput
  -- the encoding is none of the three names the decoder looks for
  have hg : normalizeEncoding ce ≠ "gzip" := fun he => by simp [he] at h
  have hx : normalizeEncoding ce ≠ "x-gzip" := fun he => by simp [he] at h
  have hd : normalizeEncoding ce ≠ "deflate" := fun he => by simp [he] at h
  simp [hg, hx, hd]

namespace Downloader

variable {σ : Type} {d : Downloader} {t : Http.Transport σ} {disk : Disk} {s : σ} {url : String}
  {via : Option Endpoint} {cond : Conditional}

/-! ## Ceilings that can be passed -/

/-- A ceiling that is not negative is the filter's byte ceiling, which is positive. -/
theorem limit_eq_of_nonneg (h : 0 ≤ d.limit) : d.limit = d.filter.maxBytes ∧ 0 < d.filter.maxBytes := by
  unfold limit Filter.readLimit at *
  by_cases hb : d.filter.bounded = true
  · have hpos : 0 < d.filter.maxBytes := by simpa [Filter.bounded] using hb
    simp [hb, hpos]
  · rw [if_neg hb] at h
    exact absurd h (by decide)

/-- A raw ceiling that is not negative comes from a ceiling that is not. -/
theorem limit_nonneg_of_rawLimit {ce : String} (h : 0 ≤ d.rawLimit ce) : 0 ≤ d.limit := by
  by_contra hneg
  have hlt : d.limit < 0 := Int.lt_of_not_ge hneg
  have hcond : (d.limit < 0 || !d.settings.compression || !isEncoded ce) = true := by
    simp only [Bool.or_eq_true, decide_eq_true_eq]
    exact .inl (.inl hlt)
  have hraw : d.rawLimit ce = d.limit := by
    unfold rawLimit
    rw [if_pos hcond]
  omega

/-- The raw ceiling of a body in an encoding that is not decoded is the ceiling itself. -/
theorem rawLimit_of_plain {ce : String} (h : isEncoded ce = false) : d.rawLimit ce = d.limit := by
  have hcond : (d.limit < 0 || !d.settings.compression || !isEncoded ce) = true := by
    simp only [h, Bool.not_false, Bool.or_true]
  unfold rawLimit
  rw [if_pos hcond]

/-! ## How a count is reported -/

/-- The request an attempt sends for the parsed locator `ref`, through `via`. -/
def request (d : Downloader) (ref : Url.Ref) (via : Option Endpoint) (cond : Conditional) :
    Http.Request where
  url := { ref with host := removeEmptyPort ref.host }
  header := d.requestHeader cond
  proxy := via

/-- The transport answered the request of an attempt at the remote `url` with `resp`, of a
success status. -/
def Served (d : Downloader) (t : Http.Transport σ) (s : σ) (url : String)
    (via : Option Endpoint) (cond : Conditional) (resp : Http.Response) : Prop :=
  Locator.isLocal url = false ∧ ∃ ref s' final, Url.parse url = .ok ref ∧
    Http.get t s (d.request ref via cond) = (s', .ok (final, resp)) ∧
    200 ≤ resp.status ∧ resp.status < 300

/-- How an attempt at `url` came to refuse a body as too large after reading `n` raw bytes. -/
inductive Oversize (d : Downloader) (t : Http.Transport σ) (disk : Disk) (s : σ) (url : String)
    (via : Option Endpoint) (cond : Conditional) : Nat → Prop
  /-- A local file longer than the ceiling, abandoned past it. -/
  | file {data : Bytes} {n : Nat} : Locator.isLocal url = true →
      disk.lookup (Locator.localPath url) = .ok (.file data) → OverCeiling d.limit n →
      n ≤ data.length → Oversize d t disk s url via cond n
  /-- A response body abandoned past the raw ceiling of its encoding. -/
  | raw {resp : Http.Response} {n : Nat} : Served d t s url via cond resp →
      OverCeiling (d.rawLimit (resp.header.get "Content-Encoding")) n → n ≤ resp.body.length →
      Oversize d t disk s url via cond n
  /-- A response body read whole within the raw ceiling, whose decoding passed the ceiling. -/
  | decoded {resp : Http.Response} {out : Bytes} {fault : Option StreamError} :
      Served d t s url via cond resp →
      ¬ OverCeiling (d.rawLimit (resp.header.get "Content-Encoding")) resp.body.length →
      resp.bodyFault = none →
      decoderOutput (resp.header.get "Content-Encoding") resp.body = .ok (out, fault) →
      OverCeiling d.limit out.length → Oversize d t disk s url via cond resp.body.length

/-- A count within the limit is reported only for a gzip or deflate body: a file and any other
body are refused past the ceiling itself. -/
theorem Oversize.limit_lt_or_encoded {n : Nat} (h : Oversize d t disk s url via cond n) :
    d.limit < n ∨ ∃ resp, Served d t s url via cond resp ∧
      isEncoded (resp.header.get "Content-Encoding") = true := by
  cases h with
  | file _ _ hover _ => exact .inl hover.2
  | @raw resp _ hserved hover _ =>
    cases he : isEncoded (resp.header.get "Content-Encoding")
    · rw [rawLimit_of_plain he] at hover
      exact .inl hover.2
    · exact .inr ⟨resp, hserved, he⟩
  | @decoded resp out _ hserved hwithin _ hdec hover =>
    cases he : isEncoded (resp.header.get "Content-Encoding")
    · -- a plain body is its own output, so it would have passed the raw ceiling already
      rw [decoderOutput_of_plain _ he] at hdec
      cases hdec
      rw [rawLimit_of_plain he] at hwithin
      exact absurd hover hwithin
    · exact .inr ⟨resp, hserved, he⟩

/-- Every ceiling passed in an `Oversize` is the limit or the raw ceiling, so it is not negative. -/
theorem Oversize.limit_nonneg {n : Nat} (h : Oversize d t disk s url via cond n) : 0 ≤ d.limit := by
  cases h with
  | file _ _ hover _ => exact hover.1
  | raw _ hover _ => exact limit_nonneg_of_rawLimit hover.1
  | decoded _ _ _ _ hover => exact hover.1

/-! ## Too-large failures of an attempt -/

/-- A local file refused as too large was read past the ceiling. -/
theorem fetchLocal_tooLarge {u : String} {lim read : Int}
    (h : d.fetchLocal disk url = .error (.tooLarge u lim read)) :
    u = url ∧ lim = d.filter.maxBytes ∧ ∃ data, ∃ n : Nat,
      disk.lookup (Locator.localPath url) = .ok (.file data) ∧ read = n ∧ OverCeiling d.limit n ∧
        n ≤ data.length := by
  unfold fetchLocal at h
  dsimp only at h
  split at h
  · cases h
  · next entry hlook =>
    cases hread : readBody (entry.contents (Locator.localPath url)).1
        (entry.contents (Locator.localPath url)).2 d.limit with
    | failed n e => rw [hread] at h; cases h
    | complete body n => rw [hread] at h; cases h
    | exceeded n =>
      rw [hread] at h
      cases h
      obtain ⟨hover, hle⟩ := readBody_exceeded hread
      -- bytes past a ceiling were read, so the entry is a file
      have hpos : 0 < (entry.contents (Locator.localPath url)).1.length := by
        have := hover.1
        have := hover.2
        omega
      rw [DiskEntry.eq_file_of_length_pos hpos] at hlook
      exact ⟨rfl, rfl, _, n, hlook, rfl, hover, hle⟩

/-- A response refused as too large was read past its raw ceiling, or read whole and decoded past
the ceiling. -/
theorem fetchRemote_tooLarge (disk : Disk) {u : String} {lim read : Int}
    (h : (d.fetchRemote t s url via cond).2 = .error (.tooLarge u lim read)) :
    u = url ∧ lim = d.filter.maxBytes ∧ ∃ n : Nat, read = n ∧
      (Locator.isLocal url = false → Oversize d t disk s url via cond n) := by
  unfold fetchRemote at h
  split at h
  · cases h
  · next ref hparse =>
    dsimp only at h
    split at h
    · cases h
    · next s' final resp hget =>
      split at h
      · cases h
      · split at h
        · cases h
        · next hok =>
          simp only [Bool.or_eq_true, decide_eq_true_eq, not_or, Int.not_lt] at hok
          have hserved : Locator.isLocal url = false → Served d t s url via cond resp :=
            fun hl => ⟨hl, ref, s', final, hparse, hget, hok.1, by omega⟩
          split at h
          · next n hread =>
            cases h
            obtain ⟨hover, hle⟩ := readBody_exceeded hread
            exact ⟨rfl, rfl, n, rfl, fun hl => .raw (hserved hl) hover hle⟩
          · cases h
          · next raw rawSize hread =>
            obtain ⟨hclean, rfl, rfl, hwithin⟩ := readBody_complete hread
            split at h
            · next hdec =>
              cases h
              obtain ⟨out, fault, hout, hover⟩ := decodeBody_exceeded hdec
              exact ⟨rfl, rfl, _, rfl, fun hl =>
                .decoded (hserved hl) (not_overCeiling_iff.2 hwithin) hclean hout hover⟩
            · cases h
            · cases h

/-- A too-large failure of an attempt names the locator and the filter's byte ceiling, and its count
of raw bytes came about as `Oversize` says. -/
theorem fetch_tooLarge_oversize {u : String} {lim read : Int}
    (h : (d.fetch t disk s url via cond).2 = .error (.tooLarge u lim read)) :
    u = url ∧ lim = d.filter.maxBytes ∧ ∃ n : Nat, read = n ∧ Oversize d t disk s url via cond n := by
  unfold fetch at h
  split at h
  · cases h
  · cases hl : Locator.isLocal url
    · rw [hl] at h
      simp only [Bool.false_eq_true, if_false] at h
      cases hr : (d.fetchRemote t s url via cond).2 with
      | ok out => rw [hr] at h; cases h
      | error e =>
        rw [hr] at h
        cases h
        obtain ⟨rfl, rfl, n, rfl, hover⟩ := fetchRemote_tooLarge disk hr
        exact ⟨rfl, rfl, n, rfl, hover hl⟩
    · rw [hl] at h
      simp only [if_true] at h
      cases hr : d.fetchLocal disk url with
      | ok out => rw [hr] at h; cases h
      | error e =>
        rw [hr] at h
        cases h
        obtain ⟨rfl, rfl, data, n, hlook, rfl, hover, hle⟩ := fetchLocal_tooLarge hr
        exact ⟨rfl, rfl, n, rfl, .file hl hlook hover hle⟩

/-- Every too-large failure of an attempt names the locator and reports the filter's byte ceiling,
then positive, as its limit and the count of raw bytes read as `read`, as `Oversize` says it came
about; that count passes the limit unless the body came gzip- or deflate-encoded. -/
theorem tooLarge_reports {u : String} {lim read : Int}
    (h : (d.fetch t disk s url via cond).2 = .error (.tooLarge u lim read)) :
    u = url ∧ lim = d.filter.maxBytes ∧ 0 < lim ∧ ∃ n : Nat, read = n ∧
      Oversize d t disk s url via cond n ∧
      (lim < read ∨ ∃ resp, Served d t s url via cond resp ∧
        isEncoded (resp.header.get "Content-Encoding") = true) := by
  obtain ⟨rfl, rfl, n, rfl, hover⟩ := fetch_tooLarge_oversize h
  -- some ceiling was passed, so the limit is the filter's, and positive
  obtain ⟨hlim, hpos⟩ := limit_eq_of_nonneg hover.limit_nonneg
  refine ⟨rfl, rfl, hpos, n, rfl, hover, ?_⟩
  rw [← hlim]
  exact hover.limit_lt_or_encoded

/-- A scripted transport serving forty bytes `a`, not encoded, at one locator. -/
def plainServer : Http.Script :=
  { routes := [("http://e.com/doc", [{ body := List.replicate 40 97 }])] }

/-- Forty plain bytes under a ceiling of thirty are refused after reading all forty, past the
limit. -/
theorem tooLarge_reports_plain :
    (Downloader.fetch ⟨{}, ⟨[], [], 30⟩⟩ Http.Script.transport {} plainServer "http://e.com/doc"
      none {}).2 = .error (.tooLarge "http://e.com/doc" 30 40) ∧
    ("http://e.com/doc" = "http://e.com/doc" ∧ (30 : Int) = (⟨[], [], 30⟩ : Filter).maxBytes ∧
      (0 : Int) < 30 ∧ ∃ n : Nat, (40 : Int) = n ∧
      Oversize ⟨{}, ⟨[], [], 30⟩⟩ Http.Script.transport {} plainServer "http://e.com/doc" none {} n ∧
      ((30 : Int) < 40 ∨ ∃ resp, Served ⟨{}, ⟨[], [], 30⟩⟩ Http.Script.transport plainServer
        "http://e.com/doc" none {} resp ∧ isEncoded (resp.header.get "Content-Encoding") = true)) :=
  have h : (Downloader.fetch ⟨{}, ⟨[], [], 30⟩⟩ Http.Script.transport {} plainServer
      "http://e.com/doc" none {}).2 = .error (.tooLarge "http://e.com/doc" 30 40) := by
    decide +kernel
  ⟨h, tooLarge_reports h⟩

/-- A deflate body of fifteen bytes, one block with its own small codes, that inflates to forty
bytes `a`. -/
def inflatingBody : Bytes := [141, 192, 129, 0, 0, 0, 0, 128, 32, 214, 252, 37, 86, 56, 83]

/-- A scripted transport serving `inflatingBody` as `deflate` at one locator. -/
def inflatingServer : Http.Script :=
  { routes := [("http://e.com/doc",
      [{ header := ({} : Http.Header).set "Content-Encoding" "deflate", body := inflatingBody }])] }

/-- A too-large failure can report fewer bytes read than its limit: with compression off and a
ceiling of thirty bytes, the fifteen-byte deflate body is read whole, decodes to forty bytes and is
refused as too large after reading fifteen. -/
theorem fetch_inflating_reports_raw :
    (Downloader.fetch ⟨{ compression := false }, ⟨[], [], 30⟩⟩ Http.Script.transport {}
      inflatingServer "http://e.com/doc" none {}).2 =
      .error (.tooLarge "http://e.com/doc" 30 15) := by
  decide +kernel

end Downloader

end Harvest
