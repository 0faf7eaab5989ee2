import Harvest.Proofs.Fetch.Response
/-!
# Harvest.Proofs.Fetch.Decoding

Decoding a body by its `Content-Encoding`, rule by rule.

The encoding, trimmed and in small letters, names the codec (`Decoded`): `gzip` and `x-gzip` read
gzip members; `deflate` reads a zlib stream when the body opens with a zlib header, and raw
DEFLATE data otherwise; every other encoding passes the body through. Each codec gives the bytes
it decoded before it stopped and the failure that stopped it, if any, and `Decoded` is exactly
the graph of `decoderOutput` (`decoded_iff`).

Main statement (`decodeBody_contract`): decoding answers as `DecodeAnswer` says, and only so. A gzip
header that does not read is a failure of its own; otherwise the codec's stream is read under the
limit as any stream is, chunk by chunk, and since such a read decides by length alone
(`readBounded_verdict`) the limit is passed exactly when the limit is not negative and the codec
decoded more bytes than it before any failure; then a failure of the codec is reported wrapped,
and otherwise the answer is the decoded bytes. The answer is the same whichever chunks the codec
hands its stream over in (`decodeBody_of_chunks`). In particular a gzip stream of `b` and a zlib
stream of `b` decode to `b` whenever `b` fits the limit.
-/

namespace Harvest

variable {ce : String} {raw : Bytes} {limit : Int}

/-! ## The codec an encoding names -/

/-- The stream the codec named by an encoding makes of a body: the bytes decoded before the codec
stopped and the failure that stopped it, or, for gzip, the failure of the first header. -/
inductive Decoded (ce : String) (raw : Bytes) :
    Except StreamError (Bytes × Option StreamError) → Prop
  /-- `gzip` and `x-gzip`: the gzip members of the body. -/
  | gunzip : normalizeEncoding ce = "gzip" ∨ normalizeEncoding ce = "x-gzip" →
      Decoded ce raw (Gzip.decode raw)
  /-- `deflate` opening with a zlib header: the zlib stream after it. -/
  | zlib {start : Nat} : normalizeEncoding ce = "deflate" →
      Zlib.readHeader raw.toByteArray = some start →
      Decoded ce raw (.ok (Zlib.decodeFrom raw.toByteArray start))
  /-- `deflate` without a zlib header: raw DEFLATE data from the first byte. -/
  | rawDeflate : normalizeEncoding ce = "deflate" → Zlib.readHeader raw.toByteArray = none →
      Decoded ce raw (.ok ((inflateFrom raw.toByteArray 0).1, (inflateFrom raw.toByteArray 0).2.2))
  /-- Any other encoding: the body as it is. -/
  | identity : normalizeEncoding ce ≠ "gzip" → normalizeEncoding ce ≠ "x-gzip" →
      normalizeEncoding ce ≠ "deflate" → Decoded ce raw (.ok (raw, none))

/-- The decoder's output is the stream of the codec the encoding names. -/
theorem decoded_decoderOutput (ce : String) (raw : Bytes) :
    Decoded ce raw (decoderOutput ce raw) := by
  unfold decoderOutput
  dsimp only
  by_cases hgz : normalizeEncoding ce = "gzip" ∨ normalizeEncoding ce = "x-gzip"
  · have hcheck : (normalizeEncoding ce == "gzip" || normalizeEncoding ce == "x-gzip") = true := by
      simpa using hgz
    rw [if_pos hcheck]
    exact .gunzip hgz
  have hcheck : ¬ (normalizeEncoding ce == "gzip" || normalizeEncoding ce == "x-gzip") = true := by
    simpa using hgz
  rw [if_neg hcheck]
  by_cases hdef : normalizeEncoding ce = "deflate"
  · rw [if_pos (by simpa using hdef)]
    -- the zlib header decides between the two framings of `deflate`
    unfold inflateBody
    dsimp only
    cases hhead : Zlib.readHeader raw.toByteArray with
    | some start => exact .zlib hdef hhead
    | none => exact .rawDeflate hdef hhead
  · rw [if_neg (by simpa using hdef)]
    exact .identity (fun h => hgz (.inl h)) (fun h => hgz (.inr h)) hdef

/-- A codec's stream is the decoder's output. -/
theorem Decoded.eq_decoderOutput {s : Except StreamError (Bytes × Option StreamError)}
    (h : Decoded ce raw s) : s = decoderOutput ce raw := by
  unfold decoderOutput
  cases h with
  | gunzip hgz =>
    have hcheck : (normalizeEncoding ce == "gzip" || normalizeEncoding ce == "x-gzip") = true := by
      simpa using hgz
    simp only [hcheck, if_true]
  | zlib hdef hhead => simp [hdef, inflateBody, hhead]
  | rawDeflate hdef hhead => simp [hdef, inflateBody, hhead]
  | identity hgz hxgz hdef => simp [hgz, hxgz, hdef]

/-- `Decoded` is the graph of the decoder's output. -/
theorem decoded_iff {s : Except StreamError (Bytes × Option StreamError)} :
    Decoded ce raw s ↔ s = decoderOutput ce raw :=
  ⟨Decoded.eq_decoderOutput, fun h => h ▸ decoded_decoderOutput ce raw⟩

/-! ## The answers of decoding -/

/-- The answers of decoding a body under a limit, by the stream of its codec. -/
inductive DecodeAnswer (ce : String) (raw : Bytes) (limit : Int) :
    Except DecodeError Bytes → Prop
  /-- The first gzip header does not read. -/
  | unopened {e : StreamError} : Decoded ce raw (.error e) →
      DecodeAnswer ce raw limit (.error (.opening e))
  /-- More bytes were decoded than the limit allows, whether or not the codec failed after
  them. -/
  | exceeded {out : Bytes} {fault : Option StreamError} : Decoded ce raw (.ok (out, fault)) →
      OverCeiling limit out.length → DecodeAnswer ce raw limit (.error .exceeded)
  /-- The codec failed within the limit: its failure, wrapped with the encoding as received. -/
  | broken {out : Bytes} {e : StreamError} : Decoded ce raw (.ok (out, some e)) →
      ¬ OverCeiling limit out.length → DecodeAnswer ce raw limit (.error (.stream ce e))
  /-- The codec ended cleanly within the limit: the decoded bytes. -/
  | decoded {out : Bytes} : Decoded ce raw (.ok (out, none)) →
      ¬ OverCeiling limit out.length → DecodeAnswer ce raw limit (.ok out)

/-- Decoding answers as `DecodeAnswer` says. -/
theorem decodeBody_answer (ce : String) (raw : Bytes) (limit : Int) :
    DecodeAnswer ce raw limit (decodeBody ce raw limit) := by
  rw [decodeBody_eq]
  have hd := decoded_decoderOutput ce raw
  cases hout : decoderOutput ce raw with
  | error e =>
    rw [hout] at hd
    exact .unopened hd
  | ok r =>
    obtain ⟨out, fault⟩ := r
    rw [hout] at hd
    dsimp only
    rw [limitDecoded_eq]
    by_cases hover : OverCeiling limit out.length
    · rw [if_pos hover]
      exact .exceeded hd hover
    · rw [if_neg hover]
      cases fault with
      | some e => exact .broken hd hover
      | none => exact .decoded hd hover

/-- A body whose codec gives a stream is decoded by reading that stream under the limit. -/
theorem decodeBody_of_decoded {out : Bytes} {fault : Option StreamError}
    (hd : Decoded ce raw (.ok (out, fault))) :
    decodeBody ce raw limit = limitDecoded ce limit (out, fault) := by
  rw [decodeBody_eq, ← hd.eq_decoderOutput]

/-- An answer of `DecodeAnswer` is the one decoding gives: the rules read one stream, and their
guards on it exclude each other. -/
theorem DecodeAnswer.eq_decodeBody {r : Except DecodeError Bytes}
    (h : DecodeAnswer ce raw limit r) : r = decodeBody ce raw limit := by
  cases h with
  | unopened hd => rw [decodeBody_eq, ← hd.eq_decoderOutput]
  | exceeded hd hover => rw [decodeBody_of_decoded hd, limitDecoded_eq, if_pos hover]
  | broken hd hover => rw [decodeBody_of_decoded hd, limitDecoded_eq, if_neg hover]
  | decoded hd hover => rw [decodeBody_of_decoded hd, limitDecoded_eq, if_neg hover]

/-- A limit that is negative or at least `n` is not passed by `n` bytes. -/
theorem not_overCeiling_of_fits {n : Nat} (h : limit < 0 ∨ (n : Int) ≤ limit) :
    ¬ OverCeiling limit n := by
  rintro ⟨hnn, hlt⟩
  omega

/-- A body whose codec decodes `b` cleanly decodes to `b` when `b` fits the limit. -/
theorem decodeBody_of_clean {b : Bytes} (hd : Decoded ce raw (.ok (b, none)))
    (hfit : limit < 0 ∨ (b.length : Int) ≤ limit) : decodeBody ce raw limit = .ok b :=
  (DecodeAnswer.decoded hd (not_overCeiling_of_fits hfit)).eq_decodeBody.symm

/-- Whichever chunks a codec hands its stream over in, reading them under the limit answers as
decoding does. -/
theorem decodeBody_of_chunks {out : Bytes} {fault : Option StreamError} {chunks : List Bytes}
    (hd : Decoded ce raw (.ok (out, fault))) (hflat : chunks.flatten = out) :
    (readBounded chunks fault limit).decoded ce = decodeBody ce raw limit := by
  rw [decodeBody_of_decoded hd, limitDecoded_eq, Bounded.decoded_readBounded, hflat]

/-- Decoding a body answers exactly as `DecodeAnswer` says: by the codec its trimmed, lower-cased
encoding names (gzip members for `gzip` and `x-gzip`; for `deflate` a zlib stream when the body
opens with a zlib header and raw DEFLATE data otherwise; the body itself for any other encoding),
the codec's stream read under the limit refusing more decoded bytes than it allows before any
failure of the codec, a failure within the limit reported wrapped, and otherwise the decoded
bytes; reading the codec's stream in any other chunks answers the same. So a gzip stream of `b`
and a zlib stream of `b` decode to `b` whenever the limit is negative or at least the length of
`b`. -/
theorem decodeBody_contract :
    (∀ (ce : String) (raw : Bytes) (limit : Int) (r : Except DecodeError Bytes),
      decodeBody ce raw limit = r ↔ DecodeAnswer ce raw limit r) ∧
    (∀ (ce : String) (raw out : Bytes) (fault : Option StreamError) (limit : Int)
        (chunks : List Bytes), Decoded ce raw (.ok (out, fault)) → chunks.flatten = out →
      (readBounded chunks fault limit).decoded ce = decodeBody ce raw limit) ∧
    (∀ (b raw : Bytes) (limit : Int), Gzip.decode raw = .ok (b, none) →
      limit < 0 ∨ (b.length : Int) ≤ limit → decodeBody "gzip" raw limit = .ok b) ∧
    (∀ (b raw : Bytes) (start : Nat) (limit : Int), Zlib.readHeader raw.toByteArray = some start →
      Zlib.decodeFrom raw.toByteArray start = (b, none) →
      limit < 0 ∨ (b.length : Int) ≤ limit → decodeBody "deflate" raw limit = .ok b) := by
  refine ⟨fun ce raw limit r => ⟨fun h => h ▸ decodeBody_answer ce raw limit,
    fun h => h.eq_decodeBody.symm⟩, fun ce raw out fault limit chunks hd hflat =>
    decodeBody_of_chunks hd hflat, ?_, ?_⟩
  · intro b raw limit hgz hfit
    have hd : Decoded "gzip" raw (.ok (b, none)) := hgz ▸ .gunzip (.inl (by decide))
    exact decodeBody_of_clean hd hfit
  · intro b raw start limit hhead hzlib hfit
    have hd : Decoded "deflate" raw (.ok (b, none)) := hzlib ▸ .zlib (by decide) hhead
    exact decodeBody_of_clean hd hfit

/-- The gzip stream of `hi` as a gzip writer makes it without compression: one stored block. -/
def hiGzip : Bytes :=
  [31, 139, 8, 0, 0, 0, 0, 0, 4, 3, 1, 2, 0, 253, 255, 104, 105, 172, 42, 147, 216, 2, 0, 0, 0]

/-- The zlib stream of `hi` as a zlib writer makes it without compression: one stored block. -/
def hiZlib : Bytes := [120, 1, 1, 2, 0, 253, 255, 104, 105, 1, 59, 0, 210]

theorem decodeBody_contract_hi :
    (Gzip.decode hiGzip = .ok ([104, 105], none) ∧ decodeBody "gzip" hiGzip 2 = .ok [104, 105]) ∧
      (Zlib.readHeader hiZlib.toByteArray = some 2 ∧
        Zlib.decodeFrom hiZlib.toByteArray 2 = ([104, 105], none) ∧
        decodeBody "deflate" hiZlib (-1) = .ok [104, 105] ∧
        (readBounded [[104], [105]] none 1).decoded "deflate" = decodeBody "deflate" hiZlib 1) := by
  have hgz : Gzip.decode hiGzip = .ok ([104, 105], none) := by decide +kernel
  have hhead : Zlib.readHeader hiZlib.toByteArray = some 2 := by decide +kernel
  have hzlib : Zlib.decodeFrom hiZlib.toByteArray 2 = ([104, 105], none) := by decide +kernel
  have hd : Decoded "deflate" hiZlib (.ok ([104, 105], none)) := hzlib ▸ .zlib (by decide) hhead
  exact ⟨⟨hgz, decodeBody_contract.2.2.1 _ _ _ hgz (.inr (by decide))⟩,
    hhead, hzlib, decodeBody_contract.2.2.2 _ _ _ _ hhead hzlib (.inl (by decide)),
    decodeBody_contract.2.1 _ _ _ _ _ _ hd rfl⟩

end Harvest
