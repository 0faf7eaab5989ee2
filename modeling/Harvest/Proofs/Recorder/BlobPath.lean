import Harvest.Digest.Sha256
import Harvest.Recorder.BlobPath
import Harvest.Proofs.Text.Ascii
import Harvest.Proofs.Url.Escape
import Harvest.Proofs.Text.Cleaning
import Mathlib.Data.List.TakeDrop
/-!
# Blob paths are content addresses

A body is stored at `<prefix>/<shard>/<file name>`, the path cleaned, where the file name is the
hex digest of the body followed by a dot and the locator's extension when it has one.

Cleaning keeps the last element of a path when it is a plain one, neither `.` nor `..`
(`SlashPath.base_join`). A file name starts with a hex digit, and an extension never holds a slash
(`Locator.slash_not_mem_extension`), so the file name is the last element of the blob path; it is
cut back into digest and extension at its first dot. Hence two bodies share a blob path exactly
when their digests agree and their locators have the same extension
(`BlobPath.of_hexDigest_eq_iff`).
-/

namespace Harvest

/-! ## Extensions hold no slash -/

/-- Only the slash has the slash as its small form. -/
theorem Char.lowerCase_eq_slash {c : Char} (h : Char.lowerCase c = '/') : c = '/' := by
  rcases @Char.lowerCase_of_ascii c (by simp [h]) (by simp [h]) (by simp [h]) (by simp [h])
    with h' | h'
  · rw [← h', h]
  · rw [h] at h'
    simp at h'
    omega

theorem slash_not_mem_lowerText {s : String} (h : '/' ∉ s.toList) :
    '/' ∉ (lowerText s).toList := by
  simp only [lowerText, String.toList_ofList, List.mem_map, not_exists, not_and]
  intro c hc hlow
  exact h (Char.lowerCase_eq_slash hlow ▸ hc)

theorem Locator.slash_not_mem_extension (u : String) : '/' ∉ (Locator.extension u).toList := by
  unfold Locator.extension
  dsimp only
  split
  · simp
  · simp
  · next extRev rest hrest _ hspan =>
    rw [List.span_eq_takeWhile_dropWhile, Prod.mk.injEq] at hspan
    obtain ⟨rfl, rfl⟩ := hspan
    apply slash_not_mem_lowerText
    simpa using SlashPath.slash_not_mem_afterDot (SlashPath.base_slash _) hrest

/-! ## Hex digests -/

namespace Sha256

theorem hexChar_toNat {n : Nat} (h : n < 16) :
    (hexChar n).toNat = if n < 10 then 48 + n else 87 + n := by
  unfold hexChar Char.ofNat
  split <;> rw [dif_pos (by simp only [Nat.isValidChar]; omega)] <;> rfl

/-- Mixing blocks into a state of eight words leaves eight words. -/
theorem size_foldl_compress (l : List Nat) (f : Nat → Array UInt32) {init : Array UInt32}
    (h : init.size = 8) : (l.foldl (fun st blk => compress st (f blk)) init).size = 8 := by
  induction l generalizing init with
  | nil => exact h
  | cons b l ih => exact ih rfl

theorem digest_length (msg : Bytes) : (digest msg).length = 32 := by
  have hwords : ∀ l : List UInt32, (l.flatMap fun (x : UInt32) =>
      [(x >>> 24).toUInt8, (x >>> 16).toUInt8, (x >>> 8).toUInt8, x.toUInt8]).length =
        4 * l.length := by
    intro l
    induction l <;> simp_all; omega
  have hinit : initialState.size = 8 := rfl
  simp only [digest, hwords, Array.length_toList, size_foldl_compress _ _ hinit]

theorem toList_hexDigest (msg : Bytes) :
    (hexDigest msg).toList =
      (digest msg).flatMap fun b => [hexChar (b.toNat / 16), hexChar (b.toNat % 16)] := by
  simp [hexDigest, hex]

theorem length_hexDigest (msg : Bytes) : (hexDigest msg).toList.length = 64 := by
  have hpairs : ∀ l : Bytes,
      (l.flatMap fun b => [hexChar (b.toNat / 16), hexChar (b.toNat % 16)]).length =
        2 * l.length := by
    intro l
    induction l <;> simp_all; omega
  rw [toList_hexDigest, hpairs, digest_length]

/-- A hex digit is an ASCII character above the punctuation `.` and `/`. -/
theorem mem_hexDigest {msg : Bytes} {c : Char} (hc : c ∈ (hexDigest msg).toList) :
    48 ≤ c.toNat ∧ c.toNat < 0x80 := by
  rw [toList_hexDigest, List.mem_flatMap] at hc
  obtain ⟨b, -, hb⟩ := hc
  have hlt : b.toNat < 256 := UInt8.toNat_lt_size b
  simp only [List.mem_cons, List.not_mem_nil, or_false] at hb
  rcases hb with rfl | rfl
  · rw [hexChar_toNat (by omega)]
    split <;> omega
  · rw [hexChar_toNat (by omega)]
    split <;> omega

end Sha256

/-! ## Blob paths -/

namespace BlobPath

/-- A text fit to name a blob: not empty, and holding neither dots nor slashes. -/
def Hashlike (h : String) : Prop := h.toList ≠ [] ∧ ∀ c ∈ h.toList, c ≠ '.' ∧ c ≠ '/'

theorem hashlike_hexDigest (msg : Bytes) : Hashlike (Sha256.hexDigest msg) := by
  refine ⟨fun h => by simpa [h] using Sha256.length_hexDigest msg, fun c hc => ?_⟩
  have := Sha256.mem_hexDigest hc
  constructor <;> rintro rfl <;> simp at this

theorem toList_fileName (h e : String) :
    (fileName h e).toList = if e.isEmpty then h.toList else h.toList ++ '.' :: e.toList := by
  unfold fileName
  split <;> simp

/-- A file name is cut back into the hash and the extension at its first dot. -/
theorem fileName_inj {h h' e e' : String} (hh : Hashlike h) (hh' : Hashlike h')
    (heq : fileName h e = fileName h' e') : h = h' ∧ e = e' := by
  have hl := congrArg String.toList heq
  rw [toList_fileName, toList_fileName] at hl
  have hdot : ∀ c ∈ h.toList, ¬c = '.' := fun c hc => (hh.2 c hc).1
  have hdot₂ : ∀ c ∈ h'.toList, ¬c = '.' := fun c hc => (hh'.2 c hc).1
  by_cases he : e.isEmpty <;> by_cases he' : e'.isEmpty <;>
    simp only [he, he', if_true, if_false, Bool.false_eq_true] at hl
  · exact ⟨String.toList_inj.1 hl, by simp_all⟩
  · -- the dot before `e'` would stand in `h`
    exact absurd (hl ▸ List.mem_append_right _ List.mem_cons_self) (hdot '.' · rfl)
  · exact absurd (hl ▸ List.mem_append_right _ List.mem_cons_self) (hdot₂ '.' · rfl)
  · obtain ⟨h1, h2⟩ := List.append_inj_of_stop hdot hdot₂ (by simp) (by simp) hl
    exact ⟨String.toList_inj.1 h1, String.toList_inj.1 (List.cons.inj h2).2⟩

/-- The file name is the last element of a blob path. -/
theorem base_of {pre h : String} (u : String) (hh : Hashlike h) :
    SlashPath.base (of pre h u) = fileName h (Locator.extension u) := by
  obtain ⟨c, r, hcr⟩ := List.exists_cons_of_ne_nil hh.1
  have hc : c ≠ '.' := (hh.2 c (by simp [hcr])).1
  have hname : (fileName h (Locator.extension u)).toList = c :: (r ++
      if (Locator.extension u).isEmpty then [] else '.' :: (Locator.extension u).toList) := by
    rw [toList_fileName, hcr]
    split <;> simp
  have hslash : '/' ∉ (fileName h (Locator.extension u)).toList := by
    have hh_slash : '/' ∉ h.toList := fun h' => (hh.2 '/' h').2 rfl
    rw [toList_fileName]
    split
    · exact hh_slash
    · simp [hh_slash, Locator.slash_not_mem_extension u]
  exact SlashPath.base_join [_, _] (by simp [hname]) hslash (.of_head (by simp [hname, hc]))

/-- Two blobs share a path exactly when their hashes agree and their locators have the same
extension. -/
theorem of_eq_iff {pre h h' u u' : String} (hh : Hashlike h) (hh' : Hashlike h') :
    of pre h u = of pre h' u' ↔ h = h' ∧ Locator.extension u = Locator.extension u' := by
  constructor
  · intro heq
    have hbase := congrArg SlashPath.base heq
    rw [base_of u hh, base_of u' hh'] at hbase
    exact fileName_inj hh hh' hbase
  · rintro ⟨rfl, he⟩
    simp [of, he]

theorem of_hexDigest_eq_iff (pre : String) (m m' : Bytes) (u u' : String) :
    of pre (Sha256.hexDigest m) u = of pre (Sha256.hexDigest m') u' ↔
      Sha256.hexDigest m = Sha256.hexDigest m' ∧ Locator.extension u = Locator.extension u' :=
  of_eq_iff (hashlike_hexDigest m) (hashlike_hexDigest m')

/-- The shard of a hex digest is its first two characters. -/
theorem shard_hexDigest (m : Bytes) :
    shard (Sha256.hexDigest m) = String.ofList ((Sha256.hexDigest m).toList.take 2) := by
  have hascii : ∀ c ∈ (Sha256.hexDigest m).toList, c.toNat < 0x80 :=
    fun c hc => (Sha256.mem_hexDigest hc).2
  have hbytes : Bytes.ofString (Sha256.hexDigest m) =
      (Sha256.hexDigest m).toList.map (·.toNat.toUInt8) := by
    rw [Bytes.ofString_eq, flatMap_utf8EncodeChar_of_ascii hascii]
  have hlen := Sha256.length_hexDigest m
  unfold shard
  rw [hbytes, if_pos (by simp [hlen]), Bytes.toText, Utf8.toText, ← List.map_take,
    Utf8.decode_of_ascii]
  · refine congrArg String.ofList ?_
    rw [List.map_map]
    refine (List.map_congr_left fun c hc => ?_).trans (List.map_id _)
    have hlt := hascii c (List.mem_of_mem_take hc)
    simp only [Function.comp_apply, id]
    rw [show c.toNat.toUInt8.toNat = c.toNat by simp; omega, Char.ofNat_toNat]
  · intro b hb
    obtain ⟨c, hc, rfl⟩ := List.mem_map.1 hb
    have hlt := hascii c (List.mem_of_mem_take hc)
    simp only [UInt8.lt_iff_toNat_lt]
    simp; omega

end BlobPath

end Harvest
