import Harvest.Proofs.Url.Key
import Harvest.Proofs.Text.Cleaning
import Harvest.Filter
/-!
# Harvest.Proofs.Url.Extension

When locators with one key get one verdict from the download filter.

A filter reads a locator by its extension only (`permits_eq_of_extension_eq`), and the extension
is read from the path: the decoded path of a remote locator, the path itself of a local one. Two
remote locators with one key name one task and so have one path spelling (`key_eq_iff`), and a
spelling reads back as the path it was written from (`unescape_escapedPath`), so their paths
agree. Two local locators with one key have one clean path, whose last resolved element is the
last element of each when that is a name (`getLast?_parts`), and the extension is read from that
element alone (`base_slashed`).

Main statement (`permits_agree_of_key_eq`): locators of one kind with one key are filtered alike
when remote ones are written without surrounding blanks and read as URLs, and when local ones end
in a name that is not `.`, `..` or made of backslashes only. Without these conditions one key can
get two verdicts (`permits_split_on_one_key`).
-/

namespace Harvest
namespace Url

/-! ## A path's spelling reads back as the path -/

/-- The bytes a path keeps unescaped, and the marks a valid spelling may hold, are ASCII. -/
theorem lt_of_path_byte : ∀ n : Nat, n < 256 → (n.toUInt8 == 0x21 || n.toUInt8 == 0x24 ||
    n.toUInt8 == 0x26 || n.toUInt8 == 0x27 || n.toUInt8 == 0x28 || n.toUInt8 == 0x29 ||
    n.toUInt8 == 0x2A || n.toUInt8 == 0x2B || n.toUInt8 == 0x2C || n.toUInt8 == 0x3B ||
    n.toUInt8 == 0x3D || n.toUInt8 == 0x3A || n.toUInt8 == 0x40 || n.toUInt8 == 0x5B ||
    n.toUInt8 == 0x5D || n.toUInt8 == 0x25 || !mustEscape n.toUInt8 .path) = true → n < 0x80 := by
  decide +kernel

theorem hexValue_upperHex : ∀ n < 16, hexValue (upperHex n).toNat.toUInt8 = some n := by
  decide

theorem upperHex_lt : ∀ n < 16, (upperHex n).toNat < 0x80 := by
  decide

/-- A valid spelling of a path is ASCII. -/
theorem ascii_of_validEncoded {bs : Bytes} (h : validEncoded bs .path = true) :
    ∀ b ∈ bs, b < 0x80 := by
  intro b hb
  have hbyte := List.all_eq_true.1 h b hb
  have := lt_of_path_byte b.toNat (UInt8.toNat_lt_size b) (by simpa using hbyte)
  exact UInt8.lt_iff_toNat_lt.2 this

/-- ASCII bytes read as text are written back as the same bytes. -/
theorem ofString_toText_of_ascii {bs : Bytes} (h : ∀ b ∈ bs, b < 0x80) :
    Bytes.ofString (Bytes.toText bs) = bs := by
  have hchars : ∀ c ∈ bs.map (Char.ofNat ·.toNat), c.toNat < 0x80 := by
    simp only [List.mem_map]
    rintro c ⟨b, hb, rfl⟩
    rw [toNat_ofNat_byte]
    exact UInt8.lt_iff_toNat_lt.1 (h b hb)
  rw [Bytes.ofString_eq, Bytes.toText, Utf8.toText, String.toList_ofList, Utf8.decode_of_ascii h,
    flatMap_utf8EncodeChar_of_ascii hchars, List.map_map]
  simp [Function.comp_def, byte_of_ofNat]

theorem lt_of_not_mustEscape_path {b : UInt8} (h : mustEscape b .path = false) : b < 0x80 :=
  UInt8.lt_iff_toNat_lt.2 (lt_of_path_byte b.toNat (UInt8.toNat_lt_size b) (by simp [h]))

/-- The characters of an escaped path are ASCII. -/
theorem escapeByte_path_ascii (b : UInt8) : ∀ c ∈ escapeByte .path b, c.toNat < 0x80 := by
  have hb : b.toNat < 256 := UInt8.toNat_lt_size b
  unfold escapeByte
  rw [if_neg (by simp)]
  split
  · simp only [List.mem_cons, List.not_mem_nil, or_false]
    rintro c (rfl | rfl | rfl)
    · decide
    · exact upperHex_lt _ (by omega)
    · exact upperHex_lt _ (by omega)
  · next hesc =>
    simp only [List.mem_singleton]
    rintro c rfl
    rw [toNat_ofNat_byte]
    exact UInt8.lt_iff_toNat_lt.1 (lt_of_not_mustEscape_path (by simpa using hesc))

/-- The bytes of an escaped path: the spelling of each byte, one byte a character. -/
theorem ofString_escape_path (bs : Bytes) :
    Bytes.ofString (escape bs .path) =
      bs.flatMap fun b => (escapeByte .path b).map (·.toNat.toUInt8) := by
  have hascii : ∀ c ∈ bs.flatMap (escapeByte .path), c.toNat < 0x80 := by
    simp only [List.mem_flatMap]
    rintro c ⟨b, -, hc⟩
    exact escapeByte_path_ascii b c hc
  rw [Bytes.ofString_eq, toList_escape, flatMap_utf8EncodeChar_of_ascii hascii, List.map_flatMap]

/-- Reading back the spelling of one byte of a path gives the byte. -/
theorem unescapeBytes_escapeByte (b : UInt8) (rest : Bytes) :
    unescapeBytes .path ((escapeByte .path b).map (·.toNat.toUInt8) ++ rest) =
      (unescapeBytes .path rest).map (b :: ·) := by
  have hb : b.toNat < 256 := UInt8.toNat_lt_size b
  unfold escapeByte
  rw [if_neg (by simp)]
  split
  · -- a percent-escape: `%` and the two hex digits of the byte
    simp only [List.map_cons, List.map_nil, List.cons_append, List.nil_append]
    rw [show ('%').toNat.toUInt8 = 37 from rfl, unescapeBytes.eq_2,
      hexValue_upperHex _ (show b.toNat / 16 < 16 by omega),
      hexValue_upperHex _ (show b.toNat % 16 < 16 by omega)]
    dsimp only
    rw [if_neg (by simp), if_neg (by simp)]
    have hv : (b.toNat / 16 * 16 + b.toNat % 16).toUInt8 = b := by
      rw [show b.toNat / 16 * 16 + b.toNat % 16 = b.toNat by omega]
      simp
    rw [hv]
  · -- a byte standing for itself, which is not `%`
    next hesc =>
    simp only [List.map_cons, List.map_nil, List.cons_append, List.nil_append, byte_of_ofNat]
    rw [unescapeBytes.eq_4 _ _ _ (fun h => hesc (by rw [h]; rfl)), if_neg (by simp)]
    dsimp only
    rw [if_neg (by simp)]

/-- An escaped path reads back as the path. -/
theorem unescape_escape_path (bs : Bytes) :
    unescape (Bytes.ofString (escape bs .path)) .path = .ok bs := by
  rw [ofString_escape_path, unescape]
  induction bs with
  | nil => rfl
  | cons b bs ih =>
    rw [List.flatMap_cons, unescapeBytes_escapeByte, ih]
    rfl

/-- The spelling a reference writes its path with reads back as the path: a raw spelling is kept
only when it is ASCII and decodes to the path, and otherwise the path is escaped. -/
theorem unescape_escapedPath (r : Ref) :
    unescape (Bytes.ofString r.escapedPath) .path = .ok r.path := by
  unfold Ref.escapedPath
  split
  · next hraw =>
    simp only [Bool.and_eq_true] at hraw
    obtain ⟨⟨-, hvalid⟩, hdec⟩ := hraw
    rw [ofString_toText_of_ascii (ascii_of_validEncoded hvalid)]
    unfold decodesTo at hdec
    split at hdec
    · next d hd =>
      rw [hd, eq_of_beq hdec]
    · cases hdec
  · split
    · next hstar =>
      rw [eq_of_beq hstar, show Bytes.ofString "*" = [42] by decide +kernel]
      rfl
    · exact unescape_escape_path r.path

/-- References written with one path spelling have one path. -/
theorem path_eq_of_escapedPath_eq {r s : Ref} (h : r.escapedPath = s.escapedPath) :
    r.path = s.path := by
  have hr := unescape_escapedPath r
  rw [h, unescape_escapedPath s, Except.ok.injEq] at hr
  exact hr.symm

end Url
/-! ## Extensions of locators with one key -/

namespace Locator

open SlashPath

/-- A local path ends in a name that the extension reads alike before and after cleaning: its
last element is plain (neither `.` nor `..`) and not made of backslashes only. -/
def PlainEnd (p : String) : Prop :=
  ∃ L ∈ (elements p.toList).getLast?, Plain L ∧ ∃ c ∈ L, c ≠ '\\'

/-- With backslashes read as slashes, the base of a path is still read from its last element,
provided the element is not made of backslashes only. -/
theorem base_slashed {p L : List Char} (hL : LastElement p L) (hc : ∃ c ∈ L, c ≠ '\\') :
    base (String.ofList (p.map fun c => if c = '\\' then '/' else c)) =
      base (String.ofList (L.map fun c => if c = '\\' then '/' else c)) := by
  obtain ⟨q, S, rfl, hq, hS⟩ := hL.split
  rw [List.map_append]
  apply base_append (hq.map (by simp))
  · -- a character of the element other than a backslash stays, and it is no slash
    obtain ⟨c, hcL, hcb⟩ := hc
    have hcs : c ≠ '/' := fun h => hL.no_slash (h ▸ hcL)
    exact ⟨c, List.mem_map.2 ⟨c, hcL, by simp [hcb]⟩, hcs⟩
  · intro c hc'
    obtain ⟨d, hd, rfl⟩ := List.mem_map.1 hc'
    simp [hS d hd]

theorem extension_eq_of_local_base {u v : String} (hu : isLocal u = true) (hv : isLocal v = true)
    (h : base (String.ofList ((localPath u).toList.map fun c => if c = '\\' then '/' else c)) =
      base (String.ofList ((localPath v).toList.map fun c => if c = '\\' then '/' else c))) :
    extension u = extension v := by
  unfold extension
  simp only [hu, hv, Bool.not_true, Bool.false_eq_true, if_false]
  rw [h]

/-- Two local locators with one clean path and names at their ends have one extension: both
last elements are the last resolved element of that clean path. -/
theorem extension_eq_of_clean_eq {u v : String} (hu : isLocal u = true) (hv : isLocal v = true)
    (hpu : PlainEnd (localPath u)) (hpv : PlainEnd (localPath v))
    (h : clean (localPath u) = clean (localPath v)) : extension u = extension v := by
  obtain ⟨L, hL, hLplain, hLc⟩ := hpu
  obtain ⟨M, hM, hMplain, hMc⟩ := hpv
  have hLM : L = M := by
    have hu' := getLast?_parts hL hLplain
    rw [(clean_eq_clean_iff.1 h).2, getLast?_parts hM hMplain] at hu'
    exact (Option.some.inj hu').symm
  apply extension_eq_of_local_base hu hv
  rw [base_slashed (lastElement_of_getLast? hL) hLc, base_slashed (lastElement_of_getLast? hM) hMc,
    hLM]

/-- Two remote locators that read as references with one path have one extension. -/
theorem extension_eq_of_path_eq {u v : String} {r s : Url.Ref} (hu : isLocal u = false)
    (hv : isLocal v = false) (hr : Url.parse u = .ok r) (hs : Url.parse v = .ok s)
    (h : r.path = s.path) : extension u = extension v := by
  unfold extension
  simp only [hu, hv, hr, hs, h, Bool.not_false, if_true]

/-- A filter decides a locator by its extension alone. -/
theorem permits_eq_of_extension_eq (f : Filter) {u v : String} (h : extension u = extension v) :
    f.permits u = f.permits v := by
  unfold Filter.permits
  rw [h]

/-- Locators with one key are filtered alike when they are of one kind and read the same way:
remote locators that are written without surrounding blanks and read as URLs, or local ones whose
paths end in a plain name, not made of backslashes only. -/
theorem permits_agree_of_key_eq (f : Filter) :
    (∀ {u v : String} {r s : Url.Ref}, isLocal u = false → isLocal v = false →
      trimBlank u = u → trimBlank v = v → Url.parse u = .ok r → Url.parse v = .ok s →
      key u = key v → f.permits u = f.permits v) ∧
    (∀ {u v : String}, isLocal u = true → isLocal v = true →
      PlainEnd (localPath u) → PlainEnd (localPath v) →
      key u = key v → f.permits u = f.permits v) := by
  refine ⟨fun {u v r s} hu hv htu htv hr hs hkey => ?_, fun {u v} hu hv hpu hpv hkey => ?_⟩
  · -- one key is one task, so one path spelling, which reads back as one path
    have hr' : Url.parse (trimBlank u) = .ok r := by rw [htu]; exact hr
    have hs' : Url.parse (trimBlank v) = .ok s := by rw [htv]; exact hs
    have hsame := (key_eq_iff.1 hu hv hr' hs').1 hkey
    exact permits_eq_of_extension_eq f
      (extension_eq_of_path_eq hu hv hr hs (Url.path_eq_of_escapedPath_eq hsame.path))
  · exact permits_eq_of_extension_eq f
      (extension_eq_of_clean_eq hu hv hpu hpv ((key_eq_iff.2 hu hv).1 hkey))

theorem permits_agree_of_key_eq_pdf :
    (∃ r s, Url.parse "http://x.com/a.pdf" = .ok r ∧ Url.parse "HTTP://x.com:80/a.pdf" = .ok s ∧
      key "http://x.com/a.pdf" = key "HTTP://x.com:80/a.pdf" ∧
      (Filter.build { deny := ["pdf"] }).permits "http://x.com/a.pdf" =
        (Filter.build { deny := ["pdf"] }).permits "HTTP://x.com:80/a.pdf") ∧
    (PlainEnd (localPath "docs/a.pdf") ∧ PlainEnd (localPath "docs/./b/../a.pdf") ∧
      key "docs/a.pdf" = key "docs/./b/../a.pdf" ∧
      (Filter.build { deny := ["pdf"] }).permits "docs/a.pdf" =
        (Filter.build { deny := ["pdf"] }).permits "docs/./b/../a.pdf") := by
  have hok : (Url.parse "http://x.com/a.pdf").isOk = true ∧
      (Url.parse "HTTP://x.com:80/a.pdf").isOk = true := by
    decide +kernel
  -- each key is evaluated on its own
  have hkey : key "http://x.com/a.pdf" = key "HTTP://x.com:80/a.pdf" := by
    rw [show key "http://x.com/a.pdf" = "http://x.com/a.pdf" by decide +kernel,
      show key "HTTP://x.com:80/a.pdf" = "http://x.com/a.pdf" by decide +kernel]
  have hlocal : key "docs/a.pdf" = key "docs/./b/../a.pdf" := by
    rw [show key "docs/a.pdf" = "docs/a.pdf" by decide +kernel,
      show key "docs/./b/../a.pdf" = "docs/a.pdf" by decide +kernel]
  have hname : PlainEnd (localPath "docs/a.pdf") ∧ PlainEnd (localPath "docs/./b/../a.pdf") :=
    ⟨⟨['a', '.', 'p', 'd', 'f'], by decide +kernel, ⟨by decide, by decide⟩, 'a', by decide,
        by decide⟩,
      ⟨['a', '.', 'p', 'd', 'f'], by decide +kernel, ⟨by decide, by decide⟩, 'a', by decide,
        by decide⟩⟩
  have hagree := permits_agree_of_key_eq (Filter.build { deny := ["pdf"] })
  refine ⟨?_, hname.1, hname.2, hlocal,
    hagree.2 (by decide +kernel) (by decide +kernel) hname.1 hname.2 hlocal⟩
  cases hr : Url.parse "http://x.com/a.pdf" with
  | error e => simp [hr, Except.isOk, Except.toBool] at hok
  | ok r =>
    cases hs : Url.parse "HTTP://x.com:80/a.pdf" with
    | error e => simp [hs, Except.isOk, Except.toBool] at hok
    | ok s =>
      exact ⟨r, s, rfl, rfl, hkey, hagree.1 (by decide +kernel) (by decide +kernel)
        (by decide +kernel) (by decide +kernel) hr hs hkey⟩

/-- One key, two verdicts: a trailing `.` element that cleaning drops, a trailing blank that only
the key trims, a default port that only a readable URL loses, and a remote locator whose key is
spelled like a local path. -/
theorem permits_split_on_one_key :
    key "a.pdf" = key "a.pdf/." ∧
      (Filter.build { deny := ["pdf"] }).permits "a.pdf" = false ∧
      (Filter.build { deny := ["pdf"] }).permits "a.pdf/." = true ∧
    key "http://x.com/a.pdf" = key "http://x.com/a.pdf " ∧
      (Filter.build { deny := ["pdf"] }).permits "http://x.com/a.pdf" = false ∧
      (Filter.build { deny := ["pdf"] }).permits "http://x.com/a.pdf " = true ∧
    key "http://a:b:80/x.pdf?q=1" = key "http://a:b/x.pdf?q=1" ∧
      (Filter.build { deny := ["pdf"] }).permits "http://a:b:80/x.pdf?q=1" = false ∧
      (Filter.build { deny := ["pdf"] }).permits "http://a:b/x.pdf?q=1" = true ∧
    key "http://?a.pdf" = key "http:?a.pdf=" ∧
      (Filter.build { allow := ["pdf="] }).permits "http://?a.pdf" = false ∧
      (Filter.build { allow := ["pdf="] }).permits "http:?a.pdf=" = true := by
  refine ⟨?_, by decide +kernel, by decide +kernel, ?_, by decide +kernel, by decide +kernel, ?_,
    by decide +kernel, by decide +kernel, ?_, by decide +kernel, by decide +kernel⟩
  · rw [show key "a.pdf" = "a.pdf" by decide +kernel,
      show key "a.pdf/." = "a.pdf" by decide +kernel]
  · rw [show key "http://x.com/a.pdf" = "http://x.com/a.pdf" by decide +kernel,
      show key "http://x.com/a.pdf " = "http://x.com/a.pdf" by decide +kernel]
  · rw [show key "http://a:b:80/x.pdf?q=1" = "http://a:b/x.pdf?q=1" by decide +kernel,
      show key "http://a:b/x.pdf?q=1" = "http://a:b/x.pdf?q=1" by decide +kernel]
  · rw [show key "http://?a.pdf" = "http:?a.pdf=" by decide +kernel,
      show key "http:?a.pdf=" = "http:?a.pdf=" by decide +kernel]

end Locator

end Harvest
