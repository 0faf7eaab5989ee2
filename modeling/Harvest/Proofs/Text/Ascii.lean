import Mathlib
import Harvest.Text.Case
import Harvest.Text.Blank
/-!
# ASCII characters across bytes, reading, case and trimming

Whether a locator is remote is decided on its trimmed text in small letters, while its URL is
read from the bytes of that text. The lemmas here carry ASCII characters across these views: an
ASCII character is one byte of UTF-8 and is read back as itself, a non-null ASCII character of a
decoded text stands for a byte of the same value, the small form of a character lies in ASCII
only when the character does (the dotted capital I and the Kelvin sign apart), and trimming a
trimmed text changes nothing.
-/

namespace Harvest

/-- A property of every character of a text, checked by running through the text. Deciding the
bounded statement itself may instead run through every character there is. -/
theorem List.forall_mem_of_all {l : List Char} {p : Char → Prop} [DecidablePred p]
    (h : (l.all fun c => decide (p c)) = true) : ∀ c ∈ l, p c :=
  fun c hc => of_decide_eq_true (List.all_eq_true.1 h c hc)

/-! ## Bytes of a text -/

theorem ByteArray.toList_loop (bs : ByteArray) (i : Nat) (r : List UInt8) :
    ByteArray.toList.loop bs i r = r.reverse ++ bs.data.toList.drop i := by
  fun_induction ByteArray.toList.loop bs i r with
  | case1 i r hi ih =>
    have hi' : i < bs.data.toList.length := by simpa using hi
    rw [ih, List.reverse_cons, List.append_assoc, List.singleton_append,
      List.drop_eq_getElem_cons hi']
    simp [ByteArray.get!, getElem!_pos bs.data i (by simpa using hi)]
  | case2 i r hi =>
    rw [List.drop_eq_nil_of_le (by simpa using hi), List.append_nil]

/-- The bytes of a text are the UTF-8 spellings of its characters, one after another. -/
theorem Bytes.ofString_eq (s : String) :
    Bytes.ofString s = s.toList.flatMap String.utf8EncodeChar := by
  rw [Bytes.ofString, String.toUTF8, ByteArray.toList, ByteArray.toList_loop,
    ← String.ofList_toList (s := s), String.toByteArray_ofList, String.toList_ofList]
  simp [List.utf8Encode]

/-- An ASCII character is spelled by the one byte of its code. -/
theorem utf8EncodeChar_of_lt {c : Char} (h : c.toNat < 0x80) :
    String.utf8EncodeChar c = [c.toNat.toUInt8] := by
  simp only [String.utf8EncodeChar, Char.toNat] at *
  rw [if_pos (by omega)]

theorem flatMap_utf8EncodeChar_of_ascii {cs : List Char} (h : ∀ c ∈ cs, c.toNat < 0x80) :
    cs.flatMap String.utf8EncodeChar = cs.map (·.toNat.toUInt8) := by
  induction cs with
  | nil => rfl
  | cons c cs ih =>
    rw [List.flatMap_cons, utf8EncodeChar_of_lt (h c (by simp)),
      ih (fun x hx => h x (by simp [hx]))]
    rfl

/-! ## Reading bytes as text -/

namespace Utf8

/-- An ASCII byte is a glyph of its own. -/
theorem glyphs_cons_of_lt {b : UInt8} (h : b < 0x80) (bs : Bytes) :
    glyphs (b :: bs) = .scalar (scalarOf b.toNat) :: glyphs bs := by
  rw [glyphs.eq_def]
  simp [h]

theorem decode_cons_of_lt {b : UInt8} (h : b < 0x80) (bs : Bytes) :
    decode (b :: bs) = Char.ofNat b.toNat :: decode bs := by
  simp [decode, glyphs_cons_of_lt h, Glyph.toChar, scalarOf]

/-- Bytes in ASCII read as the characters of their codes. -/
theorem decode_of_ascii {bs : Bytes} (h : ∀ b ∈ bs, b < 0x80) :
    decode bs = bs.map (Char.ofNat ·.toNat) := by
  induction bs with
  | nil => simp [decode, glyphs.eq_def]
  | cons b bs ih =>
    rw [decode_cons_of_lt (h b (by simp)), ih (fun x hx => h x (by simp [hx]))]
    rfl

theorem toNat_ofNatAux {n : Nat} (h : n.isValidChar) : (Char.ofNatAux n h).toNat = n := rfl

/-- A scalar read from two bytes or more is not a non-null ASCII character: its code is at least
`0x80`, or it was no scalar value and reads as the null character. -/
theorem scalarOf_not_ascii {n : Nat} (hn : 0x80 ≤ n) :
    ¬((scalarOf n).toNat < 0x80 ∧ 0 < (scalarOf n).toNat) := by
  unfold scalarOf Char.ofNat
  split
  · rw [toNat_ofNatAux]
    omega
  · simp

theorem two_bytes_code {b0 : UInt8} (h : (decide (0xC2 ≤ b0) && decide (b0 ≤ 0xDF)) = true)
    (b1 : UInt8) : 0x80 ≤ (b0.toNat % 32) * 64 + low6 b1 := by
  simp only [Bool.and_eq_true, decide_eq_true_eq, UInt8.le_iff_toNat_le] at h
  simp at h
  omega

theorem three_bytes_code {b0 b1 : UInt8}
    (h0 : (decide (0xE0 ≤ b0) && decide (b0 ≤ 0xEF)) = true)
    (h1 : (if b0 == 0xE0 then (0xA0 : UInt8) else 0x80) ≤ b1) (h1' : b1 ≤ 0xBF) (b2 : UInt8) :
    0x80 ≤ (b0.toNat % 16) * 4096 + low6 b1 * 64 + low6 b2 := by
  simp only [Bool.and_eq_true, decide_eq_true_eq, UInt8.le_iff_toNat_le] at h0 h1'
  simp only [low6]
  simp at h0 h1'
  by_cases he : b0 = 0xE0
  · -- after `0xE0` the second byte is at least `0xA0`, so the code is at least `0x800`
    subst he
    simp only [UInt8.le_iff_toNat_le] at h1
    simp at h1 ⊢
    omega
  · have hne : b0.toNat ≠ 0xE0 := fun h => he (UInt8.toNat_inj.1 (by simpa using h))
    omega

theorem four_bytes_code {b0 b1 : UInt8}
    (h0 : (decide (0xF0 ≤ b0) && decide (b0 ≤ 0xF4)) = true)
    (h1 : (if b0 == 0xF0 then (0x90 : UInt8) else 0x80) ≤ b1) (h1' : b1 ≤ 0xBF) (b2 b3 : UInt8) :
    0x80 ≤ (b0.toNat % 8) * 262144 + low6 b1 * 4096 + low6 b2 * 64 + low6 b3 := by
  simp only [Bool.and_eq_true, decide_eq_true_eq, UInt8.le_iff_toNat_le] at h0 h1'
  simp only [low6]
  simp at h0 h1'
  by_cases he : b0 = 0xF0
  · -- after `0xF0` the second byte is at least `0x90`, so the code is at least `0x10000`
    subst he
    simp only [UInt8.le_iff_toNat_le] at h1
    simp at h1 ⊢
    omega
  · have hne : b0.toNat ≠ 0xF0 := fun h => he (UInt8.toNat_inj.1 (by simpa using h))
    omega

/-- A non-null ASCII character of a decoded text stands for a byte of the same value. -/
theorem mem_of_mem_decode {c : Char} {bs : Bytes} (hc : c ∈ decode bs) (hlt : c.toNat < 0x80)
    (hpos : 0 < c.toNat) : c.toNat.toUInt8 ∈ bs := by
  unfold decode at hc
  fun_induction glyphs bs
  case case1 => simp at hc
  case case2 b0 rest hb ih =>
    rcases List.mem_cons.1 hc with rfl | hc
    · have : (scalarOf b0.toNat).toNat = b0.toNat := by
        have : b0.toNat < 256 := UInt8.toNat_lt_size b0
        unfold scalarOf Char.ofNat
        rw [dif_pos (by simp only [Nat.isValidChar]; omega), toNat_ofNatAux]
      simp [Glyph.toChar, this]
    · exact List.mem_cons_of_mem _ (ih hc)
  case case3 b0 _ h2 b1 rest1 _ ih =>
    rcases List.mem_cons.1 hc with rfl | hc
    · exact absurd ⟨hlt, hpos⟩ (scalarOf_not_ascii (two_bytes_code h2 b1))
    · simp [ih hc]
  case case6 b0 _ _ h3 b1 b2 rest2 lo hi hc' ih =>
    rcases List.mem_cons.1 hc with rfl | hc
    · simp only [Bool.and_eq_true, decide_eq_true_eq] at hc'
      have hhi : b1 ≤ 0xBF := by
        refine UInt8.le_trans hc'.1.2 ?_
        simp only [hi]
        split <;> decide
      exact absurd ⟨hlt, hpos⟩ (scalarOf_not_ascii (three_bytes_code h3 hc'.1.1 hhi b2))
    · simp [ih hc]
  case case9 b0 _ _ _ h4 b1 b2 b3 rest3 lo hi hc' ih =>
    rcases List.mem_cons.1 hc with rfl | hc
    · simp only [Bool.and_eq_true, decide_eq_true_eq] at hc'
      have hhi : b1 ≤ 0xBF := by
        refine UInt8.le_trans hc'.1.1.2 ?_
        simp only [hi]
        split <;> decide
      exact absurd ⟨hlt, hpos⟩ (scalarOf_not_ascii (four_bytes_code h4 hc'.1.1.1 hhi b2 b3))
    · simp [ih hc]
  -- the remaining cases read a stray byte, which stands for U+FFFD
  all_goals
    rcases List.mem_cons.1 hc with rfl | hc
    · exact absurd hlt (by simp [Glyph.toChar])
    · simp_all

end Utf8

/-! ## Small letters -/

namespace Case

theorem mem_of_findRun_go {runs : Array CaseRun} {n : Nat} :
    ∀ {fuel lo hi : Nat} {r : CaseRun}, findRun.go runs n fuel lo hi = some r → r ∈ runs.toList
  | 0, _, _, _, h => by simp [findRun.go] at h
  | fuel + 1, lo, hi, r, h => by
    unfold findRun.go at h
    split at h
    · simp at h
    · dsimp only at h
      split at h
      · simp at h
      · next r' hget =>
        split at h
        · exact mem_of_findRun_go h
        · split at h
          · exact mem_of_findRun_go h
          · cases h
            exact Array.mem_toList_iff.2 (Array.mem_of_getElem? hget)

/-- A run found for a code point is one of the runs searched. -/
theorem mem_of_findRun {runs : Array CaseRun} {n : Nat} {r : CaseRun}
    (h : findRun runs n = some r) : r ∈ runs.toList :=
  mem_of_findRun_go h

/-- A run maps only the code points it covers, each by its offset. -/
theorem CaseRun.apply_eq_some {r : CaseRun} {n m : Nat} (h : r.apply n = some m) :
    r.lo ≤ n ∧ n ≤ r.hi ∧ m = ((n : Int) + r.delta).toNat := by
  unfold CaseRun.apply at h
  split at h
  · next hc =>
    cases h
    simp only [Bool.and_eq_true, decide_eq_true_eq] at hc
    exact ⟨hc.1.1, hc.1.2, rfl⟩
  · cases h

/-- Each run of the table sends its code points outside ASCII, or lies in ASCII itself, or is the
single dotted capital I or the single Kelvin sign. -/
theorem lowerRuns_images : ∀ r ∈ lowerRuns.toList, r.hi < 0x80 ∨ 0x80 ≤ (r.lo : Int) + r.delta ∨
    (r.lo = r.hi ∧ ((r.lo : Int) + r.delta = 0x69 ∨ (r.lo : Int) + r.delta = 0x6B)) := by
  decide +kernel

/-- Outside ASCII only the dotted capital I and the Kelvin sign have small forms in ASCII, the
small letters `i` and `k`. -/
theorem lowerCode_of_le {n m : Nat} (hn : 0x80 ≤ n) (h : lowerCode n = some m) (hm : m < 0x80) :
    m = 0x69 ∨ m = 0x6B := by
  unfold lowerCode at h
  rw [if_neg (by omega)] at h
  obtain ⟨r, hr, happ⟩ := Option.bind_eq_some_iff.1 h
  obtain ⟨hlo, hhi, rfl⟩ := CaseRun.apply_eq_some happ
  rcases lowerRuns_images r (mem_of_findRun hr) with h1 | h1 | ⟨h1, h2 | h2⟩ <;> omega

end Case

/-- A character whose small form is a non-null ASCII character other than `i` and `k` is that
character itself or its capital in ASCII. -/
theorem Char.lowerCase_of_ascii {c : Char} (hlt : (Char.lowerCase c).toNat < 0x80)
    (hpos : 0 < (Char.lowerCase c).toNat) (hi : Char.lowerCase c ≠ 'i')
    (hk : Char.lowerCase c ≠ 'k') :
    Char.lowerCase c = c ∨
      (0x41 ≤ c.toNat ∧ c.toNat ≤ 0x5A ∧ (Char.lowerCase c).toNat = c.toNat + 32) := by
  unfold Char.lowerCase at *
  cases hcode : Case.lowerCode c.toNat with
  | none => exact .inl rfl
  | some m =>
    simp only [hcode] at hlt hpos hi hk ⊢
    have hvalid : (Char.ofNat m).toNat = m := by
      unfold Char.ofNat at hpos ⊢
      split
      · rfl
      · next hv => simp [hv] at hpos
    by_cases hc : c.toNat < 0x80
    · -- an ASCII capital maps to its small letter
      unfold Case.lowerCode at hcode
      rw [if_pos hc] at hcode
      split at hcode
      · next hAZ =>
        cases hcode
        simp only [Bool.and_eq_true, decide_eq_true_eq] at hAZ
        exact .inr ⟨hAZ.1, hAZ.2, hvalid⟩
      · cases hcode
    · rcases Case.lowerCode_of_le (by omega) hcode (hvalid ▸ hlt) with rfl | rfl
      · exact absurd rfl hi
      · exact absurd rfl hk

/-! ## Trimming -/

theorem dropWhile_blank_of_head {l : List Char} (h : ∀ c ∈ l.head?, isBlank c = false) :
    l.dropWhile isBlank = l := by
  cases l with
  | nil => rfl
  | cons c l => simp [h c rfl]

/-- What is left after the leading blanks are dropped starts with no blank. -/
theorem isBlank_of_head?_dropWhile {l : List Char} {c : Char}
    (h : (l.dropWhile isBlank).head? = some c) : isBlank c = false := by
  have hA : l.dropWhile isBlank ≠ [] := fun h' => by simp [h'] at h
  rw [List.head?_eq_some_head hA, Option.some.injEq] at h
  exact h ▸ List.head_dropWhile_not isBlank hA

theorem dropWhile_dropWhile_blank (l : List Char) :
    (l.dropWhile isBlank).dropWhile isBlank = l.dropWhile isBlank :=
  dropWhile_blank_of_head fun _ hc => isBlank_of_head?_dropWhile hc

/-- A trimmed text starts with no blank: dropping the trailing blanks keeps the first character,
which is not blank. -/
theorem dropWhile_trimmed (l : List Char) :
    (((l.dropWhile isBlank).reverse.dropWhile isBlank).reverse).dropWhile isBlank =
      ((l.dropWhile isBlank).reverse.dropWhile isBlank).reverse := by
  have hpre : ((l.dropWhile isBlank).reverse.dropWhile isBlank).reverse <+: l.dropWhile isBlank := by
    simpa using List.reverse_prefix.2
      (List.dropWhile_suffix isBlank (l := (l.dropWhile isBlank).reverse))
  refine dropWhile_blank_of_head fun c hc => isBlank_of_head?_dropWhile (l := l) ?_
  obtain ⟨t, ht⟩ := hpre
  rw [← ht, List.head?_append, Option.mem_def.1 hc, Option.some_or]

/-- Trimming a trimmed text changes nothing. -/
theorem trimBlank_trimBlank (s : String) : trimBlank (trimBlank s) = trimBlank s := by
  unfold trimBlank
  simp only [String.toList_ofList, dropWhile_trimmed, List.reverse_reverse,
    dropWhile_dropWhile_blank]

end Harvest
