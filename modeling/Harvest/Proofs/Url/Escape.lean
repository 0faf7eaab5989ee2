import Harvest.Url.Escape
/-!
# Percent-encoding can be read back

Escaping writes each byte of a part as one character or as `%` and two hex digits, and `%` itself
is always escaped; in a query component a space is written `+`, and `+` itself is escaped there.
So the first byte of an escaped spelling can be read back from its first characters
(`readEscaped_escapeByte`), and escaping is injective (`escape_inj`). A byte that must be escaped
in a part, other than `%` and `+`, never stands as a character in that part's spelling
(`not_mem_escape`): this is why the separators of a URL (`/`, `?`, `@`, `:`, `&`, `=`) cut a written
URL back into the parts it was written from.
-/

namespace Harvest

/-! ## Cutting a written text at a separator -/

/-- Two equal texts are cut at the same place by separators that neither first part holds and
with which each second part, when not empty, starts. -/
theorem List.append_inj_of_stop {α : Type} {P : α → Prop} {x x' y y' : List α}
    (hx : ∀ c ∈ x, ¬P c) (hx' : ∀ c ∈ x', ¬P c)
    (hy : ∀ c ∈ y.head?, P c) (hy' : ∀ c ∈ y'.head?, P c) (h : x ++ y = x' ++ y') :
    x = x' ∧ y = y' := by
  induction x generalizing x' with
  | nil =>
    cases x' with
    | nil => exact ⟨rfl, h⟩
    | cons c x' =>
      -- `y` would start with `c`, a character of `x'`
      subst h
      exact absurd (hy c rfl) (hx' c (by simp))
  | cons c x ih =>
    cases x' with
    | nil =>
      subst h
      exact absurd (hy' c rfl) (hx c (by simp))
    | cons c' x' =>
      simp only [List.cons_append, List.cons.injEq] at h
      obtain ⟨rfl, h⟩ := h
      obtain ⟨rfl, rfl⟩ := ih (fun d hd => hx d (by simp [hd]))
        (fun d hd => hx' d (by simp [hd])) h
      exact ⟨rfl, rfl⟩

namespace Url

/-- The value of a hex digit as `upperHex` writes it. -/
def hexDigitValue (c : Char) : Nat := if c.toNat < 0x3A then c.toNat - 0x30 else c.toNat - 0x37

/-- Reads back the first byte of an escaped spelling: a percent-escape, a `+` (a space in a query
component) or a character standing for itself. -/
def readEscaped (part : Part) : List Char → Option (UInt8 × List Char)
  | [] => none
  | c :: rest =>
    if c = '%' then
      match rest with
      | h :: l :: rest' => some ((hexDigitValue h * 16 + hexDigitValue l).toUInt8, rest')
      | _ => none
    else if c = '+' ∧ part = .queryComponent then some (0x20, rest)
    else some (c.toNat.toUInt8, rest)

theorem hexDigitValue_upperHex : ∀ n < 16, hexDigitValue (upperHex n) = n := by
  decide

/-- The digits `upperHex` writes are ASCII letters or digits. -/
theorem isAlnum_upperHex : ∀ n < 16, isAlnum (upperHex n).toNat.toUInt8 = true := by
  decide

@[simp] theorem mustEscape_percent (part : Part) : mustEscape 0x25 part = true := by
  cases part <;> decide

@[simp] theorem toList_escape (bs : Bytes) (part : Part) :
    (escape bs part).toList = bs.flatMap (escapeByte part) := by
  simp [escape]

/-- A byte below `0x100` is the code of the character it is written as. -/
theorem toNat_ofNat_byte (b : UInt8) : (Char.ofNat b.toNat).toNat = b.toNat := by
  have : b.toNat < 256 := UInt8.toNat_lt_size b
  unfold Char.ofNat
  rw [dif_pos (by simp only [Nat.isValidChar]; omega)]
  rfl

theorem byte_of_ofNat (b : UInt8) : (Char.ofNat b.toNat).toNat.toUInt8 = b := by
  rw [toNat_ofNat_byte]
  simp

/-- The first byte of an escaped spelling is read back from it. -/
theorem readEscaped_escapeByte (part : Part) (b : UInt8) (rest : List Char) :
    readEscaped part (escapeByte part b ++ rest) = some (b, rest) := by
  have hb : b.toNat < 256 := UInt8.toNat_lt_size b
  unfold escapeByte
  split
  · -- a space in a query component is written `+`
    next hsp =>
    simp only [Bool.and_eq_true, beq_iff_eq] at hsp
    obtain ⟨rfl, rfl⟩ := hsp
    simp [readEscaped]
  · split
    · -- a percent-escape
      simp only [List.cons_append, List.nil_append, readEscaped, if_pos,
        hexDigitValue_upperHex _ (show b.toNat / 16 < 16 by omega),
        hexDigitValue_upperHex _ (show b.toNat % 16 < 16 by omega)]
      rw [show b.toNat / 16 * 16 + b.toNat % 16 = b.toNat by omega]
      simp
    · -- a byte that stands for itself is neither `%` nor, in a query component, `+`
      next hsp hesc =>
      have hpct : Char.ofNat b.toNat ≠ '%' := fun h => by
        have : b = 0x25 := by rw [← byte_of_ofNat b, h]; rfl
        simp [this] at hesc
      have hplus : ¬(Char.ofNat b.toNat = '+' ∧ part = .queryComponent) := fun ⟨h, hq⟩ => by
        have : b = 0x2B := by rw [← byte_of_ofNat b, h]; rfl
        subst this hq
        exact hesc (by decide)
      simp only [List.cons_append, List.nil_append, readEscaped, if_neg hpct, if_neg hplus,
        byte_of_ofNat]

/-- Escaped spellings of single bytes are a prefix code. -/
theorem escapeByte_append_inj {part : Part} {a b : UInt8} {l l' : List Char}
    (h : escapeByte part a ++ l = escapeByte part b ++ l') : a = b ∧ l = l' := by
  have := congrArg (readEscaped part) h
  rw [readEscaped_escapeByte, readEscaped_escapeByte, Option.some.injEq, Prod.mk.injEq] at this
  exact this

theorem escapeByte_ne_nil (part : Part) (b : UInt8) : escapeByte part b ≠ [] := by
  unfold escapeByte
  split
  · simp
  · split <;> simp

/-- Escaping is injective: different bytes have different spellings. -/
theorem escape_inj {part : Part} {a b : Bytes} (h : escape a part = escape b part) : a = b := by
  replace h := congrArg String.toList h
  simp only [toList_escape] at h
  induction a generalizing b with
  | nil =>
    cases b with
    | nil => rfl
    | cons y b =>
      rw [List.flatMap_cons] at h
      exact absurd (List.append_eq_nil_iff.1 h.symm).1 (escapeByte_ne_nil part y)
  | cons x a ih =>
    cases b with
    | nil =>
      rw [List.flatMap_cons] at h
      exact absurd (List.append_eq_nil_iff.1 h).1 (escapeByte_ne_nil part x)
    | cons y b =>
      rw [List.flatMap_cons, List.flatMap_cons] at h
      obtain ⟨rfl, hrest⟩ := escapeByte_append_inj h
      rw [ih hrest]

theorem escape_eq_empty {part : Part} {bs : Bytes} : escape bs part = "" ↔ bs = [] := by
  constructor
  · intro h
    cases bs with
    | nil => rfl
    | cons b bs =>
      replace h := congrArg String.toList h
      simp only [toList_escape, List.flatMap_cons, String.toList_empty] at h
      exact absurd (List.append_eq_nil_iff.1 h).1 (escapeByte_ne_nil part b)
  · rintro rfl
    rfl

/-- Letters and digits are never escaped. -/
theorem mustEscape_of_isAlnum {c : UInt8} (h : isAlnum c = true) (part : Part) :
    mustEscape c part = false := by
  unfold mustEscape
  rw [if_pos h]

/-- A byte that must be escaped in a part, other than `%` and `+`, never stands as a character in
an escaped spelling of that part. -/
theorem not_mem_escape {part : Part} {d : UInt8} (hd : mustEscape d part = true)
    (hpct : d ≠ 0x25) (hplus : d ≠ 0x2B) (bs : Bytes) :
    Char.ofNat d.toNat ∉ (escape bs part).toList := by
  intro hmem
  rw [toList_escape, List.mem_flatMap] at hmem
  obtain ⟨b, -, hb⟩ := hmem
  have hbyte (c : Char) (h : Char.ofNat d.toNat = c) : d = (c.toNat.toUInt8) := by
    rw [← h, byte_of_ofNat]
  unfold escapeByte at hb
  split at hb
  · exact hplus (hbyte _ (List.mem_singleton.1 hb))
  · split at hb
    · have hb16 : b.toNat < 256 := UInt8.toNat_lt_size b
      simp only [List.mem_cons, List.not_mem_nil, or_false] at hb
      rcases hb with h | h | h
      · exact hpct (hbyte _ h)
      · have := isAlnum_upperHex _ (show b.toNat / 16 < 16 by omega)
        rw [← h, byte_of_ofNat] at this
        rw [mustEscape_of_isAlnum this] at hd
        cases hd
      · have := isAlnum_upperHex _ (show b.toNat % 16 < 16 by omega)
        rw [← h, byte_of_ofNat] at this
        rw [mustEscape_of_isAlnum this] at hd
        cases hd
    · next hesc =>
      have : d = b := by rw [← byte_of_ofNat d, List.mem_singleton.1 hb, byte_of_ofNat]
      subst this
      exact hesc hd

end Url

end Harvest
