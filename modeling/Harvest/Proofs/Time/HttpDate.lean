import Harvest.Proofs.Time.Calendar
import Mathlib
/-!
# Harvest.Proofs.Time.HttpDate

The HTTP date of an instant, read back.

Reading is followed element by element of a layout (`readPiece`, `readLayout`). Every element keeps
the fields in range (`readPiece_bounded`), so a date read in any of the three forms is a day that
exists in the years 0 to 9999 with a time of day (`readDate_eq_some`, `parseHttpDate_eq_some`).
Writing goes the other way: two- and four-digit fields (`Digits`), names of one length
(`name_eq_take`) and literal text (`skipText_append`) are each read back from the front of the
text, whatever follows, and the IMF fixed date is read back part by part (`readLayout_imf`).

Main statement (`parseHttpDate_httpDate`): the HTTP date written for an instant that an HTTP date
was read as is read back as the same whole second. A fraction of a second, which reading keeps,
is not written.
-/

namespace Harvest

namespace Instant

/-! ## Fixed-width decimal digits -/

/-- `ds` writes `n` in exactly `width` decimal digits, zeros in front allowed. -/
structure Digits (width n : Nat) (ds : List Char) : Prop where
  length_eq : ds.length = width
  isDigit : ∀ c ∈ ds, c.isDigit = true
  value : Nat.ofDigitChars 10 ds 0 = n

/-- Zeros in front of the decimal digits of `n`, up to a width that `n` fits in. -/
theorem digits_padded {width n : Nat} (hw : 0 < width) (h : n < 10 ^ width) :
    Digits width n
      (List.replicate (width - (Nat.toDigits 10 n).length) '0' ++ Nat.toDigits 10 n) where
  length_eq := by
    have := (Nat.length_toDigits_le_iff (by decide) hw).2 h
    simp only [List.length_append, List.length_replicate]
    omega
  isDigit c hc := by
    rcases List.mem_append.1 hc with hz | hd
    · rw [List.eq_of_mem_replicate hz]
      rfl
    · exact Nat.isDigit_of_mem_toDigits (by decide) (by decide) hd
  value := by
    rw [Nat.ofDigitChars_append, Nat.ofDigitChars_replicate_zero, Nat.mul_zero,
      Nat.ofDigitChars_ten_toDigits]

theorem toList_pad2 (n : Nat) :
    (pad2 n).toList = List.replicate (2 - (Nat.toDigits 10 n).length) '0' ++ Nat.toDigits 10 n := by
  unfold pad2
  split
  · next h =>
    simp [Nat.toDigits_of_lt_base h]
  · next h =>
    have h2 : ¬ (Nat.toDigits 10 n).length ≤ 1 := by
      rw [Nat.length_toDigits_le_iff (by decide) (by decide)]
      omega
    simp
    omega

theorem toList_padYear {y : Int} (h0 : 0 ≤ y) :
    (padYear y).toList =
      List.replicate (4 - (Nat.toDigits 10 y.natAbs).length) '0' ++ Nat.toDigits 10 y.natAbs := by
  simp [padYear, Int.not_lt.2 h0, ← String.length_toList]

/-- A number below 100 is written in two digits. -/
theorem digits_pad2 {n : Nat} (h : n < 100) : Digits 2 n (pad2 n).toList :=
  toList_pad2 n ▸ digits_padded (by decide) h

/-- A year from 0 to 9999 is written in four digits. -/
theorem digits_padYear {y : Int} (h0 : 0 ≤ y) (h1 : y ≤ 9999) :
    Digits 4 y.natAbs (padYear y).toList :=
  toList_padYear h0 ▸ digits_padded (by decide) (by omega)

/-- The digits' value read with an integer accumulator. -/
theorem foldl_digits {l : List Char} (hl : ∀ c ∈ l, c.isDigit = true) (k : Nat) :
    l.foldl (fun (acc : Int) c => acc * 10 + (c.toNat - 48)) k = (Nat.ofDigitChars 10 l k : Int) := by
  induction l generalizing k with
  | nil => rfl
  | cons c l ih =>
    have hc := Char.isDigit_iff_toNat.1 (hl c List.mem_cons_self)
    have hstep : (k : Int) * 10 + (c.toNat - 48) = ((10 * k + (c.toNat - '0'.toNat) : Nat) : Int) := by
      simp only [Char.reduceToNat] at hc ⊢
      omega
    rw [List.foldl_cons, hstep, ih (fun d hd => hl d (List.mem_cons_of_mem c hd)),
      Nat.ofDigitChars_cons]

theorem foldl_digits_zero {l : List Char} (hl : ∀ c ∈ l, c.isDigit = true) :
    l.foldl (fun (acc : Int) c => acc * 10 + (c.toNat - 48)) 0 = (Nat.ofDigitChars 10 l 0 : Int) := by
  have h := foldl_digits hl 0
  rwa [Nat.cast_zero] at h

/-- Two digits are read as the number they write, whatever follows. -/
theorem num2_digits {n : Nat} {ds : List Char} (h : Digits 2 n ds) (fixed : Bool) (rest : Cursor) :
    num2 fixed (ds ++ rest) = some (n, rest) := by
  obtain ⟨hlen, hdig, hval⟩ := h
  obtain ⟨a, b, rfl⟩ := List.length_eq_two.1 hlen
  have ha := hdig a (by simp)
  have hb := hdig b (by simp)
  simp only [Nat.ofDigitChars_cons, Nat.ofDigitChars_nil, Char.reduceToNat] at hval
  simp only [List.cons_append, List.nil_append, num2, ha, hb, Bool.and_self, if_true,
    Option.some.injEq, Prod.mk.injEq, and_true]
  omega

theorem signedDecimal_cons_of_ne {c : Char} {r : List Char} (hm : c ≠ '-') (hp : c ≠ '+') :
    signedDecimal (c :: r) = if (c :: r).all Char.isDigit then
      some ((c :: r).foldl (fun (acc : Int) c => acc * 10 + (c.toNat - 48)) 0) else none := by
  simp [signedDecimal, hm, hp]

theorem signedDecimal_sign (r : List Char) (sign : Char) (hs : sign = '-' ∨ sign = '+') :
    signedDecimal (sign :: r) = if r.all Char.isDigit then
      some (if sign = '-' then -(r.foldl (fun (acc : Int) c => acc * 10 + (c.toNat - 48)) 0)
        else r.foldl (fun (acc : Int) c => acc * 10 + (c.toNat - 48)) 0) else none := by
  rcases hs with rfl | rfl <;> simp [signedDecimal]

/-- Digits without a sign are read as the number they write. -/
theorem signedDecimal_digits {n width : Nat} {ds : List Char} (h : Digits width n ds) :
    signedDecimal ds = some (n : Int) := by
  have hval := foldl_digits_zero h.isDigit
  rw [h.value] at hval
  cases ds with
  | nil =>
    rw [← hval]
    rfl
  | cons c r =>
    -- a digit is no sign, so the whole text is the digits
    have hc := h.isDigit c List.mem_cons_self
    have hminus : c ≠ '-' := by rintro rfl; exact absurd hc (by decide)
    have hplus : c ≠ '+' := by rintro rfl; exact absurd hc (by decide)
    rw [signedDecimal_cons_of_ne hminus hplus, if_pos (List.all_eq_true.2 h.isDigit), hval]

/-! ## Names and literal text -/

/-- A name is found at an index of its list. -/
theorem name_lt {names : List String} {cs : Cursor} {i : Nat} {r : Cursor}
    (h : name names cs = some (i, r)) : i < names.length := by
  unfold name at h
  obtain ⟨⟨n, j⟩, hfind, hij⟩ := Option.map_eq_some_iff.1 h
  cases hij
  simpa using List.snd_lt_of_mem_zipIdx (List.mem_of_find?_eq_some hfind)

/-- Among names of one length `k`, the name read depends on the first `k` characters only. -/
theorem name_eq_take {names : List String} {k : Nat} (hk : ∀ n ∈ names, n.length = k)
    (cs : Cursor) : name names cs = (name names (cs.take k)).map fun p => (p.1, cs.drop k) := by
  unfold name
  rw [Option.map_map]
  have hfind : names.zipIdx.find? (fun p => asciiLower (cs.take p.1.length) == asciiLower p.1.toList) =
      names.zipIdx.find?
        (fun p => asciiLower ((cs.take k).take p.1.length) == asciiLower p.1.toList) := by
    refine List.find?_congr fun p hp => ?_
    rw [List.take_take, hk p.1 (List.fst_mem_of_mem_zipIdx hp), Nat.min_self]
  rw [hfind]
  cases hsome : names.zipIdx.find?
      (fun p => asciiLower ((cs.take k).take p.1.length) == asciiLower p.1.toList) with
  | none => rfl
  | some p =>
    have hlen := hk p.1 (List.fst_mem_of_mem_zipIdx (List.mem_of_find?_eq_some hsome))
    simp [hlen]

/-- A name of the list's length read from the front of a text, whatever follows. -/
theorem name_append {names : List String} {k i : Nat} (hk : ∀ n ∈ names, n.length = k)
    {w : List Char} (hw : w.length = k) (hname : name names w = some (i, [])) (rest : Cursor) :
    name names (w ++ rest) = some (i, rest) := by
  rw [name_eq_take hk, List.take_left' hw, List.drop_left' hw, hname]
  rfl

theorem name_monthNames {i : Nat} (hi : i < 12) :
    name monthNames (monthNames.getD i "").toList = some (i, []) := by
  revert i
  decide

theorem name_dayNames {i : Nat} (hi : i < 7) :
    name dayNames (dayNames.getD i "").toList = some (i, []) := by
  revert i
  decide

theorem dropSpaces_of_head {cs : Cursor} (h : ∀ c ∈ cs.head?, c ≠ ' ') : dropSpaces cs = cs := by
  cases cs with
  | nil => rfl
  | cons c cs => simp [dropSpaces, h c rfl]

/-- A literal reads itself when the text after it does not go on with a space; both when the
literal is met afresh and when a run of its spaces has just taken the text's spaces. -/
theorem skipText_append_both {rest : Cursor} (hrest : ∀ c ∈ rest.head?, c ≠ ' ') (l : List Char) :
    skipText l (l ++ rest) false = some rest ∧
      skipText l (dropSpaces (l ++ rest)) true = some rest := by
  induction l with
  | nil => simp [skipText, dropSpaces_of_head hrest]
  | cons c l ih =>
    by_cases hc : c = ' '
    · -- a space of the literal takes the run of spaces in the text
      subst hc
      have hdrop : dropSpaces (' ' :: (l ++ rest)) = dropSpaces (l ++ rest) := by
        simp [dropSpaces]
      simp only [List.cons_append, skipText, bne_self_eq_false, Bool.false_eq_true, if_false,
        hdrop]
      exact ⟨ih.2, ih.2⟩
    · have hdrop : dropSpaces (c :: (l ++ rest)) = c :: (l ++ rest) := dropSpaces_of_head (by simpa)
      simp only [List.cons_append, hdrop]
      simp [skipText, hc, ih.1]

/-- A literal reads itself when the text after it does not go on with a space. -/
theorem skipText_append {rest : Cursor} (hrest : ∀ c ∈ rest.head?, c ≠ ' ') (l : List Char) :
    skipText l (l ++ rest) false = some rest :=
  (skipText_append_both hrest l).1

/-- No fraction stands before a text that does not open with `.` or `,`. -/
theorem fraction_of_head {cs : Cursor} (h : ∀ c ∈ cs.head?, c ≠ '.' ∧ c ≠ ',') :
    fraction cs = (0, cs) := by
  match cs with
  | [] => rfl
  | [c] => rfl
  | c :: d :: rest =>
    have hc := h c rfl
    simp [fraction, hc.1, hc.2]

/-! ## Reading a layout piece by piece -/

theorem readLayout_cons (piece : DatePiece) (rest : List DatePiece) (f : DateFields) (cs : Cursor) :
    readLayout (piece :: rest) f cs = (readPiece piece f cs).bind fun r => readLayout rest r.1 r.2 :=
  rfl

/-- Digits open with a digit, so with no space, dot or comma. -/
theorem Digits.head {width n : Nat} {ds : List Char} (h : Digits width n ds) (hw : 0 < width)
    (rest : Cursor) : ∀ c ∈ (ds ++ rest).head?, c.isDigit = true := by
  intro c hc
  have hne : ds ≠ [] := by
    intro hnil
    have := h.length_eq
    simp [hnil] at this
    omega
  rw [List.head?_append_of_ne_nil _ hne] at hc
  exact h.isDigit c (List.mem_of_mem_head? hc)

theorem readPiece_text (s : String) (f : DateFields) {rest : Cursor}
    (hrest : ∀ c ∈ rest.head?, c ≠ ' ') :
    readPiece (.text s) f (s.toList ++ rest) = some (f, rest) := by
  simp [readPiece, skipText_append hrest]

theorem readPiece_weekday {i : Nat} (hi : i < 7) (f : DateFields) (rest : Cursor) :
    readPiece .weekday f ((dayNames.getD i "").toList ++ rest) = some (f, rest) := by
  have hlen : (dayNames.getD i "").toList.length = 3 := by
    revert i
    decide
  have hname := name_append (by decide) hlen (name_dayNames hi) rest
  simp only [readPiece, hname, Option.map_some]

theorem readPiece_month {i : Nat} (hi : i < 12) (f : DateFields) (rest : Cursor) :
    readPiece .month f ((monthNames.getD i "").toList ++ rest) =
      some ({ f with month := i + 1 }, rest) := by
  have hlen : (monthNames.getD i "").toList.length = 3 := by
    revert i
    decide
  have hname := name_append (by decide) hlen (name_monthNames hi) rest
  simp only [readPiece, hname, Option.map_some]

theorem readPiece_day {d : Nat} {ds : List Char} (h : Digits 2 d ds) (f : DateFields)
    (rest : Cursor) : readPiece (.day true) f (ds ++ rest) = some ({ f with day := d }, rest) := by
  simp [readPiece, digits, num2_digits h]

theorem readPiece_year {y : Nat} {ds : List Char} (h : Digits 4 y ds) (f : DateFields)
    (rest : Cursor) : readPiece .year f (ds ++ rest) = some ({ f with year := y }, rest) := by
  have hlen := h.length_eq
  have htake : (ds ++ rest).take 4 = ds := List.take_left' hlen
  have hdrop : (ds ++ rest).drop 4 = rest := List.drop_left' hlen
  have hsigned := signedDecimal_digits h
  -- the year opens with a digit
  match ds, h, hlen with
  | c :: cs, h, hlen =>
    have hc : c.isDigit = true := h.isDigit c List.mem_cons_self
    have hlong : (c :: (cs ++ rest)).length ≥ 4 := by
      simp only [List.length_cons, List.length_append] at hlen ⊢
      omega
    rw [List.cons_append] at htake hdrop ⊢
    simp only [readPiece, hc, hlong, htake, hdrop, hsigned, Bool.true_and, decide_true, if_true,
      Option.map_some]

theorem readPiece_hour {hh : Nat} {ds : List Char} (h : Digits 2 hh ds) (h24 : hh < 24)
    (f : DateFields) (rest : Cursor) :
    readPiece .hour f (ds ++ rest) = some ({ f with hour := hh }, rest) := by
  have hin : ¬ hh ≥ 24 := by omega
  simp only [readPiece, digits, num2_digits h, Option.bind_some, hin, if_false]

theorem readPiece_minute {mm : Nat} {ds : List Char} (h : Digits 2 mm ds) (h60 : mm < 60)
    (f : DateFields) (rest : Cursor) :
    readPiece .minute f (ds ++ rest) = some ({ f with minute := mm }, rest) := by
  have hin : ¬ mm ≥ 60 := by omega
  simp only [readPiece, digits, num2_digits h, Option.bind_some, hin, if_false]

/-- Whole seconds are read without a fraction when no `.` or `,` follows them. -/
theorem readPiece_second {ss : Nat} {ds : List Char} (h : Digits 2 ss ds) (h60 : ss < 60)
    (f : DateFields) {rest : Cursor} (hrest : ∀ c ∈ rest.head?, c ≠ '.' ∧ c ≠ ',') :
    readPiece .second f (ds ++ rest) = some ({ f with second := ss, nanos := 0 }, rest) := by
  have hin : ¬ ss ≥ 60 := by omega
  simp only [readPiece, digits, num2_digits h, Option.bind_some, hin, if_false,
    fraction_of_head hrest]

theorem readLayout_cons_of {piece : DatePiece} {rest : List DatePiece} {f f' : DateFields}
    {cs cs' : Cursor} (h : readPiece piece f cs = some (f', cs')) :
    readLayout (piece :: rest) f cs = readLayout rest f' cs' := by
  rw [readLayout_cons, h]
  rfl

/-- Digits open with a digit, so with no space, dot or comma. -/
theorem Digits.head_ne {width n : Nat} {ds : List Char} (h : Digits width n ds) (hw : 0 < width)
    (rest : Cursor) {c₀ : Char} (h₀ : c₀.isDigit = false) : ∀ c ∈ (ds ++ rest).head?, c ≠ c₀ := by
  intro c hc hcc
  have := h.head hw rest c hc
  rw [hcc, h₀] at this
  cases this

theorem monthName_head {i : Nat} (hi : i < 12) (rest : Cursor) :
    ∀ c ∈ ((monthNames.getD i "").toList ++ rest).head?, c ≠ ' ' := by
  have hname : (monthNames.getD i "").toList.isEmpty = false ∧
      (monthNames.getD i "").toList.all (· != ' ') = true := by
    revert i
    decide
  intro c hc
  rw [List.head?_append_of_ne_nil _ (List.isEmpty_eq_false_iff.1 hname.1)] at hc
  simpa using List.all_eq_true.1 hname.2 c (List.mem_of_mem_head? hc)

/-- The IMF fixed date written from its parts is read back as those parts. -/
theorem readLayout_imf {w d m hh mm ss : Nat} {y : Int} (hw : w < 7) (hd : d < 100) (hm1 : 1 ≤ m)
    (hm2 : m ≤ 12) (hy0 : 0 ≤ y) (hy1 : y ≤ 9999) (hh24 : hh < 24) (hmm : mm < 60) (hss : ss < 60) :
    readLayout imfLayout {} (dayNames.getD w "" ++ ", " ++ pad2 d ++ " " ++
        monthNames.getD (m - 1) "" ++ " " ++ padYear y ++ " " ++ pad2 hh ++ ":" ++ pad2 mm ++ ":" ++
        pad2 ss ++ " GMT").toList =
      some ({ year := y, month := m, day := d, hour := hh, minute := mm, second := ss, nanos := 0 },
        []) := by
  have hD := digits_pad2 hd
  have hY := digits_padYear hy0 hy1
  have hH := digits_pad2 (by omega : hh < 100)
  have hM := digits_pad2 (by omega : mm < 100)
  have hS := digits_pad2 (by omega : ss < 100)
  have hgmt : ∀ c ∈ " GMT".toList.head?, c ≠ '.' ∧ c ≠ ',' := by
    rw [show " GMT".toList.head? = some ' ' from rfl]
    intro c hc
    cases hc
    decide
  have hmonth : m - 1 + 1 = m := by omega
  have hyear : (y.natAbs : Int) = y := Int.natAbs_of_nonneg hy0
  simp only [String.toList_append, List.append_assoc]
  rw [imfLayout, readLayout_cons_of (readPiece_weekday hw _ _),
    readLayout_cons_of (readPiece_text ", " _ (hD.head_ne (by decide) _ (by decide))),
    readLayout_cons_of (readPiece_day hD _ _),
    readLayout_cons_of (readPiece_text " " _ (monthName_head (by omega) _)),
    readLayout_cons_of (readPiece_month (by omega) _ _),
    readLayout_cons_of (readPiece_text " " _ (hY.head_ne (by decide) _ (by decide))),
    readLayout_cons_of (readPiece_year hY _ _),
    readLayout_cons_of (readPiece_text " " _ (hH.head_ne (by decide) _ (by decide))),
    readLayout_cons_of (readPiece_hour hH hh24 _ _),
    readLayout_cons_of (readPiece_text ":" _ (hM.head_ne (by decide) _ (by decide))),
    readLayout_cons_of (readPiece_minute hM hmm _ _),
    readLayout_cons_of (readPiece_text ":" _ (hS.head_ne (by decide) _ (by decide))),
    readLayout_cons_of (readPiece_second hS hss _ hgmt), ← List.append_nil " GMT".toList,
    readLayout_cons_of (readPiece_text " GMT" _ (by simp))]
  simp only [readLayout, hmonth, hyear]

/-! ## What a read date holds -/

/-- Digits are worth less than ten to the power of their number. -/
theorem ofDigitChars_lt {l : List Char} (hl : ∀ c ∈ l, c.isDigit = true) :
    Nat.ofDigitChars 10 l 0 < 10 ^ l.length := by
  induction l with
  | nil => simp
  | cons c l ih =>
    have hc := Char.isDigit_iff_toNat.1 (hl c List.mem_cons_self)
    have hl' := ih (fun d hd => hl d (List.mem_cons_of_mem c hd))
    simp only [Char.reduceToNat] at hc
    rw [Nat.ofDigitChars_cons, Nat.ofDigitChars_eq_ofDigitChars_zero, List.length_cons, Nat.pow_succ]
    have : 10 ^ l.length * (10 * 0 + (c.toNat - '0'.toNat)) ≤ 10 ^ l.length * 9 :=
      Nat.mul_le_mul_left _ (by simp only [Char.reduceToNat]; omega)
    omega

/-- What a signed decimal reads: digits after an optional sign, worth their value in the sign's
direction, and no sign at all when the text opens with a digit. -/
theorem signedDecimal_eq_some {l : List Char} {v : Int} (h : signedDecimal l = some v) :
    ∃ body : List Char, (∀ c ∈ body, c.isDigit = true) ∧ body.length ≤ l.length ∧
      v.natAbs = Nat.ofDigitChars 10 body 0 ∧ ∀ c ∈ l.head?, c.isDigit = true → 0 ≤ v := by
  cases l with
  | nil =>
    cases h
    exact ⟨[], by simp, le_rfl, rfl, by simp⟩
  | cons c r =>
    by_cases hs : c = '-' ∨ c = '+'
    · rw [signedDecimal_sign r c hs] at h
      split at h
      · next hall =>
        have hd := List.all_eq_true.1 hall
        rw [foldl_digits_zero hd] at h
        cases h
        refine ⟨r, hd, by simp, by split <;> simp, ?_⟩
        -- a sign is no digit
        intro c' hc' hdig
        cases hc'
        rcases hs with rfl | rfl <;> exact absurd hdig (by decide)
      · cases h
    · rw [not_or] at hs
      rw [signedDecimal_cons_of_ne hs.1 hs.2] at h
      split at h
      · next hall =>
        have hd := List.all_eq_true.1 hall
        rw [foldl_digits_zero hd] at h
        cases h
        exact ⟨c :: r, hd, le_rfl, by simp, fun _ _ _ => by omega⟩
      · cases h

/-- A signed decimal is worth less than ten to the power of its length, either way. -/
theorem signedDecimal_natAbs_lt {l : List Char} {v : Int} (h : signedDecimal l = some v) :
    v.natAbs < 10 ^ l.length := by
  obtain ⟨body, hd, hlen, hv, -⟩ := signedDecimal_eq_some h
  calc v.natAbs = Nat.ofDigitChars 10 body 0 := hv
    _ < 10 ^ body.length := ofDigitChars_lt hd
    _ ≤ 10 ^ l.length := Nat.pow_le_pow_right (by decide) hlen

/-- A signed decimal that opens with a digit has no sign. -/
theorem signedDecimal_nonneg {c : Char} {r : List Char} {v : Int} (hc : c.isDigit = true)
    (h : signedDecimal (c :: r) = some v) : 0 ≤ v := by
  obtain ⟨-, -, -, -, hpos⟩ := signedDecimal_eq_some h
  exact hpos c rfl hc

/-- The fields a layout reads are in range: a year from 0 to 9999, a month from 1 to 12, and a
time of day. The day is checked against its month only once the whole text is read. -/
structure Bounded (f : DateFields) : Prop where
  year_nonneg : 0 ≤ f.year
  year_le : f.year ≤ 9999
  month_pos : 1 ≤ f.month
  month_le : f.month ≤ 12
  hour_lt : f.hour < 24
  minute_lt : f.minute < 60
  second_lt : f.second < 60

theorem bounded_empty : Bounded {} :=
  ⟨by decide, by decide, by decide, by decide, by decide, by decide, by decide⟩

/-- An element read without touching the fields leaves them as they were. -/
theorem fst_eq_of_map_eq_some {α : Type} {o : Option α} {g : α → DateFields × Cursor}
    {f f' : DateFields} {cs' : Cursor} (h : o.map g = some (f', cs')) (hg : ∀ a, (g a).1 = f) :
    f' = f := by
  obtain ⟨a, -, heq⟩ := Option.map_eq_some_iff.1 h
  rw [← hg a, heq]

/-- Reading one element of a layout keeps the fields in range. -/
theorem readPiece_bounded {piece : DatePiece} {f f' : DateFields} {cs cs' : Cursor}
    (h : readPiece piece f cs = some (f', cs')) (hf : Bounded f) : Bounded f' := by
  cases piece with
  | text s => exact fst_eq_of_map_eq_some h (fun _ => rfl) ▸ hf
  | weekday => exact fst_eq_of_map_eq_some h (fun _ => rfl) ▸ hf
  | longWeekday => exact fst_eq_of_map_eq_some h (fun _ => rfl) ▸ hf
  | month =>
    obtain ⟨⟨i, r⟩, hname, heq⟩ := Option.map_eq_some_iff.1 h
    cases heq
    have hi := name_lt hname
    simp only [monthNames, List.length_cons, List.length_nil] at hi
    exact ⟨hf.1, hf.2, by simp, by simp; omega, hf.5, hf.6, hf.7⟩
  | day twoDigits =>
    obtain ⟨_, _, heq⟩ := Option.map_eq_some_iff.1 h
    cases heq
    exact ⟨hf.1, hf.2, hf.3, hf.4, hf.5, hf.6, hf.7⟩
  | shortYear =>
    simp only [readPiece] at h
    split at h
    · cases h
    · next hlen =>
      obtain ⟨v, hv, heq⟩ := Option.map_eq_some_iff.1 h
      cases heq
      have hlt := signedDecimal_natAbs_lt hv
      have htake : (cs.take 2).length = 2 := by simp; omega
      rw [htake] at hlt
      refine ⟨?_, ?_, hf.3, hf.4, hf.5, hf.6, hf.7⟩ <;> dsimp only <;> split <;> omega
  | year =>
    simp only [readPiece] at h
    split at h
    · next c r =>
      split at h
      · next hcond =>
        obtain ⟨v, hv, heq⟩ := Option.map_eq_some_iff.1 h
        cases heq
        simp only [Bool.and_eq_true, decide_eq_true_eq] at hcond
        have hlt := signedDecimal_natAbs_lt hv
        have htake : ((c :: r).take 4).length = 4 := by
          rw [List.length_take]
          omega
        rw [htake] at hlt
        rw [List.take_cons (by decide)] at hv
        have h0 := signedDecimal_nonneg hcond.1 hv
        exact ⟨h0, by dsimp only; omega, hf.3, hf.4, hf.5, hf.6, hf.7⟩
      · cases h
    · cases h
  | hour =>
    obtain ⟨⟨n, r⟩, _, heq⟩ := Option.bind_eq_some_iff.1 h
    dsimp only at heq
    split at heq
    · cases heq
    · next hn =>
      cases heq
      exact ⟨hf.1, hf.2, hf.3, hf.4, by dsimp only; omega, hf.6, hf.7⟩
  | minute =>
    obtain ⟨⟨n, r⟩, _, heq⟩ := Option.bind_eq_some_iff.1 h
    dsimp only at heq
    split at heq
    · cases heq
    · next hn =>
      cases heq
      exact ⟨hf.1, hf.2, hf.3, hf.4, hf.5, by dsimp only; omega, hf.7⟩
  | second =>
    obtain ⟨⟨n, r⟩, _, heq⟩ := Option.bind_eq_some_iff.1 h
    dsimp only at heq
    split at heq
    · cases heq
    · next hn =>
      cases heq
      exact ⟨hf.1, hf.2, hf.3, hf.4, hf.5, hf.6, by dsimp only; omega⟩
  | zone =>
    simp only [readPiece] at h
    split at h
    · cases h
      exact hf
    · exact fst_eq_of_map_eq_some h (fun _ => rfl) ▸ hf

/-- Reading a whole layout keeps the fields in range. -/
theorem readLayout_bounded {layout : List DatePiece} {f f' : DateFields} {cs cs' : Cursor}
    (h : readLayout layout f cs = some (f', cs')) (hf : Bounded f) : Bounded f' := by
  induction layout generalizing f cs with
  | nil =>
    cases h
    exact hf
  | cons piece rest ih =>
    rw [readLayout_cons] at h
    obtain ⟨⟨g, ds⟩, hpiece, hrest⟩ := Option.bind_eq_some_iff.1 h
    exact ih hrest (readPiece_bounded hpiece hf)

/-- A date read by a layout: the whole text was read into fields in range, of a day that exists,
and the instant is their second of the UTC time line. -/
theorem readDate_eq_some {layout : List DatePiece} {cs : Cursor} {τ : Instant}
    (h : readDate layout cs = some τ) :
    ∃ f : DateFields, readLayout layout {} cs = some (f, []) ∧ Bounded f ∧
      IsDate f.year f.month f.day ∧
      τ = ⟨daysFromCivil f.year f.month f.day * 86400 + f.hour * 3600 + f.minute * 60 + f.second,
        f.nanos⟩ := by
  unfold readDate at h
  cases hread : readLayout layout {} cs with
  | none => simp [hread] at h
  | some p =>
    obtain ⟨f, rest⟩ := p
    simp [hread] at h
    obtain ⟨rfl, ⟨hday0, hday⟩, rfl⟩ := h
    have hf := readLayout_bounded hread bounded_empty
    exact ⟨f, rfl, hf, ⟨hf.month_pos, hf.month_le, by omega, hday⟩, rfl⟩

/-- A whole text read into fields of a day that exists is read as their instant. -/
theorem readDate_of_readLayout {layout : List DatePiece} {cs : Cursor} {f : DateFields}
    (h : readLayout layout {} cs = some (f, [])) (hd : IsDate f.year f.month f.day) :
    readDate layout cs = some
      ⟨daysFromCivil f.year f.month f.day * 86400 + f.hour * 3600 + f.minute * 60 + f.second,
        f.nanos⟩ := by
  have hday0 : f.day ≠ 0 := by have := hd.day_pos; omega
  have hday : ¬ f.day > daysIn f.year f.month := by have := hd.day_le; omega
  simp [readDate, h, hday0, hday]

/-- An HTTP date is read by one of its three layouts. -/
theorem parseHttpDate_eq_some {s : String} {τ : Instant} (h : parseHttpDate s = some τ) :
    ∃ layout, readDate layout s.toList = some τ := by
  unfold parseHttpDate at h
  dsimp only at h
  cases himf : readDate imfLayout s.toList with
  | some τ' =>
    rw [himf, Option.orElse_some] at h
    exact ⟨imfLayout, himf.trans h⟩
  | none =>
    rw [himf, Option.orElse_none] at h
    cases h850 : readDate rfc850Layout s.toList with
    | some τ' =>
      rw [h850, Option.orElse_some] at h
      exact ⟨rfc850Layout, h850.trans h⟩
    | none =>
      rw [h850, Option.orElse_none] at h
      exact ⟨asctimeLayout, h⟩

/-! ## The round trip -/

/-- The HTTP date written for an instant that an HTTP date was read as is read back as that
instant's whole second: the fraction of a second is not written. -/
theorem parseHttpDate_httpDate {s : String} {τ : Instant} (h : parseHttpDate s = some τ) :
    parseHttpDate τ.httpDate = some ⟨τ.seconds, 0⟩ := by
  obtain ⟨layout, hl⟩ := parseHttpDate_eq_some h
  obtain ⟨f, -, hf, hd, rfl⟩ := readDate_eq_some hl
  have hfields := fields_civil hd hf.hour_lt hf.minute_lt hf.second_lt f.nanos
  have hday : f.day < 100 := by have := hd.day_le; have := daysIn_le f.year f.month; omega
  have hweek : ∀ z : Int, (z % 7).toNat < 7 := fun z => by omega
  simp only [httpDate, hfields]
  unfold parseHttpDate
  dsimp only
  rw [readDate_of_readLayout (readLayout_imf (hweek _) hday hd.month_pos hd.month_le
    hf.year_nonneg hf.year_le hf.hour_lt hf.minute_lt hf.second_lt) hd, Option.orElse_some]

end Instant

end Harvest
