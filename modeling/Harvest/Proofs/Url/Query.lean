import Harvest.Url.Query
import Harvest.Proofs.Url.Escape
/-!
# The canonical spelling of a query

`canonicalQuery` reads the pairs of a query, groups their values by name in a table whose names
stand in byte order, and writes the table back escaped. The table keeps, under each name, the
values in the order they were read. Main statement (`canonicalQuery_eq_iff`): two queries have
the same canonical spelling exactly when they carry, under every name, the same sequence of
values. Pairs of different names may be written in any order; two values of one name may not
be swapped, and pairs that cannot be read count for nothing.

The proof keeps one invariant of the table (`Table.Sorted`: names strictly increasing, no empty
group), through which the table is determined by its values per name (`Table.ext_valuesOf`), and
reads the written spelling back at its separators `&` and `=`.
-/

namespace Harvest

namespace Url

/-! ## Byte order -/

/-- `bytesBefore` is the lexicographic order of byte strings. -/
theorem bytesBefore_iff {a b : Bytes} : bytesBefore a b = true ↔ a < b := by
  induction a generalizing b with
  | nil =>
    cases b with
    | nil => simp [bytesBefore, List.lt_irrefl]
    | cons y b => simp [bytesBefore, List.nil_lt_cons]
  | cons x a ih =>
    cases b with
    | nil => simp [bytesBefore, List.not_lt_nil]
    | cons y b =>
      rw [List.cons_lt_cons_iff, bytesBefore]
      by_cases hxy : x < y
      · simp [hxy]
      · by_cases hyx : y < x
        · simp [hxy, hyx, UInt8.ne_of_lt hyx |>.symm]
        · have : x = y := UInt8.le_antisymm (UInt8.not_lt.1 hyx) (UInt8.not_lt.1 hxy)
          simp [this, ih]

theorem bytes_eq_of_not_lt {a b : Bytes} (h1 : ¬a < b) (h2 : ¬b < a) : a = b :=
  List.le_antisymm h2 h1

/-! ## Values per name -/

/-- The values a list of pairs carries under one name, in order. -/
def valuesOf (n : Bytes) (pairs : List (Bytes × Bytes)) : List Bytes :=
  (pairs.filter (·.1 == n)).map (·.2)

/-- The pairs of a table, one per value, in table order. -/
def flatPairs (t : List (Bytes × List Bytes)) : List (Bytes × Bytes) :=
  t.flatMap fun e => e.2.map (e.1, ·)

@[simp] theorem valuesOf_nil (n : Bytes) : valuesOf n [] = [] := rfl

theorem valuesOf_append (n : Bytes) (ps qs : List (Bytes × Bytes)) :
    valuesOf n (ps ++ qs) = valuesOf n ps ++ valuesOf n qs := by
  simp [valuesOf]

theorem valuesOf_cons (n : Bytes) (p : Bytes × Bytes) (ps : List (Bytes × Bytes)) :
    valuesOf n (p :: ps) = (if p.1 = n then [p.2] else []) ++ valuesOf n ps := by
  by_cases h : p.1 = n <;> simp [valuesOf, h]

@[simp] theorem flatPairs_nil : flatPairs [] = [] := rfl

theorem flatPairs_cons (e : Bytes × List Bytes) (t : List (Bytes × List Bytes)) :
    flatPairs (e :: t) = e.2.map (e.1, ·) ++ flatPairs t := rfl

/-- Under the name of a group, a table carries that group's values, then the rest's. -/
theorem valuesOf_flatPairs_cons (n : Bytes) (e : Bytes × List Bytes)
    (t : List (Bytes × List Bytes)) :
    valuesOf n (flatPairs (e :: t)) = (if e.1 = n then e.2 else []) ++ valuesOf n (flatPairs t) := by
  rw [flatPairs_cons, valuesOf_append]
  congr 1
  by_cases h : e.1 = n <;> simp [valuesOf, h, List.filter_map, Function.comp_def]

/-- A table carries nothing under a name none of its groups has. -/
theorem valuesOf_flatPairs_of_not_mem {n : Bytes} {t : List (Bytes × List Bytes)}
    (h : ∀ e ∈ t, e.1 ≠ n) : valuesOf n (flatPairs t) = [] := by
  induction t with
  | nil => rfl
  | cons e t ih =>
    rw [valuesOf_flatPairs_cons, if_neg (h e (by simp)), ih (fun e' he => h e' (by simp [he]))]
    rfl

/-! ## The table invariant -/

/-- A table as `groupValues` builds it: names strictly increasing, no empty group. -/
structure Table.Sorted (t : List (Bytes × List Bytes)) : Prop where
  increasing : t.Pairwise (fun a b => a.1 < b.1)
  nonempty : ∀ e ∈ t, e.2 ≠ []

theorem Table.Sorted.nil : Table.Sorted [] := ⟨List.Pairwise.nil, by simp⟩

theorem Table.Sorted.tail {e : Bytes × List Bytes} {t : List (Bytes × List Bytes)}
    (h : Table.Sorted (e :: t)) : Table.Sorted t :=
  ⟨(List.pairwise_cons.1 h.increasing).2, fun e' he => h.nonempty e' (by simp [he])⟩

/-- The groups after the first have larger names. -/
theorem Table.Sorted.lt_of_mem {e : Bytes × List Bytes} {t : List (Bytes × List Bytes)}
    (h : Table.Sorted (e :: t)) {e' : Bytes × List Bytes} (he : e' ∈ t) : e.1 < e'.1 :=
  (List.pairwise_cons.1 h.increasing).1 e' he

/-- The groups after the first carry nothing under the first name. -/
theorem Table.Sorted.valuesOf_rest {e : Bytes × List Bytes} {t : List (Bytes × List Bytes)}
    (h : Table.Sorted (e :: t)) : valuesOf e.1 (flatPairs t) = [] := by
  refine valuesOf_flatPairs_of_not_mem fun e' he heq => ?_
  have hlt := h.lt_of_mem he
  rw [heq] at hlt
  exact List.lt_irrefl _ hlt

/-- Under its first name a sorted table carries exactly the first group. -/
theorem Table.Sorted.valuesOf_head {e : Bytes × List Bytes} {t : List (Bytes × List Bytes)}
    (h : Table.Sorted (e :: t)) : valuesOf e.1 (flatPairs (e :: t)) = e.2 := by
  rw [valuesOf_flatPairs_cons, if_pos rfl, h.valuesOf_rest, List.append_nil]

/-- Under a name below all of a sorted table's names the table carries nothing. -/
theorem Table.Sorted.valuesOf_below {e : Bytes × List Bytes} {t : List (Bytes × List Bytes)}
    (h : Table.Sorted (e :: t)) {n : Bytes} (hn : n < e.1) : valuesOf n (flatPairs (e :: t)) = [] :=
  valuesOf_flatPairs_of_not_mem fun e' he heq => by
    have hle : e.1 = e'.1 ∨ e.1 < e'.1 := by
      rcases List.mem_cons.1 he with he | he
      · exact .inl (by rw [he])
      · exact .inr (h.lt_of_mem he)
    rw [heq] at hle
    rcases hle with hle | hle
    · exact List.lt_irrefl n (hle ▸ hn)
    · exact List.lt_irrefl n (List.lt_trans hn hle)

/-- A sorted table is determined by the values it carries under each name. -/
theorem Table.ext_valuesOf {t₁ t₂ : List (Bytes × List Bytes)} (h₁ : Table.Sorted t₁)
    (h₂ : Table.Sorted t₂) (h : ∀ n, valuesOf n (flatPairs t₁) = valuesOf n (flatPairs t₂)) :
    t₁ = t₂ := by
  induction t₁ generalizing t₂ with
  | nil =>
    cases t₂ with
    | nil => rfl
    | cons e₂ t₂ =>
      have := h e₂.1
      rw [h₂.valuesOf_head] at this
      exact absurd this.symm (h₂.nonempty e₂ (by simp))
  | cons e₁ t₁ ih =>
    cases t₂ with
    | nil =>
      have := h e₁.1
      rw [h₁.valuesOf_head] at this
      exact absurd this (h₁.nonempty e₁ (by simp))
    | cons e₂ t₂ =>
      -- the smaller of the two first names would carry values in one table only
      have hlt₁ : ¬e₁.1 < e₂.1 := fun hlt => by
        have := h e₁.1
        rw [h₁.valuesOf_head, h₂.valuesOf_below hlt] at this
        exact h₁.nonempty e₁ (by simp) this
      have hlt₂ : ¬e₂.1 < e₁.1 := fun hlt => by
        have := h e₂.1
        rw [h₂.valuesOf_head, h₁.valuesOf_below hlt] at this
        exact h₂.nonempty e₂ (by simp) this.symm
      have hname : e₁.1 = e₂.1 := bytes_eq_of_not_lt hlt₁ hlt₂
      have hvals : e₁.2 = e₂.2 := by
        have := h e₁.1
        rwa [h₁.valuesOf_head, hname, h₂.valuesOf_head] at this
      have hrest : t₁ = t₂ := by
        refine ih h₁.tail h₂.tail fun n => ?_
        have := h n
        rw [valuesOf_flatPairs_cons, valuesOf_flatPairs_cons, hname, hvals] at this
        exact List.append_cancel_left this
      rw [Prod.ext hname hvals, hrest]

/-! ## Building the table -/

/-- The names of a table after an insertion are its old names and the inserted one. -/
theorem mem_insertValue {n v : Bytes} {t : List (Bytes × List Bytes)} {e : Bytes × List Bytes}
    (he : e ∈ insertValue n v t) : e.1 = n ∨ ∃ e' ∈ t, e'.1 = e.1 := by
  induction t with
  | nil =>
    simp only [insertValue, List.mem_singleton] at he
    exact .inl (by rw [he])
  | cons k t ih =>
    unfold insertValue at he
    split at he
    · rcases List.mem_cons.1 he with he | he
      · exact .inr ⟨k, by simp, by rw [he]⟩
      · exact .inr ⟨e, by simp [he], rfl⟩
    · split at he
      · rcases List.mem_cons.1 he with he | he
        · exact .inl (by rw [he])
        · exact .inr ⟨e, he, rfl⟩
      · rcases List.mem_cons.1 he with he | he
        · exact .inr ⟨k, by simp, by rw [he]⟩
        · rcases ih he with h | ⟨e', he', h⟩
          · exact .inl h
          · exact .inr ⟨e', by simp [he'], h⟩

/-- Inserting a value keeps a table sorted. -/
theorem Table.Sorted.insertValue {t : List (Bytes × List Bytes)} (h : Table.Sorted t)
    (n v : Bytes) : Table.Sorted (insertValue n v t) := by
  induction t with
  | nil => exact ⟨by simp [Url.insertValue], by simp [Url.insertValue]⟩
  | cons e t ih =>
    unfold Url.insertValue
    split
    · next he =>
      refine ⟨?_, ?_⟩
      · exact List.pairwise_cons.2 ⟨fun e' he' => h.lt_of_mem he', h.tail.increasing⟩
      · intro e' he'
        rcases List.mem_cons.1 he' with he' | he'
        · simp [he']
        · exact h.nonempty e' (by simp [he'])
    · split
      · next hne hlt =>
        rw [bytesBefore_iff] at hlt
        refine ⟨List.pairwise_cons.2 ⟨fun e' he' => ?_, h.increasing⟩, fun e' he' => ?_⟩
        · rcases List.mem_cons.1 he' with he' | he'
          · exact he' ▸ hlt
          · exact List.lt_trans hlt (h.lt_of_mem he')
        · rcases List.mem_cons.1 he' with he' | he'
          · simp [he']
          · exact h.nonempty e' he'
      · next hne hnlt =>
        -- the new name comes after the first group
        rw [bytesBefore_iff] at hnlt
        have hlt : e.1 < n := by
          rcases Decidable.em (e.1 < n) with h' | h'
          · exact h'
          · exact absurd (bytes_eq_of_not_lt h' hnlt) (by simpa using hne)
        have hs := ih h.tail
        refine ⟨List.pairwise_cons.2 ⟨fun e' he' => ?_, hs.increasing⟩, fun e' he' => ?_⟩
        · rcases mem_insertValue he' with h' | ⟨e'', he'', h'⟩
          · exact h' ▸ hlt
          · exact h' ▸ h.lt_of_mem he''
        · rcases List.mem_cons.1 he' with he' | he'
          · exact he' ▸ h.nonempty e (by simp)
          · exact hs.nonempty e' he'

/-- Inserting a value adds it at the end of its name's values. -/
theorem Table.Sorted.valuesOf_insertValue {t : List (Bytes × List Bytes)} (h : Table.Sorted t)
    (m n v : Bytes) :
    valuesOf m (flatPairs (Url.insertValue n v t)) =
      valuesOf m (flatPairs t) ++ (if n = m then [v] else []) := by
  induction t with
  | nil => by_cases hnm : n = m <;> simp [Url.insertValue, flatPairs, valuesOf, hnm]
  | cons e t ih =>
    unfold Url.insertValue
    split
    · next he =>
      have he : e.1 = n := by simpa using he
      rw [valuesOf_flatPairs_cons, valuesOf_flatPairs_cons]
      by_cases hm : e.1 = m
      · -- the rest of the table has larger names, so nothing under `m`
        subst hm
        simp [← he, h.valuesOf_rest]
      · simp [hm, ← he]
    · split
      · next hne hlt =>
        rw [bytesBefore_iff] at hlt
        rw [valuesOf_flatPairs_cons]
        by_cases hm : n = m
        · subst hm
          simp [h.valuesOf_below hlt]
        · simp [hm]
      · rw [valuesOf_flatPairs_cons, valuesOf_flatPairs_cons, ih h.tail, List.append_assoc]

theorem Table.Sorted.foldl_insertValue {acc : List (Bytes × List Bytes)} (h : Table.Sorted acc)
    (ps : List (Bytes × Bytes)) :
    Table.Sorted (ps.foldl (fun acc (p : Bytes × Bytes) => Url.insertValue p.1 p.2 acc) acc) ∧
      ∀ m, valuesOf m (flatPairs (ps.foldl (fun acc (p : Bytes × Bytes) => Url.insertValue p.1 p.2 acc) acc)) =
        valuesOf m (flatPairs acc) ++ valuesOf m ps := by
  induction ps generalizing acc with
  | nil => exact ⟨h, fun m => by simp⟩
  | cons p ps ih =>
    obtain ⟨hs, hv⟩ := ih (h.insertValue p.1 p.2)
    refine ⟨hs, fun m => ?_⟩
    rw [List.foldl_cons, hv, h.valuesOf_insertValue, valuesOf_cons, List.append_assoc]

theorem groupValues_eq_foldl (ps : List (Bytes × Bytes)) :
    groupValues ps = ps.foldl (fun acc (p : Bytes × Bytes) => insertValue p.1 p.2 acc) [] := rfl

theorem groupValues_sorted (ps : List (Bytes × Bytes)) : Table.Sorted (groupValues ps) :=
  groupValues_eq_foldl ps ▸ (Table.Sorted.nil.foldl_insertValue ps).1

/-- The table of a query carries, under each name, the values the query has under it, in the
order they were read. -/
theorem valuesOf_groupValues (m : Bytes) (ps : List (Bytes × Bytes)) :
    valuesOf m (flatPairs (groupValues ps)) = valuesOf m ps := by
  simpa [groupValues_eq_foldl] using (Table.Sorted.nil.foldl_insertValue ps).2 m

/-- Two lists of pairs give the same table exactly when they carry the same values under each
name. -/
theorem groupValues_eq_iff {ps qs : List (Bytes × Bytes)} :
    groupValues ps = groupValues qs ↔ ∀ n, valuesOf n ps = valuesOf n qs := by
  constructor
  · intro h n
    rw [← valuesOf_groupValues, h, valuesOf_groupValues]
  · intro h
    exact Table.ext_valuesOf (groupValues_sorted ps) (groupValues_sorted qs) fun n => by
      rw [valuesOf_groupValues, valuesOf_groupValues, h]

/-- A list of pairs that carries nothing under any name is empty. -/
theorem eq_nil_of_valuesOf {ps : List (Bytes × Bytes)} (h : ∀ n, valuesOf n ps = []) : ps = [] := by
  cases ps with
  | nil => rfl
  | cons p ps =>
    have := h p.1
    simp [valuesOf_cons] at this

/-! ## Writing the table -/

/-- The written form of one pair: the escaped name, `=`, the escaped value. -/
def pairText (p : Bytes × Bytes) : List Char :=
  (escape p.1 .queryComponent).toList ++ '=' :: (escape p.2 .queryComponent).toList

theorem encodeValues_toList (t : List (Bytes × List Bytes)) :
    (encodeValues t).toList = ['&'].intercalate ((flatPairs t).map pairText) := by
  simp [encodeValues, String.toList_intercalate, flatPairs, List.map_flatMap, pairText,
    Function.comp_def]

theorem pairText_ne_nil (p : Bytes × Bytes) : pairText p ≠ [] := by
  simp [pairText]

theorem amp_not_mem_pairText (p : Bytes × Bytes) : '&' ∉ pairText p := by
  have hesc (bs : Bytes) : '&' ∉ (escape bs .queryComponent).toList :=
    not_mem_escape (d := 0x26) (by decide) (by decide) (by decide) bs
  simp only [pairText, List.mem_append, List.mem_cons, not_or]
  exact ⟨hesc _, by decide, hesc _⟩

/-- A written pair is cut back at its first `=`, which no escaped name holds. -/
theorem pairText_inj {p q : Bytes × Bytes} (h : pairText p = pairText q) : p = q := by
  have heq (bs : Bytes) : ∀ c ∈ (escape bs .queryComponent).toList, ¬c = '=' := fun c hc hce =>
    not_mem_escape (d := 0x3D) (by decide) (by decide) (by decide) bs (hce ▸ hc)
  obtain ⟨hn, hv⟩ := List.append_inj_of_stop (P := (· = '=')) (heq _) (heq _)
    (by simp) (by simp) h
  rw [List.cons.injEq] at hv
  exact Prod.ext (escape_inj (String.ext_iff.2 hn)) (escape_inj (String.ext_iff.2 hv.2))

/-- The written pairs are cut back at `&`. -/
theorem splitOn_pairTexts (ps : List (Bytes × Bytes)) :
    (['&'].intercalate (ps.map pairText)).splitOn '&' = if ps = [] then [[]] else ps.map pairText := by
  cases ps with
  | nil => rfl
  | cons p ps =>
    rw [if_neg (List.cons_ne_nil p ps)]
    refine List.splitOn_intercalate '&' (fun l hl => ?_) (by simp)
    obtain ⟨q, -, rfl⟩ := List.mem_map.1 hl
    exact amp_not_mem_pairText q

theorem map_pairText_inj : ∀ {ps qs : List (Bytes × Bytes)},
    ps.map pairText = qs.map pairText → ps = qs
  | [], [], _ => rfl
  | [], _ :: _, h => by simp at h
  | _ :: _, [], h => by simp at h
  | _ :: _, _ :: _, h => by
    simp only [List.map_cons, List.cons.injEq] at h
    rw [pairText_inj h.1, map_pairText_inj h.2]

/-- A written table determines its pairs. -/
theorem flatPairs_eq_of_encodeValues {t₁ t₂ : List (Bytes × List Bytes)}
    (h : encodeValues t₁ = encodeValues t₂) : flatPairs t₁ = flatPairs t₂ := by
  have hs := congrArg (List.splitOn '&') (congrArg String.toList h)
  rw [encodeValues_toList, encodeValues_toList, splitOn_pairTexts, splitOn_pairTexts] at hs
  split at hs <;> split at hs
  · next h₁ h₂ => rw [h₁, h₂]
  · next h₁ h₂ =>
    -- one table written empty, the other with a first pair, which is never empty
    obtain ⟨q, qs, hq⟩ := List.exists_cons_of_ne_nil h₂
    simp only [hq, List.map_cons, List.cons.injEq] at hs
    exact absurd hs.1.symm (pairText_ne_nil q)
  · next h₁ h₂ =>
    obtain ⟨p, ps, hp⟩ := List.exists_cons_of_ne_nil h₁
    simp only [hp, List.map_cons, List.cons.injEq] at hs
    exact absurd hs.1 (pairText_ne_nil p)
  · exact map_pairText_inj hs

@[simp] theorem queryPairs_nil : queryPairs [] = [] := by
  decide

/-- Two queries have the same canonical spelling exactly when they carry the same sequence of
values under every name. -/
theorem canonicalQuery_eq_iff {a b : Bytes} :
    canonicalQuery a = canonicalQuery b ↔ ∀ n, valuesOf n (queryPairs a) = valuesOf n (queryPairs b) := by
  constructor
  · intro h n
    rw [← valuesOf_groupValues, ← valuesOf_groupValues n (queryPairs b),
      flatPairs_eq_of_encodeValues h]
  · intro h
    unfold canonicalQuery
    rw [groupValues_eq_iff.2 h]

/-- A query spells empty exactly when it has no pair that can be read. -/
theorem canonicalQuery_eq_empty {a : Bytes} : canonicalQuery a = "" ↔ queryPairs a = [] := by
  have hempty : canonicalQuery [] = "" := by decide
  rw [← hempty, canonicalQuery_eq_iff, queryPairs_nil]
  constructor
  · intro h
    exact eq_nil_of_valuesOf h
  · intro h n
    rw [h]

end Url

end Harvest
