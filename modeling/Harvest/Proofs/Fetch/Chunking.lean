import Harvest.Proofs.Fetch.Response
import Mathlib
/-!
# Harvest.Proofs.Fetch.Chunking

What a bounded read answers, exactly, however the stream is cut into chunks.

A stream is given by the data of its reads, in order, and by how it ended: cleanly, or with a
failure. A read that hands over data together with the end of the stream is its last chunk: its
data is counted like any other chunk's before the end is looked at.

The read keeps a running total, one after each chunk (`runningTotals`). It stops at the first
running total over the limit and reports that total; when no running total is over the limit it
answers as the stream ended, with the whole stream and its length, or with the failure and the
length (`readBounded_eq`). The running totals only grow and the last is the whole length, so some
running total is over the limit exactly when the whole length is
(`exists_overCeiling_runningTotals_iff`). Within the limit the answer therefore depends on the bytes
and on how the stream ended, not on how the bytes were cut into chunks (`readBounded_contract`).
-/

namespace Harvest

/-! ## Running totals -/

/-- The totals a read reaches from `start`, one after each chunk. -/
def runningTotals (start : Nat) : List Bytes → List Nat
  | [] => []
  | c :: cs => (start + c.length) :: runningTotals (start + c.length) cs

@[simp] theorem runningTotals_nil (start : Nat) : runningTotals start [] = [] := rfl

@[simp] theorem runningTotals_cons (start : Nat) (c : Bytes) (cs : List Bytes) :
    runningTotals start (c :: cs) = (start + c.length) :: runningTotals (start + c.length) cs :=
  rfl

/-- Every running total lies between the start and the start plus the whole length. -/
theorem bounds_of_mem_runningTotals {start t : Nat} {cs : List Bytes}
    (h : t ∈ runningTotals start cs) : start ≤ t ∧ t ≤ start + cs.flatten.length := by
  induction cs generalizing start with
  | nil => simp at h
  | cons c cs ih =>
    rw [runningTotals_cons, List.mem_cons] at h
    rcases h with rfl | h
    · simp
    · obtain ⟨hlo, hhi⟩ := ih h
      simp only [List.flatten_cons, List.length_append]
      omega

/-- The last running total is the whole length. -/
theorem mem_runningTotals_of_ne_nil (start : Nat) {cs : List Bytes} (h : cs ≠ []) :
    start + cs.flatten.length ∈ runningTotals start cs := by
  induction cs generalizing start with
  | nil => exact absurd rfl h
  | cons c cs ih =>
    rw [runningTotals_cons, List.flatten_cons, List.length_append, ← Nat.add_assoc]
    cases cs with
    | nil => simp
    | cons d ds => exact List.mem_cons_of_mem _ (ih (start + c.length) (List.cons_ne_nil d ds))

/-- From a start within the limit, some running total is over the limit exactly when the start
plus the whole length is. -/
theorem exists_overCeiling_runningTotals_iff {limit : Int} {start : Nat} {cs : List Bytes}
    (hstart : ¬ OverCeiling limit start) :
    (∃ t ∈ runningTotals start cs, OverCeiling limit t) ↔
      OverCeiling limit (start + cs.flatten.length) := by
  constructor
  · rintro ⟨t, ht, hover⟩
    exact hover.mono (bounds_of_mem_runningTotals ht).2
  · intro hover
    -- a stream without chunks adds nothing to a start within the limit
    have hne : cs ≠ [] := by
      rintro rfl
      exact hstart (by simpa using hover)
    exact ⟨_, mem_runningTotals_of_ne_nil start hne, hover⟩

/-! ## The read, chunk by chunk -/

/-- From a total and the bytes taken so far, a read stops at the first running total over the
limit, and otherwise takes every chunk and answers as the stream ended. -/
theorem readBounded_go_eq (failure : Option String) (limit : Int) (cs : List Bytes) (total : Nat)
    (acc : Bytes) :
    readBounded.go failure limit cs total acc =
      match (runningTotals total cs).find? (fun n => decide (OverCeiling limit n)) with
      | some t => .exceeded t
      | none => Bounded.atEnd failure (acc ++ cs.flatten) (total + cs.flatten.length) := by
  induction cs generalizing total acc with
  | nil => cases failure <;> simp [readBounded.go, Bounded.atEnd]
  | cons c cs ih =>
    simp only [readBounded.go, runningTotals_cons, List.find?_cons]
    by_cases hc : OverCeiling limit (total + c.length)
    · -- this chunk takes the total over the limit: the read stops at it
      rw [if_pos (ceiling_check_iff.2 hc)]
      simp [hc]
    · -- the read goes on from the new total, the chunk taken
      rw [if_neg (fun h => hc (ceiling_check_iff.1 h)), ih]
      simp [hc, List.append_assoc, Nat.add_assoc]

/-- A bounded read answers with the first running total over the limit, when there is one, and
as the stream ended otherwise. -/
theorem readBounded_eq (chunks : List Bytes) (failure : Option String) (limit : Int) :
    readBounded chunks failure limit =
      match (runningTotals 0 chunks).find? (fun n => decide (OverCeiling limit n)) with
      | some t => .exceeded t
      | none => Bounded.atEnd failure chunks.flatten chunks.flatten.length := by
  rw [readBounded, readBounded_go_eq, List.nil_append, Nat.zero_add]

/-- A read passes its limit exactly when a running total is over it. -/
theorem exists_readBounded_eq_exceeded_iff (chunks : List Bytes) (failure : Option String)
    (limit : Int) :
    (∃ t, readBounded chunks failure limit = .exceeded t) ↔
      ∃ t ∈ runningTotals 0 chunks, OverCeiling limit t := by
  rw [readBounded_eq]
  cases hf : (runningTotals 0 chunks).find? (fun n => decide (OverCeiling limit n)) with
  | none =>
    simp only [Bounded.atEnd_ne_exceeded, exists_false, false_iff]
    simpa using List.find?_eq_none.1 hf
  | some t =>
    have hmem := List.mem_of_find?_eq_some hf
    have hover : OverCeiling limit t := by simpa using List.find?_some hf
    exact ⟨fun _ => ⟨t, hmem, hover⟩, fun _ => ⟨t, rfl⟩⟩

/-- A read passes its limit exactly when the whole stream is longer than the limit. -/
theorem exists_readBounded_eq_exceeded_iff_length (chunks : List Bytes) (failure : Option String)
    (limit : Int) :
    (∃ t, readBounded chunks failure limit = .exceeded t) ↔
      OverCeiling limit chunks.flatten.length := by
  rw [exists_readBounded_eq_exceeded_iff,
    exists_overCeiling_runningTotals_iff (not_overCeiling_zero limit), Nat.zero_add]

/-- A read that does not pass its limit answers as its stream ended. -/
theorem readBounded_of_not_exceeded {chunks : List Bytes} {failure : Option String} {limit : Int}
    (hno : ¬ ∃ t, readBounded chunks failure limit = .exceeded t) :
    readBounded chunks failure limit =
      Bounded.atEnd failure chunks.flatten chunks.flatten.length := by
  rw [readBounded_eq] at hno ⊢
  cases hf : (runningTotals 0 chunks).find? (fun n => decide (OverCeiling limit n)) with
  | none => rfl
  | some t =>
    rw [hf] at hno
    exact absurd ⟨t, rfl⟩ hno

/-- A bounded read of a stream, for every way the stream is cut into chunks and every way it
ends: the read passes the limit at a total `t` exactly when `t` is the first running total over
the limit; it passes the limit exactly when the limit is not negative and some running total is
over it; otherwise it answers as the stream ended, with the whole stream and its length or with
the failure and the length; and a read that stays within its limit answers the same for every
cutting of the same bytes ending the same way. -/
theorem readBounded_contract (chunks : List Bytes) (failure : Option String) (limit : Int) :
    (∀ t, readBounded chunks failure limit = .exceeded t ↔
        (runningTotals 0 chunks).find? (fun n => decide (OverCeiling limit n)) = some t) ∧
      ((∃ t, readBounded chunks failure limit = .exceeded t) ↔
        0 ≤ limit ∧ ∃ t ∈ runningTotals 0 chunks, limit < t) ∧
      ((¬ ∃ t, readBounded chunks failure limit = .exceeded t) →
        readBounded chunks failure limit =
          Bounded.atEnd failure chunks.flatten chunks.flatten.length) ∧
      (∀ chunks' : List Bytes, chunks'.flatten = chunks.flatten →
        (¬ ∃ t, readBounded chunks failure limit = .exceeded t) →
        readBounded chunks' failure limit = readBounded chunks failure limit) := by
  refine ⟨fun t => ?_, ?_, readBounded_of_not_exceeded, fun chunks' hflat hno => ?_⟩
  · rw [readBounded_eq]
    cases (runningTotals 0 chunks).find? (fun n => decide (OverCeiling limit n)) <;> simp
  · rw [exists_readBounded_eq_exceeded_iff]
    simp only [OverCeiling]
    constructor
    · rintro ⟨t, ht, h0, hlt⟩
      exact ⟨h0, t, ht, hlt⟩
    · rintro ⟨h0, t, ht, hlt⟩
      exact ⟨t, ht, h0, hlt⟩
  · -- whether the limit is passed depends on the length alone, so the other cutting stays
    -- within it too, and both read every chunk
    have hno' : ¬ ∃ t, readBounded chunks' failure limit = .exceeded t := by
      rw [exists_readBounded_eq_exceeded_iff_length, hflat,
        ← exists_readBounded_eq_exceeded_iff_length chunks failure]
      exact hno
    rw [readBounded_of_not_exceeded hno', readBounded_of_not_exceeded hno, hflat]

/-- A stream of four bytes in two chunks passes a limit of two at its second running total, four;
three bytes read within a limit of five before a failure answer the same cut after one byte or
after two. -/
theorem readBounded_contract_twoCuts :
    readBounded [[1, 2], [3, 4]] (none : Option String) 2 = .exceeded 4 ∧
      readBounded [[1], [2, 3]] (some "reset") 5 = readBounded [[1, 2], [3]] (some "reset") 5 := by
  have hover := readBounded_contract [[1, 2], [3, 4]] none 2
  have hwithin := readBounded_contract [[1, 2], [3]] (some "reset") 5
  refine ⟨(hover.1 4).2 (by decide), hwithin.2.2.2 [[1], [2, 3]] (by decide) ?_⟩
  rw [hwithin.2.1]
  decide

end Harvest
