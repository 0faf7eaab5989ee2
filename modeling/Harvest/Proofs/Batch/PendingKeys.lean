import Harvest.Batch.Pending
import Harvest.Proofs.Text.Ascii
/-!
# Harvest.Proofs.Batch.PendingKeys

What an addition to the pending set appends, and which keys a pending set holds.

An addition appends, for some of the locators it is given, their trimmed text with its key, and
never more entries than locators (`Pending.add_entries`, `Pending.size_add_le`); trimming keeps
the key (`Locator.key_trimBlank`). A pending set is *well formed* (`Pending.Wf`) when each entry
carries the key of its locator and no locator is blank: so is every set built by additions, and
taking keeps it. After an addition to a well-formed set, a key is pending exactly when it was
pending before or is the key of a locator added that is not blank (`Pending.mem_keys_add`).
-/

namespace Harvest

/-- Trimming a locator keeps its key: the key is taken of the trimmed text. -/
theorem Locator.key_trimBlank (u : String) : Locator.key (trimBlank u) = Locator.key u := by
  unfold Locator.key
  rw [trimBlank_trimBlank]

namespace Pending

/-- The entry an addition appends for a locator: its trimmed text and that text's key. -/
def entryOf (raw : String) : String × String := (trimBlank raw, Locator.key (trimBlank raw))

/-- Each step of an addition appends nothing, or the entry of a locator that is not blank. -/
theorem addOne_cases (acc : Pending × Nat) (raw : String) :
    addOne acc raw = acc ∨
      ((trimBlank raw).isEmpty = false ∧
        addOne acc raw = (⟨acc.1.entries ++ [entryOf raw]⟩, acc.2 + 1)) := by
  unfold addOne
  dsimp only
  split
  · exact .inl rfl
  · next hb =>
    split
    · exact .inl rfl
    · exact .inr ⟨by simpa using hb, rfl⟩

/-- A run of additions appends entries of the locators it was given, no more than it was given,
none of them blank. -/
theorem foldl_addOne_entries (urls : List String) (acc : Pending × Nat) :
    ∃ new, (urls.foldl addOne acc).1.entries = acc.1.entries ++ new ∧
      new.length ≤ urls.length ∧
      ∀ e ∈ new, ∃ raw ∈ urls, e = entryOf raw ∧ (trimBlank raw).isEmpty = false := by
  induction urls generalizing acc with
  | nil => exact ⟨[], by simp, by simp, by simp⟩
  | cons raw rest ih =>
    rw [List.foldl_cons]
    rcases addOne_cases acc raw with h | ⟨hb, h⟩
    · -- the locator was skipped: what follows appends the rest
      obtain ⟨new, he, hl, hm⟩ := ih acc
      refine ⟨new, by rw [h, he], by simp; omega, fun e he' => ?_⟩
      obtain ⟨r, hr, hre⟩ := hm e he'
      exact ⟨r, List.mem_cons_of_mem _ hr, hre⟩
    · obtain ⟨new, he, hl, hm⟩ := ih (⟨acc.1.entries ++ [entryOf raw]⟩, acc.2 + 1)
      refine ⟨entryOf raw :: new, by rw [h, he]; simp, by simp; omega, ?_⟩
      intro e he'
      rcases List.mem_cons.1 he' with rfl | he'
      · exact ⟨raw, List.mem_cons_self, rfl, hb⟩
      · obtain ⟨r, hr, hre⟩ := hm e he'
        exact ⟨r, List.mem_cons_of_mem _ hr, hre⟩

/-- An addition appends entries of the locators it was given, no more than it was given, none
of them blank. -/
theorem add_entries (p : Pending) (urls : List String) :
    ∃ new, (p.add urls).1.entries = p.entries ++ new ∧ new.length ≤ urls.length ∧
      ∀ e ∈ new, ∃ raw ∈ urls, e = entryOf raw ∧ (trimBlank raw).isEmpty = false :=
  foldl_addOne_entries urls (p, 0)

/-- An addition grows the set by at most the number of locators it is given. -/
theorem size_add_le (p : Pending) (urls : List String) :
    (p.add urls).1.size ≤ p.size + urls.length := by
  obtain ⟨new, he, hl, -⟩ := add_entries p urls
  simp only [size, he, List.length_append]
  omega

/-- A locator an addition appends is the trimmed text of one it was given, and has that one's
key. -/
theorem mem_add_appended {p : Pending} {urls : List String} {u : String}
    (hu : u ∈ (p.add urls).1.toList.drop p.size) :
    ∃ raw ∈ urls, u = trimBlank raw ∧ Locator.key u = Locator.key raw := by
  obtain ⟨new, he, -, hm⟩ := add_entries p urls
  have hdrop : (p.add urls).1.toList.drop p.size = new.map (·.1) := by
    simp [toList, he, size]
  rw [hdrop, List.mem_map] at hu
  obtain ⟨e, he', rfl⟩ := hu
  obtain ⟨raw, hraw, rfl, -⟩ := hm e he'
  exact ⟨raw, hraw, rfl, Locator.key_trimBlank raw⟩

/-! ## Keys of a pending set -/

/-- A step of an addition holds the keys held before and the key of its locator when that is not
blank. -/
theorem mem_keys_addOne (acc : Pending × Nat) (raw k : String) :
    k ∈ (addOne acc raw).1.keys ↔
      k ∈ acc.1.keys ∨ ((trimBlank raw).isEmpty = false ∧ Locator.key raw = k) := by
  unfold addOne
  dsimp only
  split
  · next hb => simp [hb]
  · split
    · next hk =>
      -- the key of the locator was held already
      rw [Locator.key_trimBlank] at hk
      constructor
      · exact Or.inl
      · rintro (hm | ⟨-, rfl⟩)
        · exact hm
        · simpa using hk
    · next hb _ =>
      simp [keys, Locator.key_trimBlank, hb, eq_comm]

theorem mem_keys_foldl_addOne (urls : List String) (acc : Pending × Nat) (k : String) :
    k ∈ (urls.foldl addOne acc).1.keys ↔
      k ∈ acc.1.keys ∨ ∃ raw ∈ urls, (trimBlank raw).isEmpty = false ∧ Locator.key raw = k := by
  induction urls generalizing acc with
  | nil => simp
  | cons raw rest ih =>
    rw [List.foldl_cons, ih, mem_keys_addOne]
    simp only [List.mem_cons, exists_eq_or_imp, or_assoc]

/-- A pending set is well formed when each entry carries the key of its locator and no locator
is blank, as every set built by additions is. -/
def Wf (p : Pending) : Prop :=
  ∀ e ∈ p.entries, e.2 = Locator.key e.1 ∧ (trimBlank e.1).isEmpty = false

/-- The keys a well-formed set holds are the keys of its locators. -/
theorem Wf.keys_eq {p : Pending} (hw : p.Wf) : p.keys = p.toList.map Locator.key := by
  simp only [keys, toList, List.map_map]
  apply List.map_congr_left
  intro e he
  simp only [Function.comp_apply]
  exact (hw e he).1

theorem Wf.add {p : Pending} (hw : p.Wf) (urls : List String) : (p.add urls).1.Wf := by
  obtain ⟨new, he, -, hm⟩ := add_entries p urls
  intro e hmem
  rw [he, List.mem_append] at hmem
  rcases hmem with hmem | hmem
  · exact hw e hmem
  · obtain ⟨raw, -, rfl, hb⟩ := hm e hmem
    simp only [entryOf, trimBlank_trimBlank]
    exact ⟨trivial, hb⟩

/-- No locator of a well-formed set is blank. -/
theorem Wf.nonblank {p : Pending} (hw : p.Wf) {u : String} (hu : u ∈ p.toList) :
    (trimBlank u).isEmpty = false := by
  obtain ⟨e, he, rfl⟩ := List.mem_map.1 hu
  exact (hw e he).2

theorem wf_empty : empty.Wf := by simp [Wf, empty]

theorem wf_ofList (urls : List String) : (ofList urls).Wf := wf_empty.add urls

theorem Wf.of_pop {p q : Pending} {u : Option String} (hw : p.Wf) (hp : p.pop = (u, q)) :
    q.Wf := by
  unfold pop at hp
  split at hp
  · cases hp
    exact hw
  · next v k rest he =>
    cases hp
    intro e hmem
    exact hw e (by rw [he]; exact List.mem_cons_of_mem _ hmem)

/-- After an addition to a well-formed set, a key is pending exactly when it was before or is
the key of a locator added that is not blank. -/
theorem mem_keys_add {p : Pending} (hw : p.Wf) (urls : List String) (k : String) :
    k ∈ (p.add urls).1.toList.map Locator.key ↔
      k ∈ p.toList.map Locator.key ∨
        ∃ raw ∈ urls, (trimBlank raw).isEmpty = false ∧ Locator.key raw = k := by
  rw [← (hw.add urls).keys_eq, ← hw.keys_eq]
  exact mem_keys_foldl_addOne urls (p, 0) k

end Pending

end Harvest
