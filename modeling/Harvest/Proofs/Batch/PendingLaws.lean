import Harvest.Proofs.Batch.PendingKeys
/-!
# Harvest.Proofs.Batch.PendingLaws

The laws of the pending set, over every sequence of operations.

What an addition appends is said without the set's running state (`Pending.admitted`): in the
order given, the trimmed text of each locator that is not blank, whose key was not pending before
the call, and whose key no earlier locator of the same call shares, blank ones apart. Those are
the locators whose key was neither pending nor appended earlier in the call
(`Pending.admits_iff_not_appended`).

A set is *sound* (`Pending.Sound`) when each entry carries the key of its locator, its locators
are trimmed and not blank, and no key is pending twice. Every operation keeps that, so every set
a sequence of operations reaches is sound, and a sound set obeys the laws (`Pending.Laws`): the
keys it holds are those of its locators, adding appends `admitted` and answers its length, taking
answers the oldest locator and frees its key, and its size is its length. `Pending.replay_laws`
gathers them over every sequence of operations.
-/

namespace Harvest

namespace Pending

/-! ## What an addition appends -/

/-- Whether an addition appends `raw`, `held` being the keys pending before the call and
`earlier` the locators before `raw` in the call: it is not blank, its key is not held, and no
earlier locator that is not blank has its key. -/
def admits (held earlier : List String) (raw : String) : Bool :=
  !(trimBlank raw).isEmpty && !held.contains (Locator.key raw) &&
    earlier.all fun r => (trimBlank r).isEmpty || Locator.key r != Locator.key raw

/-- The locators `rest` that follow `earlier` in a call, as an addition appends them. -/
def admittedAfter (held : List String) : List String → List String → List String
  | _, [] => []
  | earlier, raw :: rest =>
    if admits held earlier raw then trimBlank raw :: admittedAfter held (earlier ++ [raw]) rest
    else admittedAfter held (earlier ++ [raw]) rest

/-- What an addition of `urls` appends to a set holding the keys `held`. -/
def admitted (held urls : List String) : List String := admittedAfter held [] urls

@[simp] theorem admittedAfter_nil (held earlier : List String) :
    admittedAfter held earlier [] = [] := rfl

theorem admittedAfter_cons (held earlier : List String) (raw : String) (rest : List String) :
    admittedAfter held earlier (raw :: rest) =
      if admits held earlier raw then trimBlank raw :: admittedAfter held (earlier ++ [raw]) rest
      else admittedAfter held (earlier ++ [raw]) rest := rfl

/-- Some locator of a list, not blank, has key `k`. -/
def KeyedIn (urls : List String) (k : String) : Prop :=
  ∃ r ∈ urls, (trimBlank r).isEmpty = false ∧ Locator.key r = k

theorem not_keyedIn_nil (k : String) : ¬KeyedIn [] k := by
  simp [KeyedIn]

theorem keyedIn_cons {raw k : String} {rest : List String} :
    KeyedIn (raw :: rest) k ↔
      ((trimBlank raw).isEmpty = false ∧ Locator.key raw = k) ∨ KeyedIn rest k := by
  simp only [KeyedIn, List.mem_cons, or_and_right, exists_or, exists_eq_left]

theorem keyedIn_append_singleton {urls : List String} {raw k : String} :
    KeyedIn (urls ++ [raw]) k ↔
      KeyedIn urls k ∨ ((trimBlank raw).isEmpty = false ∧ Locator.key raw = k) := by
  simp only [KeyedIn, List.mem_append, List.mem_singleton, or_and_right, exists_or, exists_eq_left]

theorem admits_eq_true {held earlier : List String} {raw : String} :
    admits held earlier raw = true ↔
      (trimBlank raw).isEmpty = false ∧ Locator.key raw ∉ held ∧
        ¬KeyedIn earlier (Locator.key raw) := by
  simp only [admits, KeyedIn, Bool.and_eq_true, Bool.not_eq_true', List.contains_eq_mem,
    List.all_eq_true, Bool.or_eq_true, bne_iff_ne, ne_eq, and_assoc, not_exists, not_and,
    Bool.eq_false_iff, Decidable.imp_iff_not_or, Decidable.not_not, decide_eq_true_eq]

/-- The keys of what an addition appends after `earlier`: not held, the key of no earlier
locator, and the key of one of the locators that follow. -/
theorem mem_keys_admittedAfter (held : List String) (rest earlier : List String) (k : String) :
    k ∈ (admittedAfter held earlier rest).map Locator.key ↔
      k ∉ held ∧ ¬KeyedIn earlier k ∧ KeyedIn rest k := by
  induction rest generalizing earlier with
  | nil =>
    simp only [admittedAfter_nil, List.map_nil, List.not_mem_nil, false_iff]
    exact fun h => not_keyedIn_nil k h.2.2
  | cons raw rest ih =>
    rw [keyedIn_cons, admittedAfter_cons]
    by_cases hadm : admits held earlier raw = true
    · rw [if_pos hadm, List.map_cons, Locator.key_trimBlank, List.mem_cons, ih,
        keyedIn_append_singleton]
      obtain ⟨hb, hheld, hearly⟩ := admits_eq_true.1 hadm
      -- `k` is never substituted away: `Locator.key raw` is rewritten in its place
      constructor
      · rintro (hk | ⟨hh, hne, hr⟩)
        · rw [hk]
          exact ⟨hheld, hearly, .inl ⟨hb, rfl⟩⟩
        · exact ⟨hh, fun h => hne (.inl h), .inr hr⟩
      · rintro ⟨hh, hne, ⟨-, hk⟩ | hr⟩
        · exact .inl hk.symm
        · by_cases hk : k = Locator.key raw
          · exact .inl hk
          · exact .inr ⟨hh, fun h => h.elim hne (fun h' => hk h'.2.symm), hr⟩
    · rw [if_neg hadm, ih, keyedIn_append_singleton]
      constructor
      · rintro ⟨hh, hne, hr⟩
        exact ⟨hh, fun h => hne (.inl h), .inr hr⟩
      · rintro ⟨hh, hne, ⟨hb, hk⟩ | hr⟩
        · -- a locator not blank, with a key neither held nor keyed earlier, is appended
          rw [← hk] at hh hne
          exact absurd (admits_eq_true.2 ⟨hb, hh, hne⟩) hadm
        · refine ⟨hh, ?_, hr⟩
          rintro (h | ⟨hb, hk⟩)
          · exact hne h
          · rw [← hk] at hh hne
            exact hadm (admits_eq_true.2 ⟨hb, hh, hne⟩)

/-- The locators an addition appends are those `admits` lets through: a locator is appended
exactly when it is not blank and its key is neither pending nor that of a locator appended
earlier in the same call. -/
theorem admits_iff_not_appended (held earlier : List String) (raw : String) :
    admits held earlier raw = true ↔
      (trimBlank raw).isEmpty = false ∧ Locator.key raw ∉ held ∧
        Locator.key raw ∉ (admitted held earlier).map Locator.key := by
  rw [admits_eq_true, admitted, mem_keys_admittedAfter]
  constructor
  · rintro ⟨hb, hheld, hearly⟩
    exact ⟨hb, hheld, fun h => hearly h.2.2⟩
  · rintro ⟨hb, hheld, happ⟩
    exact ⟨hb, hheld, fun h => happ ⟨hheld, not_keyedIn_nil _, h⟩⟩

/-! ## Adding follows `admitted` -/

/-- One step of an addition, with its two cases: the locator is appended when it is not blank
and its key is not held. -/
theorem addOne_eq (acc : Pending × Nat) (raw : String) :
    addOne acc raw =
      if (trimBlank raw).isEmpty = false ∧ Locator.key raw ∉ acc.1.keys then
        (⟨acc.1.entries ++ [entryOf raw]⟩, acc.2 + 1)
      else acc := by
  unfold addOne
  dsimp only
  rw [Locator.key_trimBlank]
  by_cases hb : (trimBlank raw).isEmpty = true
  · simp [hb]
  · by_cases hk : Locator.key raw ∈ acc.1.keys
    · simp [hb, hk]
    · simp [hb, hk, entryOf, Locator.key_trimBlank]

/-- The keys held while an addition runs: those held before it, and those of the locators taken
so far that are not blank. -/
def HoldsAfter (held earlier : List String) (acc : Pending × Nat) : Prop :=
  ∀ k, k ∈ acc.1.keys ↔ k ∈ held ∨ KeyedIn earlier k

theorem HoldsAfter.addOne {held earlier : List String} {acc : Pending × Nat}
    (h : HoldsAfter held earlier acc) (raw : String) :
    HoldsAfter held (earlier ++ [raw]) (addOne acc raw) := by
  intro k
  rw [mem_keys_addOne, h k, keyedIn_append_singleton, or_assoc]

/-- Under `HoldsAfter`, `admits` is the step's own test. -/
theorem HoldsAfter.admits_iff {held earlier : List String} {acc : Pending × Nat}
    (h : HoldsAfter held earlier acc) (raw : String) :
    admits held earlier raw = true ↔
      (trimBlank raw).isEmpty = false ∧ Locator.key raw ∉ acc.1.keys := by
  rw [admits_eq_true, h, not_or]

/-- An addition run from `acc` over `rest`, after `earlier`, appends `admittedAfter` and counts
it. -/
theorem foldl_addOne_admitted (held : List String) (rest earlier : List String)
    (acc : Pending × Nat) (h : HoldsAfter held earlier acc) :
    (rest.foldl addOne acc).1.toList = acc.1.toList ++ admittedAfter held earlier rest ∧
      (rest.foldl addOne acc).2 = acc.2 + (admittedAfter held earlier rest).length := by
  induction rest generalizing earlier acc with
  | nil => simp [admittedAfter]
  | cons raw rest ih =>
    obtain ⟨ht, hc⟩ := ih (earlier ++ [raw]) (addOne acc raw) (h.addOne raw)
    rw [List.foldl_cons, ht, hc, admittedAfter_cons]
    by_cases hadm : admits held earlier raw = true
    · -- appended: the entry of `raw` goes to the back and the count grows by one
      rw [if_pos hadm, addOne_eq, if_pos ((h.admits_iff raw).1 hadm)]
      simp [toList, entryOf, Nat.add_assoc, Nat.add_comm 1]
    · rw [if_neg hadm, addOne_eq, if_neg (mt (h.admits_iff raw).2 hadm)]
      exact ⟨rfl, rfl⟩

/-- An addition to a well-formed set appends `admitted` of the keys of its locators. -/
theorem Wf.add_toList {p : Pending} (hw : p.Wf) (urls : List String) :
    (p.add urls).1.toList = p.toList ++ admitted (p.toList.map Locator.key) urls ∧
      (p.add urls).2 = (admitted (p.toList.map Locator.key) urls).length := by
  have h : HoldsAfter (p.toList.map Locator.key) [] (p, 0) := by
    intro k
    rw [hw.keys_eq]
    exact ⟨.inl, fun h => h.elim id (fun h' => absurd h' (not_keyedIn_nil k))⟩
  obtain ⟨ht, hc⟩ := foldl_addOne_admitted _ urls [] (p, 0) h
  exact ⟨ht, by rw [Pending.add, hc, Nat.zero_add, admitted]⟩

/-! ## Sound sets -/

/-- A sound pending set: each entry carries the key of its locator, no locator is blank, each
is trimmed, and no key is held twice. -/
structure Sound (p : Pending) : Prop where
  wf : p.Wf
  trimmed : ∀ u ∈ p.toList, trimBlank u = u
  nodup : p.keys.Nodup

theorem sound_empty : empty.Sound :=
  ⟨wf_empty, by simp [empty, toList], by simp [empty, keys]⟩

/-- A step of an addition appends a key only when it is not held. -/
theorem nodup_keys_addOne {acc : Pending × Nat} (h : acc.1.keys.Nodup) (raw : String) :
    (addOne acc raw).1.keys.Nodup := by
  rw [addOne_eq]
  split
  · next hnew =>
    simp only [keys, List.map_append, List.map_cons, List.map_nil]
    refine List.nodup_append.2 ⟨h, List.nodup_cons.2 ⟨List.not_mem_nil, List.nodup_nil⟩, ?_⟩
    intro a ha b hb hab
    -- the appended key is the key of `raw`, which was not held
    simp only [List.mem_singleton, entryOf, Locator.key_trimBlank] at hb
    exact hnew.2 (by rw [keys, ← hb, ← hab]; exact ha)
  · exact h

theorem Sound.add {p : Pending} (hs : p.Sound) (urls : List String) : (p.add urls).1.Sound where
  wf := hs.wf.add urls
  trimmed := by
    obtain ⟨new, he, -, hm⟩ := add_entries p urls
    intro u hu
    simp only [toList, he, List.map_append, List.mem_append, List.mem_map] at hu
    rcases hu with ⟨e, he', rfl⟩ | ⟨e, he', rfl⟩
    · exact hs.trimmed _ (List.mem_map_of_mem he')
    · obtain ⟨raw, -, rfl, -⟩ := hm e he'
      exact trimBlank_trimBlank raw
  nodup := by
    have key : ∀ (rest : List String) (acc : Pending × Nat), acc.1.keys.Nodup →
        (rest.foldl addOne acc).1.keys.Nodup := by
      intro rest
      induction rest with
      | nil => exact fun _ h => h
      | cons raw rest ih =>
        intro acc h
        rw [List.foldl_cons]
        exact ih _ (nodup_keys_addOne h raw)
    exact key urls (p, 0) hs.nodup

theorem Sound.of_pop {p q : Pending} {u : Option String} (hs : p.Sound) (hp : p.pop = (u, q)) :
    q.Sound := by
  unfold pop at hp
  split at hp
  · cases hp
    exact hs
  · next v k rest he =>
    cases hp
    refine ⟨hs.wf.of_pop (u := some v) (by simp [pop, he]), ?_, ?_⟩
    · intro w hw
      exact hs.trimmed w (by simp [toList, he] at hw ⊢; exact Or.inr hw)
    · have h := hs.nodup
      simp only [keys, he, List.map_cons] at h
      exact (List.nodup_cons.1 h).2

theorem Sound.exec {p : Pending} (hs : p.Sound) (c : Command) : (p.exec c).1.Sound := by
  cases c with
  | replace urls => exact sound_empty.add urls
  | add urls => exact hs.add urls
  | pop => exact hs.of_pop (q := (p.pop).2) (u := (p.pop).1) rfl
  | size => exact hs
  | clear => exact sound_empty
  | list => exact hs

/-- The pending set a sequence of operations leads to from the empty one. -/
def replay (cmds : List Command) : Pending := cmds.foldl (fun p c => (p.exec c).1) empty

theorem replay_sound (cmds : List Command) : (replay cmds).Sound := by
  unfold replay
  -- every operation keeps soundness, so the whole fold does
  suffices h : ∀ p : Pending, p.Sound → (cmds.foldl (fun p c => (p.exec c).1) p).Sound from
    h empty sound_empty
  induction cmds with
  | nil => exact fun _ h => h
  | cons c cmds ih => exact fun p h => ih _ (h.exec c)

/-! ## The laws -/

/-- The laws of a pending set `p`. -/
structure Laws (p : Pending) : Prop where
  /-- No key is pending twice. -/
  nodup : (p.toList.map Locator.key).Nodup
  /-- The keys held are exactly those of the pending locators. -/
  keys_eq : p.keys = p.toList.map Locator.key
  /-- An addition appends, in the order given, what `admitted` says, and answers how many. -/
  add : ∀ urls, (p.add urls).1.toList = p.toList ++ admitted (p.toList.map Locator.key) urls ∧
    (p.add urls).2 = (admitted (p.toList.map Locator.key) urls).length
  /-- Taking from an empty set answers nothing and changes nothing. -/
  pop_empty : p.toList = [] → p.pop = (none, p)
  /-- Taking answers the oldest locator and removes it; its key is free again, so any locator
  with that key, not blank, is appended by a later addition. -/
  pop_oldest : ∀ u rest, p.toList = u :: rest → ∃ q, p.pop = (some u, q) ∧ q.toList = rest ∧
    Locator.key u ∉ q.keys ∧ ∀ v, Locator.key v = Locator.key u → (trimBlank v).isEmpty = false →
      (q.add [v]).1.toList = rest ++ [trimBlank v] ∧ (q.add [v]).2 = 1
  /-- The size is the number of pending locators. -/
  size_eq : p.size = p.toList.length

/-- Taking from a set whose oldest entry is `(u, k)`. -/
theorem pop_of_entries {p : Pending} {u k : String} {rest : List (String × String)}
    (he : p.entries = (u, k) :: rest) : p.pop = (some u, ⟨rest⟩) := by
  simp [pop, he]

/-- Adding one locator whose key is not pending to a sound set appends its trimmed text. -/
theorem Sound.add_single {q : Pending} (hs : q.Sound) {v : String}
    (hb : (trimBlank v).isEmpty = false) (hk : Locator.key v ∉ q.toList.map Locator.key) :
    (q.add [v]).1.toList = q.toList ++ [trimBlank v] ∧ (q.add [v]).2 = 1 := by
  have hadm : admits (q.toList.map Locator.key) [] v = true :=
    admits_eq_true.2 ⟨hb, hk, by simp [KeyedIn]⟩
  have hone : admitted (q.toList.map Locator.key) [v] = [trimBlank v] := by
    simp [admitted, admittedAfter, hadm]
  obtain ⟨ht, hc⟩ := hs.wf.add_toList [v]
  rw [hone] at ht hc
  exact ⟨ht, hc⟩

theorem Sound.lawful {p : Pending} (hs : p.Sound) : Laws p where
  nodup := hs.wf.keys_eq ▸ hs.nodup
  keys_eq := hs.wf.keys_eq
  add urls := hs.wf.add_toList urls
  pop_empty h := by
    have he : p.entries = [] := by simpa [toList] using h
    simp [pop, he]
  pop_oldest u rest h := by
    obtain ⟨⟨u', k⟩, erest, he, hu, hrest⟩ : ∃ e erest, p.entries = e :: erest ∧ e.1 = u ∧
        erest.map (·.1) = rest := by
      cases hent : p.entries with
      | nil => simp [toList, hent] at h
      | cons e erest =>
        simp only [toList, hent, List.map_cons, List.cons.injEq] at h
        exact ⟨e, erest, rfl, h.1, h.2⟩
    subst hu
    have hq : (⟨erest⟩ : Pending).Sound := hs.of_pop (pop_of_entries he)
    -- the key of the oldest entry is not held by any later one
    have hfree : Locator.key u' ∉ (⟨erest⟩ : Pending).keys := by
      have hk : k = Locator.key u' := (hs.wf (u', k) (by simp [he])).1
      have hnd := hs.nodup
      simp only [keys, he, List.map_cons] at hnd
      rw [← hk]
      exact (List.nodup_cons.1 hnd).1
    refine ⟨⟨erest⟩, pop_of_entries he, hrest, hfree, ?_⟩
    intro v hv hb
    have hk : Locator.key v ∉ (⟨erest⟩ : Pending).toList.map Locator.key := by
      rw [← hq.wf.keys_eq, hv]
      exact hfree
    have := hq.add_single hb hk
    rwa [show (⟨erest⟩ : Pending).toList = rest from hrest] at this
  size_eq := size_eq_length_toList p

/-- Every pending set that a sequence of operations reaches from the empty one, whatever the
operations, obeys the laws. -/
theorem replay_laws (cmds : List Command) : Laws (replay cmds) := (replay_sound cmds).lawful

end Pending

end Harvest
