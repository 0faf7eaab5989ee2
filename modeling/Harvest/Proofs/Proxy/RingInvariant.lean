import Harvest.Proxy.Ring
import Mathlib.Data.List.Rotate
/-!
# Harvest.Proofs.Proxy.RingInvariant

What every sequence of operations on a proxy ring keeps, whatever the probes answer.

A ring built by `Ring.build` is *well formed* (`Ring.Wf`): no endpoint twice, no zero endpoint,
no endpoint both live and evicted, and disabled exactly when it holds no endpoint. Each operation
keeps that, never takes an endpoint back from the evicted ones, keeps every endpoint it neither
evicts nor adds (`Ring.Moves`), and keeps the cyclic order of the endpoints it keeps: restricted to
the endpoints live both before and after, the ring afterwards is a rotation of the ring before
(`Ring.isRotated_filter_of_sublist`). Evicting every endpoint is for good.

`Ring.Reaches.laws` gathers this over every run from a built ring.
-/

namespace Harvest

namespace Ring

/-! ## Filtering keeps rotations -/

/-- Filtering two rotations of a list by one predicate gives two rotations. -/
theorem isRotated_filter {α : Type} {l l' : List α} (h : l.IsRotated l') (p : α → Bool) :
    (l.filter p).IsRotated (l'.filter p) := by
  obtain ⟨k, hk, rfl⟩ := List.isRotated_iff_mod.mp h
  rw [List.rotate_eq_drop_append_take hk, List.filter_append]
  have hsplit : l.filter p = (l.take k).filter p ++ (l.drop k).filter p := by
    rw [← List.filter_append, List.take_append_drop]
  rw [hsplit]
  exact List.isRotated_append

/-- A sublist of a list without repeats is what the list keeps of its own members. -/
theorem filter_mem_of_sublist {l₁ l₂ : List Endpoint} (hs : l₁.Sublist l₂) (hnd : l₂.Nodup) :
    l₂.filter (· ∈ l₁) = l₁ := by
  induction hs with
  | slnil => rfl
  | @cons l₁ l₂ a hs ih =>
    -- `a` was dropped, and it is nowhere else in `l₂`
    have ha : a ∉ l₁ := fun hm => (List.nodup_cons.1 hnd).1 (hs.subset hm)
    simp [ha, ih (List.nodup_cons.1 hnd).2]
  | @cons_cons l₁ l₂ a hs ih =>
    obtain ⟨ha, hnd'⟩ := List.nodup_cons.1 hnd
    have hrest : l₂.filter (· ∈ a :: l₁) = l₂.filter (· ∈ l₁) := by
      apply List.filter_congr
      intro x hx
      have hxa : x ≠ a := fun he => ha (he ▸ hx)
      simp [hxa]
    rw [List.filter_cons_of_pos (by simp), hrest, ih hnd']

/-- When an operation keeps some endpoints of a ring in order (`mid`) and adds new ones
(`extra`), up to a rotation, then the endpoints live before and after keep their cyclic
order. -/
theorem isRotated_filter_of_sublist {before mid extra after : List Endpoint}
    (hnd : before.Nodup) (hsub : mid.Sublist before) (hext : ∀ x ∈ extra, x ∉ before)
    (hrot : after.IsRotated (mid ++ extra)) :
    (after.filter (· ∈ before)).IsRotated (before.filter (· ∈ after)) := by
  have hkept : (mid ++ extra).filter (· ∈ before) = mid := by
    rw [List.filter_append, List.filter_eq_self.2 (fun x hx => by simpa using hsub.subset hx),
      List.filter_eq_nil_iff.2 (fun x hx => by simpa using hext x hx), List.append_nil]
  have hsame : before.filter (· ∈ after) = mid := by
    rw [← filter_mem_of_sublist hsub hnd]
    apply List.filter_congr
    intro x hx
    -- a member of `before` is in `after` exactly when it was kept
    have hx' : x ∉ extra := fun he => hext x he hx
    simp [hrot.mem_iff, hx']
  rw [hsame, ← hkept]
  exact isRotated_filter hrot _

/-! ## Well-formed rings -/

/-- A well-formed ring: no endpoint twice, no zero endpoint, no live endpoint also evicted, and
disabled exactly when empty. -/
structure Wf (r : Ring) : Prop where
  nodup : r.members.Nodup
  nonZero : ∀ e ∈ r.members, e.isZero = false
  disjoint : ∀ e ∈ r.members, e ∉ r.evicted
  disabled_iff : r.disabled = true ↔ r.members = []

theorem mem_distinctNonZero {l seen : List Endpoint} {e : Endpoint}
    (h : e ∈ distinctNonZero l seen) : e.isZero = false ∧ e ∉ seen := by
  induction l generalizing seen with
  | nil => simp [distinctNonZero] at h
  | cons x xs ih =>
    unfold distinctNonZero at h
    split at h
    · exact ih h
    · next hx =>
      rcases List.mem_cons.1 h with rfl | h
      · simpa using hx
      · obtain ⟨hz, hs⟩ := ih h
        exact ⟨hz, fun hm => hs (List.mem_cons_of_mem _ hm)⟩

theorem nodup_distinctNonZero (l seen : List Endpoint) : (distinctNonZero l seen).Nodup := by
  induction l generalizing seen with
  | nil => simp [distinctNonZero]
  | cons x xs ih =>
    unfold distinctNonZero
    split
    · exact ih seen
    · -- the kept endpoint is marked seen, so it is not kept again
      exact List.nodup_cons.2 ⟨fun hm => (mem_distinctNonZero hm).2 List.mem_cons_self, ih _⟩

theorem wf_build (endpoints : List Endpoint) (cadence : Int) : Wf (build endpoints cadence) where
  nodup := nodup_distinctNonZero endpoints []
  nonZero _ he := (mem_distinctNonZero he).1
  disjoint _ _ := List.not_mem_nil
  disabled_iff := by simp [build]

/-! ## Operations one at a time -/

/-- The ring after one operation, the probes of a reported success answering as `l` says. -/
def apply (l : Liveness) (r : Ring) : Command → Ring
  | .rotate => r.rotate
  | .rotateAway e => r.rotateAway e
  | .evict e => (r.evict e).1
  | .add e => (r.add e).1
  | .recordSuccess e => (r.recordSuccess l e).1
  | _ => r

/-- Running an operation on a ring leaves the ring `apply` gives. -/
theorem exec_some (l : Liveness) (r : Ring) (c : Command) :
    (exec l (some r) c).1 = some (r.apply l c) := by
  cases c <;> rfl

/-- The endpoint an operation added: the one an accepted `add` names. -/
def addedBy (r : Ring) : Command → List Endpoint
  | .add e => if (r.add e).2 then [e] else []
  | _ => []

/-- The rings a sequence of operations leads to from `r₀`, with the endpoints it added; the
probes of each operation answer as they may. -/
inductive Reaches (r₀ : Ring) : List Endpoint → Ring → Prop
  | refl : Reaches r₀ [] r₀
  | step {added : List Endpoint} {r : Ring} (l : Liveness) (c : Command) :
      Reaches r₀ added r → Reaches r₀ (added ++ r.addedBy c) (r.apply l c)

/-! ## Evicting and turning -/

section Moves

variable {r r' r'' : Ring}

/-- Turning the endpoints of a well-formed ring, and nothing else, keeps it well formed. -/
theorem Wf.of_isRotated (hw : Wf r) (hr : r'.members.IsRotated r.members)
    (he : r'.evicted = r.evicted) (hd : r'.disabled = r.disabled) : Wf r' where
  nodup := hr.nodup_iff.2 hw.nodup
  nonZero x hx := hw.nonZero x (hr.mem_iff.1 hx)
  disjoint x hx := he ▸ hw.disjoint x (hr.mem_iff.1 hx)
  disabled_iff := by
    rw [hd, hw.disabled_iff]
    constructor
    · intro h0
      rw [h0] at hr
      exact List.isRotated_nil_iff.1 hr
    · intro h0
      rw [h0] at hr
      exact (List.isRotated_nil_iff'.1 hr).symm

@[simp] theorem turn_evicted (r : Ring) (i : Nat) : (r.turn i).evicted = r.evicted := rfl

@[simp] theorem turn_disabled (r : Ring) (i : Nat) : (r.turn i).disabled = r.disabled := rfl

theorem isRotated_turn (r : Ring) (i : Nat) : (r.turn i).members.IsRotated r.members := by
  have h : (r.members.take i ++ r.members.drop i).IsRotated
      (r.members.drop i ++ r.members.take i) := List.isRotated_append
  rw [List.take_append_drop] at h
  exact h.symm

/-- What evicting does to a well-formed ring: it stays well formed, endpoints move from the ring
to the end of the evicted ones, and the others keep their order. -/
structure Shrinks (r r' : Ring) : Prop where
  wf : Wf r'
  perm : (r'.members ++ r'.evicted).Perm (r.members ++ r.evicted)
  evicted : r.evicted.IsPrefix r'.evicted
  sublist : r'.members.Sublist r.members

theorem Shrinks.refl (hw : Wf r) : Shrinks r r :=
  ⟨hw, .refl _, List.prefix_refl _, .refl _⟩

theorem Shrinks.trans (h₁ : Shrinks r r') (h₂ : Shrinks r' r'') : Shrinks r r'' :=
  ⟨h₂.wf, h₂.perm.trans h₁.perm, h₁.evicted.trans h₂.evicted, h₂.sublist.trans h₁.sublist⟩

/-- Setting the success count changes nothing else. -/
theorem Shrinks.successes (hw : Wf r) (k : Nat) : Shrinks r { r with successes := k } :=
  ⟨⟨hw.nodup, hw.nonZero, hw.disjoint, hw.disabled_iff⟩, .refl _, List.prefix_refl _, .refl _⟩

theorem shrinks_evict (hw : Wf r) (e : Endpoint) : Shrinks r (r.evict e).1 := by
  unfold evict
  split
  · next hc =>
    have hm : e ∈ r.members := by simpa using hc
    -- the ring held `e`, so it was enabled
    have hd : r.disabled = false := by
      cases hdis : r.disabled
      · rfl
      · exact absurd (hw.disabled_iff.1 hdis) (List.ne_nil_of_mem hm)
    refine ⟨⟨hw.nodup.sublist List.erase_sublist,
      fun x hx => hw.nonZero x (List.erase_sublist.subset hx), ?_, ?_⟩, ?_, ⟨[e], rfl⟩,
      List.erase_sublist⟩
    · intro x hx
      have hx' := hw.nodup.mem_erase_iff.1 hx
      simp only [List.mem_append, List.mem_singleton, not_or]
      exact ⟨hw.disjoint x hx'.2, hx'.1⟩
    · simp [hd]
    · -- `e` moves from the ring to the back of the evicted ones
      have h₁ : (r.members.erase e ++ (r.evicted ++ [e])).Perm
          (e :: (r.members.erase e ++ r.evicted)) := by
        rw [← List.append_assoc]
        exact List.perm_append_singleton _ _
      exact h₁.trans ((List.perm_cons_erase hm).symm.append_right _)
  · exact Shrinks.refl hw

theorem shrinks_evictAll (hw : Wf r) (ds : List Endpoint) : Shrinks r (r.evictAll ds) := by
  induction ds generalizing r with
  | nil => exact Shrinks.refl hw
  | cons d ds ih =>
    have h₁ := shrinks_evict hw d
    exact h₁.trans (ih h₁.wf)

/-- What one operation does to a well-formed ring `r`, leading to `r'` and adding `added`: the
ring stays well formed; its endpoints, live or evicted, are those of before and the added ones;
the evicted ones only grow; the endpoints it keeps keep their order, up to a turn; and a ring
emptied by eviction stays empty. -/
structure Moves (r r' : Ring) (added : List Endpoint) : Prop where
  wf : Wf r'
  perm : (r'.members ++ r'.evicted).Perm (r.members ++ r.evicted ++ added)
  evicted : r.evicted.IsPrefix r'.evicted
  order : ∃ mid extra, mid.Sublist r.members ∧ (∀ x ∈ extra, x ∉ r.members) ∧
    r'.members.IsRotated (mid ++ extra)
  dead : r.members = [] → r.evicted ≠ [] → r'.members = []

/-- Evicting empties a ring only when it was empty already. -/
theorem Shrinks.members_eq_nil (h : Shrinks r r') (hm : r.members = []) : r'.members = [] := by
  have hs := h.sublist
  rw [hm] at hs
  exact List.eq_nil_of_sublist_nil hs

theorem Shrinks.moves (h : Shrinks r r') : Moves r r' [] where
  wf := h.wf
  perm := by simpa using h.perm
  evicted := h.evicted
  order := ⟨r'.members, [], h.sublist, by simp, by simpa using List.IsRotated.refl r'.members⟩
  dead hm _ := h.members_eq_nil hm

theorem Shrinks.moves_turn (h : Shrinks r r') (i : Nat) : Moves r (r'.turn i) [] where
  wf := h.wf.of_isRotated (isRotated_turn r' i) rfl rfl
  perm := by simpa using ((isRotated_turn r' i).perm.append_right r'.evicted).trans h.perm
  evicted := h.evicted
  order := ⟨r'.members, [], h.sublist, by simp, by simpa using isRotated_turn r' i⟩
  dead hm _ := by
    have hr := isRotated_turn r' i
    rw [h.members_eq_nil hm] at hr
    exact List.isRotated_nil_iff.1 hr

theorem moves_rotate (hw : Wf r) : Moves r r.rotate [] := by
  unfold rotate
  split
  · next h x xs hm =>
    -- two endpoints or more: the head goes to the back, a turn by one place
    have ht : { r with members := (x :: xs) ++ [h], successes := 0 } = r.turn 1 := by
      simp [turn, hm]
    rw [ht]
    exact (Shrinks.refl hw).moves_turn 1
  · exact (Shrinks.refl hw).moves

theorem moves_rotateAway (hw : Wf r) (e : Endpoint) : Moves r (r.rotateAway e) [] := by
  unfold rotateAway
  split
  · exact moves_rotate hw
  · exact (Shrinks.refl hw).moves

/-- An accepted endpoint is new, not zero and never evicted, and the ring was enabled or had
evicted nothing; it goes to the back and the ring is enabled. -/
theorem add_of_accepted {e : Endpoint} (h : (r.add e).2 = true) :
    e.isZero = false ∧ e ∉ r.evicted ∧ e ∉ r.members ∧ ¬(r.disabled = true ∧ r.evicted ≠ []) ∧
      (r.add e).1 = { r with members := r.members ++ [e], disabled := false } := by
  unfold add at h ⊢
  -- each refusal answers `false`, so none of them applies
  have hze : (e.isZero || r.evicted.contains e) = false := by
    cases hz : (e.isZero || r.evicted.contains e)
    · rfl
    · rw [if_pos hz] at h
      cases h
  rw [if_neg (by rw [hze]; decide)] at h ⊢
  have hde : (r.disabled && !r.evicted.isEmpty) = false := by
    cases hd : (r.disabled && !r.evicted.isEmpty)
    · rfl
    · rw [if_pos hd] at h
      cases h
  rw [if_neg (by rw [hde]; decide)] at h ⊢
  have hc : r.members.contains e = false := by
    cases hc : r.members.contains e
    · rfl
    · rw [if_pos hc] at h
      cases h
  rw [if_neg (by rw [hc]; decide)]
  simp only [Bool.or_eq_false_iff, Bool.and_eq_false_iff, Bool.not_eq_false'] at hze hde
  refine ⟨hze.1, by simpa using hze.2, by simpa using hc, ?_, rfl⟩
  rintro ⟨hd, hev⟩
  rcases hde with hde | hde
  · rw [hd] at hde
    cases hde
  · exact hev (List.isEmpty_iff.1 hde)

theorem add_of_refused {e : Endpoint} (h : (r.add e).2 = false) : (r.add e).1 = r := by
  unfold add at h ⊢
  by_cases hz : (e.isZero || r.evicted.contains e) = true
  · rw [if_pos hz]
  · rw [if_neg hz] at h ⊢
    by_cases hd : (r.disabled && !r.evicted.isEmpty) = true
    · rw [if_pos hd]
    · rw [if_neg hd] at h ⊢
      by_cases hc : r.members.contains e = true
      · rw [if_pos hc]
      · rw [if_neg hc] at h
        cases h

theorem moves_add (hw : Wf r) (e : Endpoint) : Moves r (r.add e).1 (r.addedBy (.add e)) := by
  cases hacc : (r.add e).2
  · simpa [addedBy, hacc, add_of_refused hacc] using (Shrinks.refl hw).moves
  · obtain ⟨hz, hev, hm, hde, hr⟩ := add_of_accepted hacc
    rw [hr]
    simp only [addedBy, hacc, if_true]
    refine ⟨⟨?_, ?_, ?_, by simp⟩, ?_, List.prefix_refl _, ⟨r.members, [e], .refl _, ?_, ?_⟩, ?_⟩
    · exact (List.perm_append_singleton e r.members).nodup_iff.2 (List.nodup_cons.2 ⟨hm, hw.nodup⟩)
    · intro x hx
      rcases List.mem_append.1 hx with hx | hx
      · exact hw.nonZero x hx
      · rw [List.mem_singleton.1 hx]
        exact hz
    · intro x hx
      rcases List.mem_append.1 hx with hx | hx
      · exact hw.disjoint x hx
      · rw [List.mem_singleton.1 hx]
        exact hev
    · -- the new endpoint joins the live ones, at the back
      simp only [List.append_assoc]
      exact List.Perm.append_left r.members List.perm_append_comm
    · simpa using hm
    · exact List.IsRotated.refl _
    · -- an emptied ring is disabled with an eviction behind it, so it accepts nothing
      intro h0 hne
      exact absurd ⟨hw.disabled_iff.2 h0, hne⟩ hde

theorem moves_evict (hw : Wf r) (e : Endpoint) : Moves r (r.evict e).1 [] :=
  (shrinks_evict hw e).moves

/-- A reported success leaves the ring as it was but for its count, or evicts some endpoints
after restarting the count, and then perhaps turns the ring. -/
theorem recordSuccess_cases (r : Ring) (l : Liveness) (used : Endpoint) :
    (∃ k, (r.recordSuccess l used).1 = { r with successes := k }) ∨
      ∃ ds, (r.recordSuccess l used).1 = ({ r with successes := 0 }).evictAll ds ∨
        ∃ i, (r.recordSuccess l used).1 = (({ r with successes := 0 }).evictAll ds).turn i := by
  unfold recordSuccess
  split
  · exact .inl ⟨r.successes, rfl⟩
  · dsimp only
    split
    · exact .inl ⟨_, rfl⟩
    · rcases hf : findLive l r.members.tail with ⟨dead, next, asked⟩
      refine .inr ⟨dead, ?_⟩
      split
      · exact .inl rfl
      · split
        · exact .inl rfl
        · split
          · split
            · exact .inl rfl
            · exact .inr ⟨_, rfl⟩
          · exact .inl rfl

theorem moves_recordSuccess (hw : Wf r) (l : Liveness) (used : Endpoint) :
    Moves r (r.recordSuccess l used).1 [] := by
  have h₀ := Shrinks.successes hw 0
  rcases recordSuccess_cases r l used with ⟨k, hk⟩ | ⟨ds, hds | ⟨i, hi⟩⟩
  · rw [hk]
    exact (Shrinks.successes hw k).moves
  · rw [hds]
    exact (h₀.trans (shrinks_evictAll h₀.wf ds)).moves
  · rw [hi]
    exact (h₀.trans (shrinks_evictAll h₀.wf ds)).moves_turn i

/-- Every operation moves a well-formed ring as `Moves` says. -/
theorem moves_apply (hw : Wf r) (l : Liveness) (c : Command) :
    Moves r (r.apply l c) (r.addedBy c) := by
  cases c with
  | rotate => exact moves_rotate hw
  | rotateAway e => exact moves_rotateAway hw e
  | evict e => exact moves_evict hw e
  | add e => exact moves_add hw e
  | recordSuccess e => exact moves_recordSuccess hw l e
  | current | probe _ | active | state => exact (Shrinks.refl hw).moves

end Moves

/-! ## Runs -/

section Runs

variable {r₀ r : Ring} {added : List Endpoint}

/-- A run from a built ring keeps it well formed, and its live and evicted endpoints are those
it was built from and those added on the way. -/
theorem Reaches.wf_perm {endpoints : List Endpoint} {cadence : Int}
    (hr : Reaches (build endpoints cadence) added r) :
    Wf r ∧ (r.members ++ r.evicted).Perm (distinctNonZero endpoints [] ++ added) := by
  induction hr with
  | refl => exact ⟨wf_build endpoints cadence, by simp [build]⟩
  | step l c _ ih =>
    obtain ⟨hw, hp⟩ := ih
    have hm := moves_apply hw l c
    exact ⟨hm.wf, hm.perm.trans ((hp.append_right _).trans
      (List.Perm.of_eq (List.append_assoc _ _ _)))⟩

/-- A run from a well-formed ring keeps it well formed, only adds to the evicted endpoints, and
leaves empty a ring that eviction emptied. -/
theorem Reaches.keeps (hw : Wf r₀) (hr : Reaches r₀ added r) :
    Wf r ∧ r₀.evicted.IsPrefix r.evicted ∧
      (r₀.members = [] → r₀.evicted ≠ [] → r.members = []) := by
  induction hr with
  | refl => exact ⟨hw, List.prefix_refl _, fun h _ => h⟩
  | step l c _ ih =>
    obtain ⟨hw', hpre, hdead⟩ := ih
    have hm := moves_apply hw' l c
    refine ⟨hm.wf, hpre.trans hm.evicted, fun h0 hne => hm.dead (hdead h0 hne) ?_⟩
    -- the endpoints evicted at the start are still evicted
    obtain ⟨x, hx⟩ := List.exists_mem_of_ne_nil _ hne
    exact List.ne_nil_of_mem (hpre.subset hx)

theorem Wf.active_iff (hw : Wf r) : r.active = true ↔ r.members ≠ [] := by
  rw [Ne, ← hw.disabled_iff]
  cases hd : r.disabled <;> simp [active, hd]

/-- What holds of a ring built from `endpoints` once operations have added `added`. -/
structure Laws (endpoints added : List Endpoint) (r : Ring) : Prop where
  /-- No endpoint is live twice. -/
  nodup : r.members.Nodup
  /-- No live endpoint is the zero endpoint. -/
  nonZero : ∀ e ∈ r.members, e.isZero = false
  /-- No endpoint is both live and evicted. -/
  disjoint : ∀ e ∈ r.members, e ∉ r.evicted
  /-- The live and the evicted endpoints are the distinct non-zero ones the ring was built from
  and the added ones. -/
  accounted : (r.members ++ r.evicted).Perm (distinctNonZero endpoints [] ++ added)
  /-- The ring is active exactly when it holds an endpoint. -/
  activeIff : r.active = true ↔ r.members ≠ []
  /-- An evicted endpoint stays evicted, and out of the ring, whatever follows. -/
  evictedStays : ∀ added' r', Reaches r added' r' → ∀ e ∈ r.evicted,
    e ∈ r'.evicted ∧ e ∉ r'.members
  /-- Once eviction has emptied the ring, whatever follows leaves it empty and inactive. -/
  deadStays : r.members = [] → r.evicted ≠ [] → ∀ added' r', Reaches r added' r' →
    r'.members = [] ∧ r'.active = false
  /-- The endpoints live both before and after an operation keep their cyclic order. -/
  cyclic : ∀ l c, ((r.apply l c).members.filter (· ∈ r.members)).IsRotated
    (r.members.filter (· ∈ (r.apply l c).members))

/-- Every ring reached from a built one, by any operations and whatever the probes answer, obeys
the ring's laws. -/
theorem Reaches.laws {endpoints : List Endpoint} {cadence : Int}
    (hr : Reaches (build endpoints cadence) added r) : Laws endpoints added r := by
  obtain ⟨hw, hp⟩ := hr.wf_perm
  refine ⟨hw.nodup, hw.nonZero, hw.disjoint, hp, hw.active_iff, ?_, ?_, ?_⟩
  · intro added' r' hr' e he
    obtain ⟨hw', hpre, -⟩ := hr'.keeps hw
    have he' := hpre.subset he
    exact ⟨he', fun hm => hw'.disjoint e hm he'⟩
  · intro h0 hne added' r' hr'
    obtain ⟨hw', -, hdead⟩ := hr'.keeps hw
    have hm := hdead h0 hne
    refine ⟨hm, ?_⟩
    cases ha : r'.active
    · rfl
    · exact absurd hm ((hw'.active_iff).1 ha)
  · intro l c
    obtain ⟨mid, extra, hsub, hext, hrot⟩ := (moves_apply hw l c).order
    exact isRotated_filter_of_sublist hw.nodup hsub hext hrot

/-- Evicting one of two endpoints of a built ring reaches a ring that obeys the laws. -/
theorem laws_after_evict :
    Reaches (build [⟨"p", 1⟩, ⟨"q", 2⟩] 1) []
        ((build [⟨"p", 1⟩, ⟨"q", 2⟩] 1).apply .assumed (.evict ⟨"p", 1⟩)) ∧
      Laws [⟨"p", 1⟩, ⟨"q", 2⟩] []
        ((build [⟨"p", 1⟩, ⟨"q", 2⟩] 1).apply .assumed (.evict ⟨"p", 1⟩)) :=
  ⟨.step .assumed (.evict ⟨"p", 1⟩) .refl, Reaches.laws (.step .assumed (.evict ⟨"p", 1⟩) .refl)⟩

end Runs

end Ring

end Harvest
