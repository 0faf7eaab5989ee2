import Harvest.Engine.Fetch
import Harvest.Proofs.Proxy.RingInvariant
/-!
# Harvest.Proofs.Fetch.Rotation

Which proxy each attempt of a fetch goes through, over a whole series of fetches through one
proxy ring that nothing else moves: single fetches one after another, or a batch with one worker.

Each attempt is logged with the endpoint it went through and its answer (`RetryHooks.logged`).
An attempt *reports* to the ring (`Attempt.report`): a success through an endpoint is recorded
for that endpoint, a failure that retrying can help rotates away from it, and a terminal failure
or a direct attempt reports nothing. Over every series of fetches (`Retry.Series`), from a ring
built from any endpoints and used in any way before (`Retry.Series.rotation`):

* the ring moves only by the reports of the attempts, in order, and every attempt goes through
  the head of the ring as the reports before it left it, direct when the ring is inactive;
* a failure that retrying can help, through `e`, is followed by an attempt through another
  endpoint, unless `e` was the only live one;
* no attempt goes through an endpoint after it was evicted;
* without a cadence the attempts go round the live endpoints in order: an attempt goes through
  the endpoint as many places after the first head as retryable failures went before it.
-/

namespace Harvest

/-- One attempt of a fetch: the endpoint it went through (none when direct) and its answer. -/
structure Attempt where
  via : Option Endpoint
  answer : Except FetchError Outcome

namespace Attempt

/-- Whether an attempt failed in a way that retrying can help. -/
def retryable (a : Attempt) : Bool :=
  match a.answer with
  | .ok _ => false
  | .error err => !err.isTerminal

/-- What an attempt reports to the ring: a success is recorded for the endpoint it went through
and a failure that retrying can help rotates away from it; a terminal failure and a direct
attempt report nothing. -/
def report (a : Attempt) : Option Ring.Command :=
  match a.via, a.answer with
  | some e, .ok _ => some (.recordSuccess e)
  | some e, .error err => if err.isTerminal then none else some (.rotateAway e)
  | none, _ => none

/-- The reports of a list of attempts, in order. -/
def reports (as : List Attempt) : List Ring.Command := as.filterMap report

@[simp] theorem reports_nil : reports [] = [] := rfl

theorem reports_cons (a : Attempt) (as : List Attempt) :
    reports (a :: as) = a.report.toList ++ reports as := by
  cases ha : a.report <;> simp [reports, ha]

theorem reports_append (as bs : List Attempt) : reports (as ++ bs) = reports as ++ reports bs :=
  List.filterMap_append

end Attempt

namespace Ring

/-- The ring after a list of operations. -/
def applyAll (l : Liveness) (r : Ring) (cs : List Command) : Ring := cs.foldl (apply l) r

@[simp] theorem applyAll_nil (l : Liveness) (r : Ring) : r.applyAll l [] = r := rfl

theorem applyAll_append (l : Liveness) (r : Ring) (cs ds : List Command) :
    r.applyAll l (cs ++ ds) = (r.applyAll l cs).applyAll l ds :=
  List.foldl_append

theorem applyAll_cons (l : Liveness) (r : Ring) (c : Command) (cs : List Command) :
    r.applyAll l (c :: cs) = (r.apply l c).applyAll l cs := rfl

/-- The attempts go through the head of the ring in turn, the ring moving by the reports of the
attempts before. -/
inductive Follows (l : Liveness) : Ring → List Attempt → Prop
  | nil (r : Ring) : Follows l r []
  | cons {r : Ring} {a : Attempt} {as : List Attempt} : a.via = r.head? →
      Follows l (r.applyAll l a.report.toList) as → Follows l r (a :: as)

/-- A run of ring operations goes on by any further operations. -/
theorem Reaches.applyAll {r₀ r : Ring} {added : List Endpoint} (hr : Reaches r₀ added r)
    (l : Liveness) (cs : List Command) : ∃ added', Reaches r₀ added' (r.applyAll l cs) := by
  induction cs generalizing r added with
  | nil => exact ⟨added, hr⟩
  | cons c cs ih => exact ih (.step l c hr)

/-! ## The head after a rotation -/

theorem head?_eq_some {r : Ring} {e : Endpoint} (h : r.head? = some e) :
    r.disabled = false ∧ r.members.head? = some e := by
  unfold head? at h
  cases hd : r.disabled
  · simp_all
  · simp [hd] at h

theorem mem_of_head?_eq_some {r : Ring} {e : Endpoint} (h : r.head? = some e) : e ∈ r.members :=
  List.mem_of_mem_head? (head?_eq_some h).2

@[simp] theorem rotate_members (r : Ring) : r.rotate.members = r.members.rotate 1 := by
  unfold rotate
  split
  · next h t hm => simp [hm]
  · next hm =>
    match hr : r.members with
    | [] => simp
    | [x] => simp
    | _ :: _ :: _ => exact (hm _ _ _ hr).elim

@[simp] theorem rotate_disabled (r : Ring) : r.rotate.disabled = r.disabled := by
  unfold rotate
  split <;> rfl

@[simp] theorem rotate_cadence (r : Ring) : r.rotate.cadence = r.cadence := by
  unfold rotate
  split <;> rfl

theorem rotateAway_of_head {r : Ring} {e : Endpoint} (h : r.head? = some e) :
    r.rotateAway e = r.rotate := by
  simp [rotateAway, h]

/-- Rotating away from the head of a well-formed ring of two or more endpoints brings another
endpoint to the head. -/
theorem rotateAway_head_ne {r : Ring} {e : Endpoint} (hw : Wf r) (h : r.head? = some e)
    (hne : r.members ≠ [e]) : (r.rotateAway e).head? ≠ some e := by
  obtain ⟨hd, hm⟩ := head?_eq_some h
  obtain ⟨t, ht⟩ : ∃ t, r.members = e :: t := by
    cases hr : r.members with
    | nil => simp [hr] at hm
    | cons x t =>
      simp only [hr, List.head?_cons, Option.some.injEq] at hm
      exact ⟨t, by rw [hm]⟩
  -- the endpoint after the head differs from it, the ring holding no endpoint twice
  obtain ⟨y, t', rfl⟩ : ∃ y t', t = y :: t' := by
    cases t with
    | nil => exact absurd ht hne
    | cons y t' => exact ⟨y, t', rfl⟩
  have hnd := hw.nodup
  rw [ht] at hnd
  have hye : y ≠ e := fun hy => (List.nodup_cons.1 hnd).1 (by simp [hy])
  rw [rotateAway_of_head h]
  simp [head?, hd, ht, hye]

/-- Recording a success changes nothing but the count when the ring has no cadence. -/
theorem recordSuccess_of_cadence {r : Ring} (hc : r.cadence ≤ 0) (l : Liveness)
    (e : Endpoint) : ∃ k, (r.recordSuccess l e).1 = { r with successes := k } := by
  unfold recordSuccess
  split
  · exact ⟨r.successes, rfl⟩
  · simp [hc]

end Ring

/-! ## Logging the attempts -/

variable {σ : Type}

/-- Hooks that do what `h` does and keep, beside the world, the attempts made. -/
def RetryHooks.logged (h : RetryHooks σ) : RetryHooks (σ × List Attempt) where
  head p := h.head p.1
  attempt p via :=
    (((h.attempt p.1 via).1, p.2 ++ [⟨via, (h.attempt p.1 via).2⟩]), (h.attempt p.1 via).2)
  succeeded p e := (h.succeeded p.1 e, p.2)
  failed p e := (h.failed p.1 e, p.2)

/-- The hooks keep a proxy ring in the world and move it only by the loop's reports: an attempt
goes through its head and leaves it as it is, a success is recorded for the endpoint that served
it, and a failure rotates away from the endpoint. -/
structure RetryHooks.OnRing (h : RetryHooks σ) (ring : σ → Ring) (l : Liveness) : Prop where
  head : ∀ s, h.head s = (ring s).head?
  attempt : ∀ s via, ring (h.attempt s via).1 = ring s
  succeeded : ∀ s e, ring (h.succeeded s e) = (ring s).apply l (.recordSuccess e)
  failed : ∀ s e, ring (h.failed s e) = (ring s).apply l (.rotateAway e)

/-- The engine's attempt loop keeps its proxy ring in the world and moves it only by its
reports. -/
theorem Engine.retryHooks_onRing (e : Engine σ) (url : String) (cond : Conditional) :
    (e.retryHooks url cond).OnRing World.ring e.config.liveness where
  head _ := rfl
  attempt w via := by
    simp only [Engine.retryHooks]
    split <;> rfl
  succeeded _ _ := rfl
  failed _ _ := rfl

/-- Series of logged fetches through one world in which nothing but the fetches moves the
world's proxy ring: each step is a fetch through hooks that keep the ring, or a change of the
world that leaves the ring as it is. -/
inductive Retry.Series (ring : σ → Ring) (l : Liveness) (p₀ : σ × List Attempt) :
    σ × List Attempt → Prop
  | refl : Series ring l p₀ p₀
  | fetch {p : σ × List Attempt} (h : RetryHooks σ) (maxRetries : Int) (canceled : Bool)
      (url : String) : Series ring l p₀ p → h.OnRing ring l →
      Series ring l p₀ (Retry.fetch h.logged maxRetries canceled url p).1
  | other {p : σ × List Attempt} (f : σ → σ) : Series ring l p₀ p →
      (∀ s, ring (f s) = ring s) → Series ring l p₀ (f p.1, p.2)

/-- What a logged world shows about its ring, started at `r₀`: the ring moved only by the
reports of the attempts logged, and each attempt went through the head of the ring then. -/
def Retry.Logged (ring : σ → Ring) (l : Liveness) (r₀ : Ring) (p : σ × List Attempt) : Prop :=
  ring p.1 = r₀.applyAll l (Attempt.reports p.2) ∧ r₀.Follows l p.2

namespace Ring

/-- An attempt through the head of the ring, after attempts that followed it, follows it too. -/
theorem Follows.snoc {l : Liveness} {r : Ring} {as : List Attempt} {a : Attempt}
    (hf : Follows l r as) (hh : a.via = (r.applyAll l (Attempt.reports as)).head?) :
    Follows l r (as ++ [a]) := by
  induction hf with
  | nil r => exact .cons hh (.nil _)
  | @cons r a' as hv _ ih =>
    rw [Attempt.reports_cons, applyAll_append] at hh
    exact .cons hv (ih hh)

/-- Each attempt of a list that follows the ring went through the head of the ring as the
attempts before it left it. -/
theorem Follows.head {l : Liveness} {r : Ring} {as : List Attempt} (hf : Follows l r as)
    {pre post : List Attempt} {a : Attempt} (has : as = pre ++ a :: post) :
    a.via = (r.applyAll l (Attempt.reports pre)).head? := by
  induction pre generalizing r as with
  | nil =>
    subst has
    cases hf with
    | cons hv _ => exact hv
  | cons b pre ih =>
    subst has
    cases hf with
    | cons _ hrest =>
      rw [Attempt.reports_cons, applyAll_append]
      exact ih hrest rfl

end Ring

namespace Retry

variable {ring : σ → Ring} {l : Liveness} {h : RetryHooks σ} {url : String} {total : Int}

theorem logged_attempt (h : RetryHooks σ) (p : σ × List Attempt) (via : Option Endpoint) :
    h.logged.attempt p via =
      (((h.attempt p.1 via).1, p.2 ++ [⟨via, (h.attempt p.1 via).2⟩]), (h.attempt p.1 via).2) :=
  rfl

/-- One logged attempt through the head of the ring, and its report, keep `Logged`. -/
theorem Logged.attempt (hon : h.OnRing ring l) {r₀ : Ring} {p : σ × List Attempt}
    (hp : Logged ring l r₀ p) (answer : Except FetchError Outcome) :
    let a : Attempt := ⟨h.head p.1, answer⟩
    let s := (h.attempt p.1 (h.head p.1)).1
    ring s = (r₀.applyAll l (Attempt.reports p.2)) ∧ r₀.Follows l (p.2 ++ [a]) ∧
      r₀.applyAll l (Attempt.reports (p.2 ++ [a])) =
        (r₀.applyAll l (Attempt.reports p.2)).applyAll l a.report.toList := by
  refine ⟨by rw [hon.attempt, hp.1], hp.2.snoc (by rw [hon.head, hp.1]), ?_⟩
  rw [Attempt.reports_append, Ring.applyAll_append]
  cases ha : Attempt.report ⟨h.head p.1, answer⟩ <;> simp [Attempt.reports, ha]

/-- The attempt loop over logged hooks keeps `Logged`: every attempt it makes goes through the
head of the ring, and the ring moves by its reports alone. -/
theorem loop_logged (hon : h.OnRing ring l) (r₀ : Ring) :
    ∀ (fuel n : Nat) (last : Option FetchError) (p : σ × List Attempt), Logged ring l r₀ p →
      Logged ring l r₀ (loop h.logged url total fuel n last p).1 := by
  intro fuel
  induction fuel with
  | zero => exact fun _ _ _ hp => hp
  | succ fuel ih =>
    intro n last p hp
    -- the loop's attempt goes through the head, and its answer decides the report
    cases hans : (h.attempt p.1 (h.head p.1)).2 with
    | ok o =>
      obtain ⟨hs, hf, hrep⟩ := hp.attempt hon (.ok o)
      simp only [loop, RetryHooks.logged, hans]
      cases hv : h.head p.1 with
      | none =>
        simp only [hv] at hs hf hrep
        refine ⟨?_, hf⟩
        rw [hrep, hs]
        simp [Attempt.report]
      | some e =>
        simp only [hv] at hs hf hrep
        refine ⟨?_, hf⟩
        rw [hrep, hon.succeeded, hs]
        simp [Attempt.report, Ring.applyAll]
    | error err =>
      obtain ⟨hs, hf, hrep⟩ := hp.attempt hon (.error err)
      simp only [loop, RetryHooks.logged, hans]
      split
      · next hterm =>
        -- a terminal failure ends the loop and reports nothing
        refine ⟨?_, hf⟩
        rw [hrep, hs]
        cases h.head p.1 <;> simp [Attempt.report, hterm]
      · next hterm =>
        apply ih
        cases hv : h.head p.1 with
        | none =>
          simp only [hv] at hs hf hrep
          refine ⟨?_, hf⟩
          rw [hrep, hs]
          simp [Attempt.report]
        | some e =>
          simp only [hv] at hs hf hrep
          refine ⟨?_, hf⟩
          rw [hrep, hon.failed, hs]
          simp [Attempt.report, hterm, Ring.applyAll]

/-- A logged fetch keeps `Logged`. -/
theorem fetch_logged (hon : h.OnRing ring l) {r₀ : Ring} (maxRetries : Int) (canceled : Bool)
    (url : String) {p : σ × List Attempt} (hp : Logged ring l r₀ p) :
    Logged ring l r₀ (fetch h.logged maxRetries canceled url p).1 := by
  unfold fetch
  split
  · exact hp
  · exact loop_logged hon r₀ _ _ _ _ hp

/-- Every series keeps `Logged`, from the ring it started with and no attempt. -/
theorem Series.logged {s₀ : σ} {p : σ × List Attempt} (hser : Series ring l (s₀, []) p) :
    Logged ring l (ring s₀) p := by
  induction hser with
  | refl => exact ⟨rfl, .nil _⟩
  | fetch h m c url _ hon ih => exact fetch_logged hon m c url ih
  | other f _ hf ih => exact ⟨by rw [hf]; exact ih.1, ih.2⟩

end Retry

/-! ## The proxies of a series -/

/-- What the attempts `as` of a series that started at ring `r₀` and left it at `r` show about
the proxies they went through, probes answering as `l` says. -/
structure AttemptsFollow (l : Liveness) (r₀ r : Ring) (as : List Attempt) : Prop where
  /-- The ring moved only by the reports of the attempts, in order: a success recorded for the
  endpoint that served it, a rotation away from the endpoint of a failure that retrying can help,
  and nothing for a terminal failure or a direct attempt. -/
  moved : r = r₀.applyAll l (Attempt.reports as)
  /-- Each attempt went through the head of the ring at that moment; direct when the ring was
  inactive. -/
  head : ∀ pre a post, as = pre ++ a :: post →
    a.via = (r₀.applyAll l (Attempt.reports pre)).head?
  /-- After a failure that retrying can help, through `e`, the next attempt goes through another
  endpoint, unless `e` was the only live one. -/
  next : ∀ pre a b post e, as = pre ++ a :: b :: post → a.via = some e → a.retryable = true →
    (r₀.applyAll l (Attempt.reports pre)).members ≠ [e] → b.via ≠ some e
  /-- No attempt goes through an endpoint evicted before it. -/
  notEvicted : ∀ pre mid a post e, as = pre ++ mid ++ a :: post →
    e ∈ (r₀.applyAll l (Attempt.reports pre)).evicted → a.via ≠ some e
  /-- Without a cadence, from an active ring, each attempt goes through the endpoint as many
  places after the first head as retryable failures went before it. -/
  roundRobin : r₀.cadence ≤ 0 → r₀.active = true → ∀ pre a post, as = pre ++ a :: post →
    a.via = r₀.members[pre.countP Attempt.retryable % r₀.members.length]?

namespace Ring

variable {l : Liveness}

/-- A retryable failure through an endpoint reports a rotation away from it. -/
theorem report_of_retryable {a : Attempt} {e : Endpoint} (hv : a.via = some e)
    (hr : a.retryable = true) : a.report = some (.rotateAway e) := by
  unfold Attempt.retryable at hr
  unfold Attempt.report
  rw [hv]
  split at hr
  · next o ho => simp at hr
  · next err ho => simp_all

/-- The next attempt after a retryable failure through the head of a well-formed ring of two or
more endpoints goes through another endpoint. -/
theorem Follows.next {r : Ring} {pre post : List Attempt} {a b : Attempt} {e : Endpoint}
    (hf : Follows l r (pre ++ a :: b :: post)) (hw : Wf (r.applyAll l (Attempt.reports pre)))
    (hv : a.via = some e) (hr : a.retryable = true)
    (hne : (r.applyAll l (Attempt.reports pre)).members ≠ [e]) : b.via ≠ some e := by
  have ha := hf.head rfl
  have hb : b.via = (r.applyAll l (Attempt.reports (pre ++ [a]))).head? :=
    hf.head (by simp : pre ++ a :: b :: post = (pre ++ [a]) ++ b :: post)
  rw [Attempt.reports_append, applyAll_append, Attempt.reports_cons, report_of_retryable hv hr]
    at hb
  rw [hb]
  rw [hv] at ha
  exact rotateAway_head_ne hw ha.symm hne

/-- What an attempt reports: nothing, when it went direct or failed for good; a success of the
endpoint it went through; or, when it failed in a way retrying can help, a rotation away from
that endpoint. -/
theorem report_cases (a : Attempt) :
    (a.report = none ∧ (a.via = none ∨ a.retryable = false)) ∨
      (∃ e, a.via = some e ∧ a.report = some (.recordSuccess e) ∧ a.retryable = false) ∨
      (∃ e, a.via = some e ∧ a.report = some (.rotateAway e) ∧ a.retryable = true) := by
  obtain ⟨via, answer⟩ := a
  cases via with
  | none => exact .inl ⟨rfl, .inl rfl⟩
  | some e =>
    cases answer with
    | ok o => exact .inr (.inl ⟨e, rfl, rfl, rfl⟩)
    | error err =>
      cases ht : err.isTerminal
      · exact .inr (.inr ⟨e, rfl, by simp [Attempt.report, ht], by simp [Attempt.retryable, ht]⟩)
      · exact .inl ⟨by simp [Attempt.report, ht], .inr (by simp [Attempt.retryable, ht])⟩

/-- Attempts that follow a ring from the start of a list follow it from the start of any prefix. -/
theorem Follows.of_append {r : Ring} {as bs : List Attempt} (hf : Follows l r (as ++ bs)) :
    Follows l r as := by
  induction as generalizing r with
  | nil => exact .nil r
  | cons a as ih =>
    cases hf with
    | cons hv hrest => exact .cons hv (ih hrest)

/-- Without a cadence, attempts that follow an active ring turn it once for each retryable
failure and leave it active. -/
theorem Follows.rotated {r : Ring} {as : List Attempt} (hf : Follows l r as)
    (hc : r.cadence ≤ 0) (ha : r.disabled = false) :
    (r.applyAll l (Attempt.reports as)).members = r.members.rotate (as.countP Attempt.retryable) ∧
      (r.applyAll l (Attempt.reports as)).disabled = false ∧
      (r.applyAll l (Attempt.reports as)).cadence = r.cadence := by
  revert hc ha
  induction hf with
  | nil r => simp
  | @cons r a as hv _ ih =>
    intro hc ha
    rw [Attempt.reports_cons, applyAll_append, List.countP_cons]
    rcases report_cases a with ⟨hrep, hdir⟩ | ⟨e, he, hrep, hret⟩ | ⟨e, he, hrep, hret⟩
    · -- nothing reported: the ring stays; a direct attempt means the ring is empty
      rw [hrep] at ih ⊢
      obtain ⟨hm, hd, hcad⟩ := ih hc ha
      refine ⟨?_, hd, hcad⟩
      rw [hm]
      rcases hdir with hnone | hret
      · have hnil : r.members = [] := by
          rw [hnone] at hv
          cases hr : r.members with
          | nil => rfl
          | cons x t => simp [head?, ha, hr] at hv
        simp [hnil]
      · simp [hret]
    · -- a success leaves the ring but for its count
      rw [hrep, Option.toList_some] at ih ⊢
      obtain ⟨k, hk⟩ := recordSuccess_of_cadence hc l e
      have happ : r.applyAll l [.recordSuccess e] = { r with successes := k } := hk
      rw [happ] at ih ⊢
      obtain ⟨hm, hd, hcad⟩ := ih hc ha
      exact ⟨by simpa [hret] using hm, hd, hcad⟩
    · -- a retryable failure through the head turns the ring once
      rw [hrep, Option.toList_some] at ih ⊢
      have happ : r.applyAll l [.rotateAway e] = r.rotate :=
        rotateAway_of_head (by rw [← hv, he])
      rw [happ] at ih ⊢
      obtain ⟨hm, hd, hcad⟩ := ih (by simpa using hc) (by simpa using ha)
      refine ⟨?_, hd, by simpa using hcad⟩
      rw [hm, rotate_members, List.rotate_rotate, hret]
      simp [Nat.add_comm]

end Ring

/-- Every series of fetches through a ring built from any endpoints, whatever happened to it
before, sends each attempt through the head of the ring, moves the ring only by the attempts'
reports, turns away from a failed endpoint when another is live, never goes through an evicted
endpoint, and without a cadence goes round the live endpoints one place per retryable failure. -/
theorem Retry.Series.rotation {ring : σ → Ring} {l : Liveness} {s₀ : σ} {p : σ × List Attempt}
    {endpoints added : List Endpoint} {cadence : Int}
    (hser : Series ring l (s₀, []) p)
    (hr₀ : Ring.Reaches (Ring.build endpoints cadence) added (ring s₀)) :
    AttemptsFollow l (ring s₀) (ring p.1) p.2 := by
  obtain ⟨hmoved, hf⟩ := hser.logged
  -- every ring along the series is reached from the built one, so it is well formed
  have hwf : ∀ pre : List Attempt, Ring.Wf ((ring s₀).applyAll l (Attempt.reports pre)) := by
    intro pre
    obtain ⟨added', hr⟩ := hr₀.applyAll l (Attempt.reports pre)
    exact hr.wf_perm.1
  refine ⟨hmoved, fun pre a post has => hf.head has, ?_, ?_, ?_⟩
  · intro pre a b post e has hv hr hne
    rw [has] at hf
    exact hf.next (hwf pre) hv hr hne
  · intro pre mid a post e has he hv
    -- an endpoint once evicted stays evicted, and out of the ring
    have hhead : a.via = ((ring s₀).applyAll l (Attempt.reports (pre ++ mid))).head? :=
      hf.head (by simp [has] : p.2 = (pre ++ mid) ++ a :: post)
    rw [hv, Attempt.reports_append, Ring.applyAll_append] at hhead
    obtain ⟨hw', hpre, -⟩ := Ring.Reaches.keeps (hwf pre)
      (Ring.Reaches.applyAll .refl l (Attempt.reports mid)).choose_spec
    exact hw'.disjoint e (Ring.mem_of_head?_eq_some hhead.symm) (hpre.subset he)
  · intro hc hact pre a post has
    have hd : (ring s₀).disabled = false := by simpa [Ring.active] using hact
    have hhead := hf.head has
    have hfpre : Ring.Follows l (ring s₀) (pre ++ a :: post) := by
      rw [← has]
      exact hf
    obtain ⟨hm, hd', -⟩ := (Ring.Follows.of_append hfpre).rotated hc hd
    rw [hhead, Ring.head?, hd', hm]
    -- the head of the turned ring is the endpoint that many places on
    cases hms : (ring s₀).members with
    | nil => simp
    | cons x t =>
      rw [← List.rotate_mod, List.head?_rotate (Nat.mod_lt _ (by simp))]
      simp

/-- Hooks over a bare proxy ring whose attempts answer as `answer` says for the endpoint used. -/
def Ring.retryHooks (l : Liveness) (answer : Option Endpoint → Except FetchError Outcome) :
    RetryHooks Ring where
  head r := r.head?
  attempt r via := (r, answer via)
  succeeded r e := (r.recordSuccess l e).1
  failed r e := r.rotateAway e

theorem Ring.retryHooks_onRing (l : Liveness) (answer : Option Endpoint → Except FetchError Outcome) :
    (Ring.retryHooks l answer).OnRing id l :=
  ⟨fun _ => rfl, fun _ _ => rfl, fun _ _ => rfl, fun _ _ => rfl⟩

/-- An attempt that fails through the endpoint with port 1 and succeeds otherwise. -/
def failThroughFirst (via : Option Endpoint) : Except FetchError Outcome :=
  if via.map Endpoint.port = some 1 then .error (.transport "u" 0 "connection reset")
  else .ok { url := "u", ok := true }

/-- A fetch with two retries through a ring of two endpoints that never switches on cadence,
the first endpoint failing, follows the ring. -/
theorem rotation_after_failure :
    AttemptsFollow .assumed (Ring.build [⟨"p", 1⟩, ⟨"q", 2⟩] (-1))
      (Retry.fetch (Ring.retryHooks .assumed failThroughFirst).logged 2 false "u"
        (Ring.build [⟨"p", 1⟩, ⟨"q", 2⟩] (-1), [])).1.1
      (Retry.fetch (Ring.retryHooks .assumed failThroughFirst).logged 2 false "u"
        (Ring.build [⟨"p", 1⟩, ⟨"q", 2⟩] (-1), [])).1.2 :=
  Retry.Series.rotation
    (.fetch _ 2 false "u" .refl (Ring.retryHooks_onRing .assumed failThroughFirst)) .refl

end Harvest
