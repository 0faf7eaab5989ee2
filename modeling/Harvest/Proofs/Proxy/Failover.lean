import Harvest.Proofs.Fetch.Rotation
import Mathlib
/-!
# Harvest.Proofs.Proxy.Failover

Several reports of one failure move a proxy ring once.

Rotating away from an endpoint rotates only when that endpoint leads. On a ring without repeated
endpoints the rotation brings another endpoint to the head, unless the failed one is alone in the
ring, where rotating leaves everything as it was (`Ring.head?_rotateAway_eq_some_iff`). Either way
the ring one rotation away from `e` gives is left alone by the next one
(`Ring.rotateAway_rotateAway`), and reading the head changes nothing.

So on every ring reached from a built one, any sequence of reads of the head and rotations away
from `e` that holds at least one rotation ends in the ring that one rotation gives, and each of its
rotations answers the head that one rotation answers (`Ring.Reaches.failover_once`): the workers
that failed on one proxy move the ring on by exactly one endpoint, and only when that proxy led.
-/

namespace Harvest

namespace Ring

/-! ## Running operations in turn -/

/-- Runs operations one after the other on a ring that may be missing, collecting the answers. -/
def execAll (l : Liveness) : Option Ring → List Command → Option Ring × List Reply
  | r, [] => (r, [])
  | r, c :: cs =>
    let step := exec l r c
    let rest := execAll l step.1 cs
    (rest.1, step.2.1 :: rest.2)

@[simp] theorem execAll_nil (l : Liveness) (r : Option Ring) : execAll l r [] = (r, []) := rfl

theorem execAll_cons (l : Liveness) (r : Option Ring) (c : Command) (cs : List Command) :
    execAll l r (c :: cs) =
      ((execAll l (exec l r c).1 cs).1, (exec l r c).2.1 :: (execAll l (exec l r c).1 cs).2) :=
  rfl

/-- Running two sequences in turn: the second starts from the ring the first leaves, and the
answers follow each other. -/
theorem execAll_append (l : Liveness) (r : Option Ring) (cs ds : List Command) :
    execAll l r (cs ++ ds) =
      ((execAll l (execAll l r cs).1 ds).1,
        (execAll l r cs).2 ++ (execAll l (execAll l r cs).1 ds).2) := by
  induction cs generalizing r with
  | nil => rfl
  | cons c cs ih => simp only [List.cons_append, execAll_cons, ih]

/-- Every operation answers once. -/
@[simp] theorem length_execAll (l : Liveness) (r : Option Ring) (cs : List Command) :
    (execAll l r cs).2.length = cs.length := by
  induction cs generalizing r with
  | nil => rfl
  | cons c cs ih => simp [execAll_cons, ih]

@[simp] theorem exec_current (l : Liveness) (r : Ring) :
    exec l (some r) .current = (some r, .head r.head?, []) := rfl

@[simp] theorem exec_rotateAway (l : Liveness) (r : Ring) (e : Endpoint) :
    exec l (some r) (.rotateAway e) = (some (r.rotateAway e), .head (r.rotateAway e).head?, []) :=
  rfl

/-! ## One rotation away -/

section RotateAway

variable {r : Ring} {e : Endpoint}

theorem rotate_of_members_eq_singleton (h : r.members = [e]) : r.rotate = r := by
  simp [rotate, h]

/-- Rotating away from an endpoint that does not lead changes nothing. -/
theorem rotateAway_of_head?_ne (h : r.head? ≠ some e) : r.rotateAway e = r := by
  unfold rotateAway
  rw [if_neg (by simpa using h)]

/-- The endpoints after rotating away from `e`: turned by one place when `e` led, as they were
otherwise. -/
theorem members_rotateAway (r : Ring) (e : Endpoint) :
    (r.rotateAway e).members = if r.head? = some e then r.members.rotate 1 else r.members := by
  by_cases h : r.head? = some e
  · rw [if_pos h, rotateAway_of_head h, rotate_members]
  · rw [if_neg h, rotateAway_of_head?_ne h]

/-- A well-formed ring leads with its first endpoint: it is disabled only when empty. -/
theorem Wf.head?_eq (hw : Wf r) : r.head? = r.members.head? := by
  unfold head?
  cases hd : r.disabled
  · rfl
  · rw [hw.disabled_iff.1 hd]
    rfl

/-- After rotating away from `e`, a ring without repeats is still led by `e` exactly when `e` is
its only endpoint. -/
theorem head?_rotateAway_eq_some_iff (hw : Wf r) :
    (r.rotateAway e).head? = some e ↔ r.members = [e] := by
  constructor
  · intro h
    by_contra hne
    by_cases hh : r.head? = some e
    · exact rotateAway_head_ne hw hh hne h
    · rw [rotateAway_of_head?_ne hh] at h
      exact hh h
  · intro h
    have hhead : r.head? = some e := by rw [hw.head?_eq, h, List.head?_cons]
    rw [rotateAway_of_head hhead, rotate_of_members_eq_singleton h, hhead]

/-- A second rotation away from the same endpoint changes nothing. -/
theorem rotateAway_rotateAway (hw : Wf r) (e : Endpoint) :
    (r.rotateAway e).rotateAway e = r.rotateAway e := by
  by_cases h : (r.rotateAway e).head? = some e
  · -- `e` still leads only when alone, and a ring of one endpoint does not turn
    have hone : (r.rotateAway e).members = [e] := by
      rw [members_rotateAway, (head?_rotateAway_eq_some_iff hw).1 h]
      simp
    rw [rotateAway_of_head h, rotate_of_members_eq_singleton hone]
  · exact rotateAway_of_head?_ne h

end RotateAway

/-! ## Reports of one failure -/

section Reports

variable {l : Liveness} {r : Ring} {e : Endpoint}

/-- From a ring that rotating away from `e` leaves alone, reads of the head and rotations away
from `e` change nothing and all answer its head. -/
theorem execAll_of_rotateAway_eq (hs : r.rotateAway e = r) (cs : List Command)
    (hcs : ∀ c ∈ cs, c = .current ∨ c = .rotateAway e) :
    execAll l (some r) cs = (some r, List.replicate cs.length (.head r.head?)) := by
  induction cs with
  | nil => rfl
  | cons c cs ih =>
    have hrest := ih (fun c' hc' => hcs c' (List.mem_cons_of_mem c hc'))
    rcases hcs c List.mem_cons_self with rfl | rfl
    · simp [execAll_cons, hrest, List.replicate_succ]
    · simp [execAll_cons, hs, hrest, List.replicate_succ]

/-- Reads of the head and rotations away from `e` take a well-formed ring to the ring one
rotation gives when there was a rotation among them, and leave it as it was otherwise. -/
theorem execAll_reports (hw : Wf r) (cs : List Command)
    (hcs : ∀ c ∈ cs, c = .current ∨ c = .rotateAway e) :
    (execAll l (some r) cs).1 = some (if .rotateAway e ∈ cs then r.rotateAway e else r) := by
  induction cs with
  | nil => rfl
  | cons c cs ih =>
    have hcs' : ∀ c' ∈ cs, c' = .current ∨ c' = .rotateAway e :=
      fun c' hc' => hcs c' (List.mem_cons_of_mem c hc')
    rcases hcs c List.mem_cons_self with rfl | rfl
    · rw [execAll_cons, exec_current, ih hcs']
      simp
    · -- after the first rotation the ring is one that rotating away leaves alone
      rw [execAll_cons, exec_rotateAway,
        execAll_of_rotateAway_eq (rotateAway_rotateAway hw e) cs hcs']
      simp

/-- Whatever reports came before, one more rotation away from `e` leads where one rotation
does. -/
theorem rotateAway_after_reports (hw : Wf r) (cs : List Command) :
    (if .rotateAway e ∈ cs then r.rotateAway e else r).rotateAway e = r.rotateAway e := by
  split
  · exact rotateAway_rotateAway hw e
  · rfl

/-- On every ring reached from a built one, a run of reads of the head and rotations away from
`e`, holding at least one rotation, acts as one rotation: every rotation in it (the one after
`pre`, whatever `pre` and `post` are) answers the head one rotation answers, and the run ends in
the ring one rotation gives, with its count and evicted endpoints. That head is `e` again only
when `e` is the ring's only endpoint, and the endpoints have turned by one place when `e` led and
not at all otherwise. -/
theorem Reaches.failover_once {endpoints added : List Endpoint} {cadence : Int}
    (hr : Reaches (build endpoints cadence) added r) (l : Liveness) (e : Endpoint)
    (pre post : List Command) (hcs : ∀ c ∈ pre ++ post, c = .current ∨ c = .rotateAway e) :
    (execAll l (some r) (pre ++ .rotateAway e :: post)).1 = some (r.rotateAway e) ∧
      (execAll l (some r) (pre ++ .rotateAway e :: post)).2[pre.length]? =
        some (.head (r.rotateAway e).head?) ∧
      ((r.rotateAway e).head? = some e ↔ r.members = [e]) ∧
      (r.rotateAway e).members = if r.head? = some e then r.members.rotate 1 else r.members := by
  have hw := hr.wf_perm.1
  have hpre : ∀ c ∈ pre, c = .current ∨ c = .rotateAway e :=
    fun c hc => hcs c (List.mem_append_left post hc)
  have hpost : ∀ c ∈ post, c = .current ∨ c = .rotateAway e :=
    fun c hc => hcs c (List.mem_append_right pre hc)
  -- the rotation after `pre` leads where one rotation does, and `post` changes nothing after it
  have hrun : execAll l (some r) (pre ++ .rotateAway e :: post) =
      (some (r.rotateAway e), (execAll l (some r) pre).2 ++
        .head (r.rotateAway e).head? :: List.replicate post.length (.head (r.rotateAway e).head?)) := by
    rw [execAll_append, execAll_reports hw pre hpre, execAll_cons, exec_rotateAway,
      rotateAway_after_reports hw pre,
      execAll_of_rotateAway_eq (rotateAway_rotateAway hw e) post hpost]
  refine ⟨by rw [hrun], ?_, head?_rotateAway_eq_some_iff hw, members_rotateAway r e⟩
  rw [hrun, List.getElem?_append_right (by simp)]
  simp

/-- Two workers fail on the head of a ring of two proxies, with reads of the head around their
reports: the ring turns once, and both are answered the other proxy. -/
theorem failover_two_reports :
    Reaches (build [⟨"p", 1⟩, ⟨"q", 2⟩] 1) [] (build [⟨"p", 1⟩, ⟨"q", 2⟩] 1) ∧
      (∀ c ∈ [Command.current, .rotateAway ⟨"p", 1⟩, .current],
        c = .current ∨ c = .rotateAway ⟨"p", 1⟩) ∧
      (execAll .assumed (some (build [⟨"p", 1⟩, ⟨"q", 2⟩] 1))
          [.current, .rotateAway ⟨"p", 1⟩, .rotateAway ⟨"p", 1⟩, .current]).1 =
        some ((build [⟨"p", 1⟩, ⟨"q", 2⟩] 1).rotateAway ⟨"p", 1⟩) ∧
      (execAll .assumed (some (build [⟨"p", 1⟩, ⟨"q", 2⟩] 1))
          [.current, .rotateAway ⟨"p", 1⟩, .rotateAway ⟨"p", 1⟩, .current]).2[1]? =
        some (.head ((build [⟨"p", 1⟩, ⟨"q", 2⟩] 1).rotateAway ⟨"p", 1⟩).head?) ∧
      (((build [⟨"p", 1⟩, ⟨"q", 2⟩] 1).rotateAway ⟨"p", 1⟩).head? = some ⟨"p", 1⟩ ↔
        (build [⟨"p", 1⟩, ⟨"q", 2⟩] 1).members = [⟨"p", 1⟩]) ∧
      ((build [⟨"p", 1⟩, ⟨"q", 2⟩] 1).rotateAway ⟨"p", 1⟩).members =
        if (build [⟨"p", 1⟩, ⟨"q", 2⟩] 1).head? = some ⟨"p", 1⟩ then
          (build [⟨"p", 1⟩, ⟨"q", 2⟩] 1).members.rotate 1
        else (build [⟨"p", 1⟩, ⟨"q", 2⟩] 1).members := by
  have hr : Reaches (build [⟨"p", 1⟩, ⟨"q", 2⟩] 1) [] (build [⟨"p", 1⟩, ⟨"q", 2⟩] 1) := .refl
  exact ⟨hr, by decide, Reaches.failover_once hr .assumed ⟨"p", 1⟩ [.current]
    [.rotateAway ⟨"p", 1⟩, .current] (by decide)⟩

end Reports

end Ring

end Harvest
