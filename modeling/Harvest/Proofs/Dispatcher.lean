import Harvest.Engine.Basic
import Mathlib
/-!
# Harvest.Proofs.Dispatcher

What handing an outcome to the observers does, for every set of observers and every outcome.

Registration keeps the observers that are present, in the order given
(`Dispatcher.observers_new`). A dispatch to observers that act on a state calls every registered
observer once, in registration order, each on the state the one before it left, whatever the
earlier ones answered: its run is `Dispatch.calls` (`Dispatch.run_state`). Its answer is no
failure exactly when no observer failed, and otherwise the lines `observer <i>: <message>` of
exactly the failing observers, in increasing position among the registered observers
(`Dispatch.joined_eq`, `Dispatch.mem_failures`, `Dispatch.failures_sorted`). The main statement
is `Dispatcher.dispatch_contract`.

The engine's delivery to its observers is such a dispatch, over the engine's world
(`Engine.dispatch_eq`).
-/

namespace Harvest

namespace Dispatcher

variable {ω : Type}

@[simp] theorem observers_register_some (d : Dispatcher ω) (obs : ω) :
    (d.register (some obs)).observers = d.observers ++ [obs] := rfl

@[simp] theorem register_none (d : Dispatcher ω) : d.register none = d := rfl

/-- Registering a list of observers one after another appends the present ones, in order. -/
theorem observers_foldl_register (d : Dispatcher ω) (obs : List (Option ω)) :
    (obs.foldl register d).observers = d.observers ++ obs.reduceOption := by
  induction obs generalizing d with
  | nil => simp
  | cons o os ih =>
    cases o with
    | none => simp [ih, List.reduceOption_cons_of_none]
    | some o => simp [ih, List.reduceOption_cons_of_some]

/-- A new dispatcher holds the present observers of its initial set, in order. -/
theorem observers_new (obs : List (Option ω)) : (new obs).observers = obs.reduceOption := by
  rw [new, observers_foldl_register]
  rfl

end Dispatcher

namespace Dispatch

variable {σ α : Type}

/-! ## Each observer once, in order -/

/-- Calls each observer once, in order, on `x`, each on the state the one before it left; gives
their answers in order and the state the last one left. -/
def calls (x : α) : List (α → StateM σ (Option String)) → σ → List (Option String) × σ
  | [], s => ([], s)
  | obs :: rest, s =>
    let first := (obs x).run s
    let later := calls x rest first.2
    (first.1 :: later.1, later.2)

/-- One answer per observer. -/
@[simp] theorem length_calls (x : α) (obs : List (α → StateM σ (Option String))) (s : σ) :
    (calls x obs s).1.length = obs.length := by
  induction obs generalizing s with
  | nil => rfl
  | cons o os ih => simp [calls, ih]

/-- Calling the observers through `mapM` is `calls`. -/
theorem mapM_run (x : α) (obs : List (α → StateM σ (Option String))) (s : σ) :
    (List.mapM (fun o : α → StateM σ (Option String) => o x) obs).run s = calls x obs s := by
  induction obs generalizing s with
  | nil => rfl
  | cons o os ih =>
    simp only [List.mapM_cons, StateT.run_bind, StateT.run_pure, ih]
    rfl

/-- A dispatch to observers over a state calls them as `calls` does and joins their answers. -/
theorem run_state (obs : List (α → StateM σ (Option String))) (x : α) (s : σ) :
    (run obs x).run s = (joined (calls x obs s).1, (calls x obs s).2) := by
  simp only [run, StateT.run_bind, StateT.run_pure, mapM_run]
  rfl

/-! ## The failures reported -/

/-- The failing observers among the answers: their positions and messages, in order. -/
def failures (answers : List (Option String)) : List (Nat × String) :=
  answers.zipIdx.filterMap fun (a, i) => a.map (i, ·)

/-- The line of one failure. -/
def failureLine (f : Nat × String) : String := "observer " ++ toString f.1 ++ ": " ++ f.2

theorem failureLines_eq (answers : List (Option String)) :
    failureLines answers = (failures answers).map failureLine := by
  simp only [failureLines, failures, List.map_filterMap]
  congr 1
  funext p
  cases p.1 <;> rfl

/-- A pair is a failure exactly when the observer at that position answered that message. -/
theorem mem_failures {answers : List (Option String)} {i : Nat} {e : String} :
    (i, e) ∈ failures answers ↔ answers[i]? = some (some e) := by
  simp only [failures, List.mem_filterMap, Prod.exists]
  constructor
  · rintro ⟨a, j, hmem, hmap⟩
    cases a with
    | none => cases hmap
    | some msg =>
      cases hmap
      rw [List.mem_zipIdx_iff_getElem?] at hmem
      simpa using hmem
  · intro h
    exact ⟨some e, i, by simpa [List.mem_zipIdx_iff_getElem?] using h, rfl⟩

/-- Positions in a numbered list increase. -/
theorem pairwise_zipIdx (answers : List (Option String)) (k : Nat) :
    (answers.zipIdx k).Pairwise fun p q => p.2 < q.2 := by
  induction answers generalizing k with
  | nil => exact .nil
  | cons a as ih =>
    rw [List.zipIdx_cons, List.pairwise_cons]
    exact ⟨fun q hq => by have := List.le_snd_of_mem_zipIdx hq; omega, ih (k + 1)⟩

/-- Failures are listed by increasing position. -/
theorem failures_sorted (answers : List (Option String)) :
    (failures answers).Pairwise fun f g => f.1 < g.1 := by
  unfold failures
  refine List.Pairwise.filterMap _ ?_ (pairwise_zipIdx answers 0)
  rintro ⟨a, i⟩ ⟨b, j⟩ hij f hf g hg
  cases a <;> cases b <;> cases hf <;> cases hg
  exact hij

/-- No failure is listed exactly when no observer failed. -/
theorem failures_eq_nil_iff (answers : List (Option String)) :
    failures answers = [] ↔ ∀ a ∈ answers, a = none := by
  constructor
  · intro h a ha
    obtain ⟨i, hi, rfl⟩ := List.getElem_of_mem ha
    cases hai : answers[i] with
    | none => rfl
    | some e =>
      have : (i, e) ∈ failures answers := mem_failures.2 (by simp [hi, hai])
      simp [h] at this
  · intro h
    apply List.eq_nil_iff_forall_not_mem.2
    rintro ⟨i, e⟩ hmem
    have hget := mem_failures.1 hmem
    exact absurd (h _ (List.mem_of_getElem? hget)) (by simp)

/-- The joined answer: none when no observer failed, else the failure lines, one per line. -/
theorem joined_eq (answers : List (Option String)) :
    joined answers = if failures answers = [] then none
      else some ("\n".intercalate ((failures answers).map failureLine)) := by
  unfold joined
  rw [failureLines_eq]
  cases h : failures answers with
  | nil => rfl
  | cons f fs => rfl

/-- What a dispatch may answer after the observers answered `answers`, in order: nothing exactly
when no observer failed, and otherwise the lines `observer <i>: <message>`, one per line, of
exactly the failing observers, by increasing position. -/
structure Reports (answers : List (Option String)) (r : Option String) : Prop where
  none_iff : r = none ↔ ∀ a ∈ answers, a = none
  lines : ∀ msg, r = some msg → ∃ fs : List (Nat × String),
    fs.Pairwise (fun f g => f.1 < g.1) ∧ (∀ i e, (i, e) ∈ fs ↔ answers[i]? = some (some e)) ∧
      msg = "\n".intercalate (fs.map failureLine)

/-- The joined answer reports the failures. -/
theorem joined_reports (answers : List (Option String)) : Reports answers (joined answers) where
  none_iff := by
    rw [joined_eq, ← failures_eq_nil_iff]
    split <;> simp_all
  lines msg h := by
    rw [joined_eq] at h
    split at h
    · cases h
    · exact ⟨failures answers, failures_sorted answers, fun i e => mem_failures,
        (Option.some.inj h).symm⟩

end Dispatch

namespace Dispatcher

variable {σ α : Type}

/-- For every list of observers given at creation, absent ones included, every value and every
state: the dispatcher holds the present observers in order; a dispatch calls each of them once,
in that order, each on the state the one before it left, whatever the earlier ones answered; and
it answers no failure exactly when no observer failed, and otherwise the failures of exactly the
failing observers, by increasing position among the registered observers. -/
theorem dispatch_contract (obs : List (Option (α → StateM σ (Option String)))) (x : α) (s : σ) :
    (new obs).observers = obs.reduceOption ∧
      (((new obs).dispatch x).run s).2 = (Dispatch.calls x obs.reduceOption s).2 ∧
      Dispatch.Reports (Dispatch.calls x obs.reduceOption s).1 (((new obs).dispatch x).run s).1 := by
  have hrun : ((new obs).dispatch x).run s =
      (Dispatch.joined (Dispatch.calls x obs.reduceOption s).1,
        (Dispatch.calls x obs.reduceOption s).2) := by
    rw [dispatch, observers_new, Dispatch.run_state]
  rw [hrun]
  exact ⟨observers_new obs, rfl, Dispatch.joined_reports _⟩

/-- An observer that logs its name with the value it is given, and answers `answer`. -/
def logging (name : String) (answer : Option String) : String → StateM (List String) (Option String) :=
  fun u => do
    modify (· ++ [name ++ ":" ++ u])
    pure answer

-- the absent observer is dropped, so the failing one is observer 1
example : ((new [some (logging "a" none), none, some (logging "b" (some "down"))]).dispatch
    "u").run [] = (some "observer 1: down", ["a:u", "b:u"]) := by rfl

end Dispatcher

/-! ## The engine's delivery -/

namespace Engine

variable {σ : Type} (e : Engine σ)

/-- One observer of the engine as an action on the world. -/
def observerAction (batchId : String) (obs : Observer) :
    Outcome → StateM (World σ) (Option String) :=
  fun out w => ((observe w batchId out obs).2, (observe w batchId out obs).1)

/-- The engine's fold over its observers, from answers `acc` already collected, calls them as
`Dispatch.calls` does. -/
theorem foldl_observe (batchId : String) (out : Outcome) (obs : List Observer) (w : World σ)
    (acc : List (Option String)) :
    obs.foldl (fun (p : World σ × List (Option String)) o =>
        ((observe p.1 batchId out o).1, p.2 ++ [(observe p.1 batchId out o).2])) (w, acc) =
      ((Dispatch.calls out (obs.map (observerAction batchId)) w).2,
        acc ++ (Dispatch.calls out (obs.map (observerAction batchId)) w).1) := by
  induction obs generalizing w acc with
  | nil => simp [Dispatch.calls]
  | cons o os ih =>
    simp only [List.foldl_cons, List.map_cons, Dispatch.calls]
    rw [ih, List.append_assoc, List.singleton_append]
    rfl

/-- The engine's delivery of an outcome is a dispatch over the world to its observers. -/
theorem dispatch_eq (w : World σ) (batchId : String) (out : Outcome) :
    e.dispatch w batchId out =
      ((((Dispatcher.new (e.config.observers.map fun o => some (observerAction batchId o))).dispatch
          out).run w).2,
        (((Dispatcher.new (e.config.observers.map fun o => some (observerAction batchId o))).dispatch
          out).run w).1) := by
  rw [Dispatcher.dispatch, Dispatcher.observers_new, Dispatch.run_state]
  have hred : (e.config.observers.map fun o => some (observerAction batchId o)).reduceOption =
      e.config.observers.map
        (observerAction batchId : Observer → Outcome → StateM (World σ) (Option String)) := by
    simp [List.reduceOption, List.filterMap_map]
  rw [hred]
  unfold dispatch
  rw [foldl_observe]
  rfl

end Engine

end Harvest
