import Harvest.Batch.Step
/-!
# Harvest.Batch.Trace

What a run shows, read off its events: the locators taken from the pending set, handed to the
worker, given up by the feeder, checked and fetched; the successes and the failures counted;
the outcomes delivered; and the locators the caller's additions appended, with the count each addition
answered.

`firstNew` keeps, of a list of locators, each one whose key has not come up earlier in the
list; the feeder of a run hands on exactly these.
-/

namespace Harvest

namespace Event

/-- The locator an event shows taken from the pending set. -/
def popped? : Event → Option String
  | .popped u => some u
  | _ => none

/-- The locator an event shows handed to the worker. -/
def handed? : Event → Option String
  | .handed u => some u
  | _ => none

/-- The locator an event shows given up by the feeder. -/
def dropped? : Event → Option String
  | .dropped u => some u
  | _ => none

/-- The locator an event shows checked by the worker. -/
def checked? : Event → Option String
  | .checked u => some u
  | _ => none

/-- The locator an event shows fetched. -/
def fetched? : Event → Option String
  | .fetched u => some u
  | _ => none

/-- The outcome an event shows counted as a success. -/
def succeeded? : Event → Option Outcome
  | .succeeded out => some out
  | _ => none

/-- The locator and failure an event shows counted as a failure. -/
def failed? : Event → Option (String × FetchError)
  | .failed u e => some (u, e)
  | _ => none

/-- The outcome an event shows delivered to the observers and the caller. -/
def delivered? : Event → Option Outcome
  | .delivered out => some out
  | _ => none

/-- The count an event shows answered by an addition to the pending set. -/
def addCount? : Event → Option Nat
  | .added _ _ count => some count
  | _ => none

/-- The locators an event shows appended to the pending set. -/
def entered : Event → List String
  | .added _ entered _ => entered
  | _ => []

end Event

namespace Batch

/-- The values one projection of the events picks out of a trace, in order. -/
def pick {α : Type} (f : Event → Option α) (tr : List Event) : List α := tr.filterMap f

section Pick

variable {α : Type} (f : Event → Option α)

@[simp] theorem pick_nil : pick f [] = [] := rfl

@[simp] theorem pick_cons (ev : Event) (tr : List Event) :
    pick f (ev :: tr) = (f ev).toList ++ pick f tr := by
  cases hf : f ev <;> simp [pick, hf]

@[simp] theorem pick_append (tr evs : List Event) : pick f (tr ++ evs) = pick f tr ++ pick f evs :=
  List.filterMap_append

end Pick

/-- The locators taken from the pending set, in order. -/
def popped (tr : List Event) : List String := pick Event.popped? tr

/-- The locators handed to the worker, in order. -/
def handed (tr : List Event) : List String := pick Event.handed? tr

/-- The locators the feeder gave up. -/
def dropped (tr : List Event) : List String := pick Event.dropped? tr

/-- The locators the worker started on (checked against the filter), in order. -/
def checked (tr : List Event) : List String := pick Event.checked? tr

/-- The locators fetched, in order. -/
def fetched (tr : List Event) : List String := pick Event.fetched? tr

/-- The outcomes counted as successes, in order. -/
def successes (tr : List Event) : List Outcome := pick Event.succeeded? tr

/-- The locators whose fetch failed and was counted, with their failures, in order. -/
def failures (tr : List Event) : List (String × FetchError) := pick Event.failed? tr

/-- The outcomes delivered to the observers and the caller, in order. -/
def deliveries (tr : List Event) : List Outcome := pick Event.delivered? tr

/-- The counts the additions to the pending set answered, in order. -/
def addCounts (tr : List Event) : List Nat := pick Event.addCount? tr

/-- The locators the additions appended to the pending set, in order. -/
def entered (tr : List Event) : List String := tr.flatMap Event.entered

/-- The locators of a list whose key has not come up earlier in the list, nor in `seen`. -/
def firstNew (seen : List String) : List String → List String
  | [] => []
  | u :: us =>
    if Locator.key u ∈ seen then firstNew seen us
    else u :: firstNew (Locator.key u :: seen) us

theorem firstNew_append_singleton (seen l : List String) (u : String) :
    firstNew seen (l ++ [u]) =
      firstNew seen l ++
        (if Locator.key u ∈ seen ∨ Locator.key u ∈ l.map Locator.key then [] else [u]) := by
  induction l generalizing seen with
  | nil => by_cases hu : Locator.key u ∈ seen <;> simp [firstNew, hu]
  | cons v vs ih =>
    by_cases hv : Locator.key v ∈ seen
    · -- `v` is skipped, and its key, being in `seen`, changes nothing in the condition
      have hiff : (Locator.key u ∈ seen ∨ Locator.key u ∈ vs.map Locator.key) ↔
          (Locator.key u ∈ seen ∨ Locator.key u ∈ (v :: vs).map Locator.key) := by
        simp only [List.map_cons, List.mem_cons]
        constructor
        · rintro (h | h)
          · exact .inl h
          · exact .inr (.inr h)
        · rintro (h | h | h)
          · exact .inl h
          · exact .inl (by rw [h]; exact hv)
          · exact .inr h
      rw [List.cons_append, firstNew, if_pos hv, ih, firstNew, if_pos hv]
      simp only [hiff]
    · have hiff : (Locator.key u ∈ Locator.key v :: seen ∨ Locator.key u ∈ vs.map Locator.key) ↔
          (Locator.key u ∈ seen ∨ Locator.key u ∈ (v :: vs).map Locator.key) := by
        simp only [List.map_cons, List.mem_cons]
        constructor
        · rintro ((h | h) | h)
          · exact .inr (.inl h)
          · exact .inl h
          · exact .inr (.inr h)
        · rintro (h | h | h)
          · exact .inl (.inr h)
          · exact .inl (.inl h)
          · exact .inr h
      rw [List.cons_append, firstNew, if_neg hv, ih, firstNew, if_neg hv, List.cons_append]
      simp only [hiff]

/-- The locators `firstNew` keeps are among those it is given, in order. -/
theorem firstNew_sublist (seen l : List String) : (firstNew seen l).Sublist l := by
  induction l generalizing seen with
  | nil => exact List.Sublist.slnil
  | cons u us ih =>
    unfold firstNew
    split
    · exact (ih seen).cons u
    · exact (ih _).cons_cons u

/-- The keys `firstNew` keeps are new: not in `seen`, and no two alike. -/
theorem nodup_map_key_firstNew (seen l : List String) :
    ((firstNew seen l).map Locator.key).Nodup ∧
      ∀ u ∈ firstNew seen l, Locator.key u ∉ seen := by
  induction l generalizing seen with
  | nil => simp [firstNew]
  | cons v vs ih =>
    by_cases hv : Locator.key v ∈ seen
    · simpa [firstNew, hv] using ih seen
    · obtain ⟨hnd, hnew⟩ := ih (Locator.key v :: seen)
      simp only [firstNew, hv, if_false, List.map_cons, List.nodup_cons, List.mem_map,
        List.mem_cons]
      refine ⟨⟨?_, hnd⟩, ?_⟩
      · rintro ⟨w, hw, hk⟩
        exact hnew w hw (List.mem_cons.2 (.inl hk))
      · intro w hw
        rcases hw with rfl | hw
        · exact hv
        · exact fun hk => hnew w hw (List.mem_cons_of_mem _ hk)

end Batch

end Harvest
