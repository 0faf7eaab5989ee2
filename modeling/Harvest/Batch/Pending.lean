import Harvest.Locator
/-!
# Harvest.Batch.Pending

The pending set: locators waiting to be fetched, first in first out, at most one per key.

Adding trims each locator, skips blank ones and skips those whose key is already waiting
(including one added earlier in the same call); the others go to the back in the order given.
Taking removes the oldest locator and frees its key, so that the same key may be added again.
-/

namespace Harvest

/-- Locators waiting to be fetched, each with its key, oldest first. -/
structure Pending where
  entries : List (String × String)
  deriving DecidableEq, Repr

namespace Pending

/-- The empty pending set. -/
def empty : Pending := ⟨[]⟩

/-- The waiting locators, oldest first. -/
def toList (p : Pending) : List String := p.entries.map (·.1)

/-- The keys that are waiting. -/
def keys (p : Pending) : List String := p.entries.map (·.2)

/-- How many locators wait. -/
def size (p : Pending) : Nat := p.entries.length

/-- Adds one locator to a set and a running count: trimmed, unless it is blank or its key is
waiting already. -/
def addOne (acc : Pending × Nat) (raw : String) : Pending × Nat :=
  let t := trimBlank raw
  if t.isEmpty then acc
  else
    let k := Locator.key t
    if acc.1.keys.contains k then acc
    else (⟨acc.1.entries ++ [(t, k)]⟩, acc.2 + 1)

/-- Adds locators in order; returns the set and how many were added. -/
def add (p : Pending) (urls : List String) : Pending × Nat := urls.foldl addOne (p, 0)

/-- A pending set holding the given locators. -/
def ofList (urls : List String) : Pending := (empty.add urls).1

/-- Takes the oldest locator. -/
def pop (p : Pending) : Option String × Pending :=
  match p.entries with
  | [] => (none, p)
  | (u, _) :: rest => (some u, ⟨rest⟩)

/-- Drops every waiting locator. -/
def clear (_ : Pending) : Pending := empty

/-! ## Adding appends, taking takes the oldest -/

theorem size_eq_length_toList (p : Pending) : p.size = p.toList.length := by
  simp [size, toList]

/-- One step of adding appends at most one entry and counts what it appends. -/
theorem addOne_appends (acc : Pending × Nat) (raw : String) :
    ∃ new, (addOne acc raw).1.entries = acc.1.entries ++ new ∧
      (addOne acc raw).2 = acc.2 + new.length := by
  unfold addOne
  dsimp only
  split
  · exact ⟨[], by simp⟩
  · split
    · exact ⟨[], by simp⟩
    · exact ⟨[_], rfl, rfl⟩

theorem foldl_addOne_appends (urls : List String) (acc : Pending × Nat) :
    ∃ new, (urls.foldl addOne acc).1.entries = acc.1.entries ++ new ∧
      (urls.foldl addOne acc).2 = acc.2 + new.length := by
  induction urls generalizing acc with
  | nil => exact ⟨[], by simp⟩
  | cons raw rest ih =>
    obtain ⟨new₁, h₁, c₁⟩ := addOne_appends acc raw
    obtain ⟨new₂, h₂, c₂⟩ := ih (addOne acc raw)
    refine ⟨new₁ ++ new₂, ?_, ?_⟩
    · rw [List.foldl_cons, h₂, h₁, List.append_assoc]
    · rw [List.foldl_cons, c₂, c₁, List.length_append, Nat.add_assoc]

/-- Adding appends the new locators after those waiting, and answers how many it appended. -/
theorem add_appends (p : Pending) (urls : List String) :
    ∃ new, (p.add urls).1.toList = p.toList ++ new ∧ (p.add urls).2 = new.length := by
  obtain ⟨new, h, c⟩ := foldl_addOne_appends urls (p, 0)
  refine ⟨new.map (·.1), ?_, ?_⟩
  · simp only [add, toList, h, List.map_append]
  · simp only [add, c, Nat.zero_add, List.length_map]

/-- The locators an addition appended: what follows the old ones. -/
theorem toList_add (p : Pending) (urls : List String) :
    (p.add urls).1.toList = p.toList ++ (p.add urls).1.toList.drop p.size := by
  obtain ⟨new, h, -⟩ := add_appends p urls
  rw [h, size_eq_length_toList, List.drop_left]

/-- An addition answers the number of locators it appended. -/
theorem add_count (p : Pending) (urls : List String) :
    (p.add urls).2 = ((p.add urls).1.toList.drop p.size).length := by
  obtain ⟨new, h, c⟩ := add_appends p urls
  rw [c, h, size_eq_length_toList, List.drop_left]

/-- An addition grows the set by the locators it appended. -/
theorem size_add (p : Pending) (urls : List String) :
    (p.add urls).1.size = p.size + ((p.add urls).1.toList.drop p.size).length := by
  obtain ⟨new, h, -⟩ := add_appends p urls
  rw [size_eq_length_toList, size_eq_length_toList, h, List.drop_left, List.length_append]

theorem toList_of_pop_some {p q : Pending} {u : String} (h : p.pop = (some u, q)) :
    p.toList = u :: q.toList := by
  unfold pop at h
  split at h
  · cases h
  · next v k rest he =>
    cases h
    simp [toList, he]

theorem size_of_pop_some {p q : Pending} {u : String} (h : p.pop = (some u, q)) :
    p.size = q.size + 1 := by
  rw [size_eq_length_toList, size_eq_length_toList, toList_of_pop_some h, List.length_cons]

theorem toList_of_pop_none {p : Pending} (h : p.pop.1 = none) : p.toList = [] := by
  unfold pop at h
  split at h
  · next he => simp [toList, he]
  · cases h

/-! ## Scripted use -/

/-- One operation on a pending set. -/
inductive Command where
  | replace (urls : List String)
  | add (urls : List String)
  | pop
  | size
  | clear
  | list
  deriving DecidableEq, Repr

/-- What an operation answers. -/
inductive Reply where
  | count (n : Nat)
  | taken (url : Option String)
  | nothing
  deriving DecidableEq, Repr

/-- Runs one operation. -/
def exec (p : Pending) : Command → Pending × Reply
  | .replace urls => let q := ofList urls; (q, .count q.size)
  | .add urls => let (q, n) := p.add urls; (q, .count n)
  | .pop => let (u, q) := p.pop; (q, .taken u)
  | .size => (p, .count p.size)
  | .clear => (p.clear, .nothing)
  | .list => (p, .nothing)

end Pending

end Harvest
