import Harvest.Proofs.Store.Containment
import Mathlib
/-!
# Harvest.Proofs.Store.Atomic

Putting an object is atomic with respect to files.

The files of a tree are seen through `FileTree.file?`, a map from paths to contents. Writing,
removing and renaming change that map at their paths only (`FileTree.file?_write`,
`FileTree.file?_remove`, `FileTree.rename_ok`); making directories and creating a temporary file
change no existing file, and the temporary file's name named nothing before
(`FileTree.createTemp_fresh`).

Main statement (`LocalStore.putObject_atomic`): for every store, host, tree, path and source, a
put that fails leaves every file as it was, the temporary file included, though directories made
on the way remain; a put that succeeds changes the files only at the join of the base and the
path, which then holds the data.

The step-by-step put agrees with the one-shot `LocalStore.put`: a successful put is exactly
`put`'s, tree and URI (`LocalStore.put_of_putObject_ok`), and a put that `put` refuses fails
whatever the host and the source (`LocalStore.putObject_error_of_put`).
-/

namespace Harvest

namespace FileTree

/-! ## Files as a map -/

/-- A tree whose map has nothing at a path holds no entry there. -/
theorem filter_files_of_file?_none {t : FileTree} {p : String} (h : t.file? p = none) :
    t.files.filter (·.1 != p) = t.files := by
  apply List.filter_eq_self.2
  intro a ha
  have hnone : t.files.find? (·.1 == p) = none := by
    simpa [file?] using h
  have := List.find?_eq_none.1 hnone a ha
  simpa using this

/-- Removing a path that holds no file changes nothing. -/
theorem remove_of_file?_none {t : FileTree} {p : String} (h : t.file? p = none) : t.remove p = t := by
  unfold remove
  rw [filter_files_of_file?_none h]

/-- Removing a file just written removes every trace of the write. -/
theorem remove_write (t : FileTree) (p : String) (data : Bytes) :
    (t.write p data).remove p = t.remove p := by
  simp [write, remove, List.filter_append, List.filter_filter]

theorem file?_write (t : FileTree) (p : String) (data : Bytes) :
    (t.write p data).file? = Function.update t.file? p (some data) := by
  funext q
  by_cases hq : q = p
  · rw [hq, file?_write_self, Function.update_self]
  · rw [file?_write_other t data hq, Function.update_of_ne hq]

theorem file?_remove (t : FileTree) (p : String) :
    (t.remove p).file? = Function.update t.file? p none := by
  funext q
  by_cases hq : q = p
  · subst hq
    have hnone : (t.files.filter (·.1 != q)).find? (·.1 == q) = none :=
      List.find?_eq_none.2 (by simp)
    simp [remove, file?, hnone]
  · rw [Function.update_of_ne hq]
    simp only [remove, file?, find?_filter_ne _ hq]

@[simp] theorem dirs_write (t : FileTree) (p : String) (data : Bytes) :
    (t.write p data).dirs = t.dirs := rfl

@[simp] theorem dirs_remove (t : FileTree) (p : String) : (t.remove p).dirs = t.dirs := rfl

/-- Making directories only adds directories. -/
theorem dirs_subset_of_mkdirAll {t t' : FileTree} {d : String} (h : t.mkdirAll d = .ok t') :
    t.dirs ⊆ t'.dirs := by
  unfold mkdirAll at h
  dsimp only at h
  split at h
  · cases h
  · cases h
    -- the fold only ever appends to the list it starts from
    suffices hfold : ∀ (qs : List String) (ds : List String), ds ⊆ qs.foldl (fun ds q =>
        if q == "." || q == ".." || q == "/" || ds.contains q then ds else ds ++ [q]) ds by
      exact hfold _ _
    intro qs
    induction qs with
    | nil => intro ds; exact List.Subset.refl ds
    | cons q qs ih =>
      intro ds
      refine List.Subset.trans ?_ (ih _)
      dsimp only
      split
      · exact List.Subset.refl ds
      · exact List.subset_append_left ds [q]

theorem file?_mkdirAll {t t' : FileTree} {d : String} (h : t.mkdirAll d = .ok t') :
    t'.file? = t.file? := by
  funext q
  simp only [file?, mkdirAll_files h]

/-- A path is a directory by its name or by the directories of the tree, never by its files. -/
theorem kind_eq_directory_iff {t : FileTree} {p : String} :
    t.kind p = .directory ↔ (p == "." || p == ".." || p == "/" || t.dirs.contains p) = true := by
  unfold kind
  split
  · next h => exact iff_of_true rfl h
  · next h =>
    refine iff_of_false ?_ (by simpa using h)
    split
    · exact fun hk => PathKind.noConfusion hk
    · split <;> exact fun hk => PathKind.noConfusion hk

/-- A path that is missing holds no file. -/
theorem file?_of_kind_missing {t : FileTree} {p : String} (h : t.kind p = .missing) :
    t.file? p = none := by
  unfold kind at h
  split at h
  · cases h
  · split at h
    · cases h
    · assumption

/-! ## Renaming and temporary files -/

/-- A rename that succeeds moves the file at `src` to `dst`, and keeps the directories. -/
theorem rename_ok {t t' : FileTree} {src dst : String} (h : t.rename src dst = .ok t') :
    t'.file? = Function.update (Function.update t.file? src none) dst ((t.file? src).getD []) ∧
      t'.dirs = t.dirs ∧ t.kind dst ≠ .directory := by
  unfold rename at h
  split at h
  · cases h
  · cases h
  · next hk _ =>
    cases h
    exact ⟨by rw [file?_write, file?_remove], rfl, hk⟩

/-- The tree a successful rename leaves. -/
theorem rename_eq {t t' : FileTree} {src dst : String} (h : t.rename src dst = .ok t') :
    t' = (t.remove src).write dst ((t.file? src).getD []) := by
  unfold rename at h
  split at h
  · cases h
  · cases h
  · cases h
    rfl

/-- A rename onto a directory fails. -/
theorem rename_directory {t : FileTree} (src : String) {dst : String} (h : t.kind dst = .directory) :
    ∃ e, t.rename src dst = .error e := by
  unfold rename
  rw [h]
  exact ⟨_, rfl⟩

/-- A temporary file is created under a name that named nothing, empty; directories stay. -/
theorem createTemp_fresh {t t' : FileTree} {dir tmp : String} {draw : Nat → UInt32} :
    ∀ {tries i : Nat}, t.createTemp dir draw tries i = .ok (tmp, t') →
      t.kind tmp = .missing ∧ t' = t.write tmp [] := by
  intro tries
  induction tries with
  | zero => intro i h; cases h
  | succ k ih =>
    intro i h
    unfold createTemp at h
    dsimp only at h
    split at h
    · next hk =>
      cases h
      exact ⟨hk, rfl⟩
    · cases h
    · exact ih h

end FileTree

namespace LocalStore

/-- A put's temporary file is created under a name that named nothing, empty. -/
theorem createTemp_fresh {host : Host} {t t' : FileTree} {dir tmp : String}
    (h : createTemp host t dir = .ok (tmp, t')) : t.kind tmp = .missing ∧ t' = t.write tmp [] := by
  unfold createTemp at h
  split at h
  · cases h
  · exact FileTree.createTemp_fresh h

/-! ## Atomic puts -/

/-- What a put may do to the files of a tree `t`: a failure leaves them all as they were; a
success holds `data` at the join `full` of the base and the path and changes no other file. Either
way directories may only have been added. -/
inductive Atomic (s : LocalStore) (t : FileTree) (path : String) (data : Bytes) :
    FileTree × Except String String → Prop
  | failed {t' : FileTree} {e : String} : t'.file? = t.file? → t.dirs ⊆ t'.dirs →
      Atomic s t path data (t', .error e)
  | stored {t' : FileTree} {full : String} : s.target? path = some full →
      t'.file? = Function.update t.file? full (some data) → t.dirs ⊆ t'.dirs →
      Atomic s t path data (t', .ok ("file://" ++ full))

variable {s : LocalStore} {host : Host} {t : FileTree} {path : String} {src : Source}

/-- Removing the temporary file again leaves the files of the tree it was created in. -/
theorem file?_remove_temp {t1 t2 : FileTree} {tmp : String} (hk : t1.kind tmp = .missing)
    (ht : t2 = t1.write tmp []) (data : Bytes) :
    ((t2.write tmp data).remove tmp).file? = t1.file? ∧ (t2.remove tmp).file? = t1.file? := by
  have hnone := FileTree.file?_of_kind_missing hk
  subst ht
  constructor
  · rw [FileTree.file?_remove, FileTree.file?_write, FileTree.file?_write, Function.update_idem,
      Function.update_idem, Function.update_eq_self_iff.2 hnone.symm]
  · rw [FileTree.file?_remove, FileTree.file?_write, Function.update_idem,
      Function.update_eq_self_iff.2 hnone.symm]

/-- For every store, host, tree, path and source, a put is atomic: when it fails every file is as
it was, the temporary file included, although directories made on the way may remain; when it
succeeds the only change to the files is that the join of the base and the path holds the data. -/
theorem putObject_atomic (s : LocalStore) (host : Host) (t : FileTree) (path : String)
    (src : Source) : Atomic s t path src.data (s.putObject host t path src) := by
  unfold putObject
  split
  · exact .failed rfl (List.Subset.refl _)
  · split
    · exact .failed rfl (List.Subset.refl _)
    · next full hfull =>
      dsimp only
      split
      · exact .failed rfl (List.Subset.refl _)
      · next t1 hmk =>
        have hfiles1 := FileTree.file?_mkdirAll hmk
        have hdirs1 := FileTree.dirs_subset_of_mkdirAll hmk
        split
        · exact .failed hfiles1 hdirs1
        · next tmp t2 htemp =>
          obtain ⟨hk, ht2⟩ := createTemp_fresh htemp
          -- from here on the directories are those of `t2`, which are `t1`'s
          have hkept : ∀ u : FileTree, u.dirs = t2.dirs → t.dirs ⊆ u.dirs := by
            intro u hu
            rw [hu, ht2]
            exact hdirs1
          obtain ⟨hwritten, hempty⟩ := file?_remove_temp hk ht2 src.data
          split
          · exact .failed (by rw [hempty, hfiles1]) (hkept _ rfl)
          · split
            · exact .failed (by rw [hwritten, hfiles1]) (hkept _ rfl)
            · split
              · exact .failed (by rw [hwritten, hfiles1]) (hkept _ rfl)
              · next t3 hren =>
                obtain ⟨hfiles3, hdirs3, -⟩ := FileTree.rename_ok hren
                refine .stored hfull ?_ (hkept _ hdirs3)
                -- the temporary file held the data; moving it away leaves `t1`'s files
                have hheld : (t2.write tmp src.data).file? tmp = some src.data :=
                  FileTree.file?_write_self _ _ _
                rw [hfiles3, hheld, Option.getD_some, ← FileTree.file?_remove, hwritten, hfiles1]

/-! ## The one-shot put -/

/-- A put that `put` refuses fails whatever the host and the source. -/
theorem putObject_error_of_put {data : Bytes} {e : String} (h : s.put t path data = .error e) :
    ∃ e', (s.putObject host t path src).2 = .error e' := by
  unfold put at h
  unfold putObject
  split
  · exact ⟨_, rfl⟩
  · next hb =>
    rw [if_neg hb] at h
    split
    · exact ⟨_, rfl⟩
    · next full hfull =>
      rw [hfull] at h
      dsimp only at h ⊢
      split
      · exact ⟨_, rfl⟩
      · next t1 hmk =>
        rw [hmk] at h
        dsimp only at h
        -- `put` refuses only a target that is a directory, which the rename refuses too
        have hdir : t1.kind full = .directory := by
          split at h
          · assumption
          · cases h
        split
        · exact ⟨_, rfl⟩
        · next tmp t2 htemp =>
          obtain ⟨-, ht2⟩ := createTemp_fresh htemp
          have hdir3 : (t2.write tmp src.data).kind full = .directory := by
            rw [FileTree.kind_eq_directory_iff] at hdir ⊢
            rw [FileTree.dirs_write, ht2, FileTree.dirs_write]
            exact hdir
          obtain ⟨e', hren⟩ := FileTree.rename_directory tmp hdir3
          split
          · exact ⟨_, rfl⟩
          · split
            · exact ⟨_, rfl⟩
            · rw [hren]
              exact ⟨_, rfl⟩

/-- A successful put is exactly `put`'s: the same tree and the same URI. -/
theorem put_of_putObject_ok {t' : FileTree} {uri : String}
    (h : s.putObject host t path src = (t', .ok uri)) : s.put t path src.data = .ok (t', uri) := by
  unfold putObject at h
  split at h
  · cases h
  · next hb =>
    split at h
    · cases h
    · next full hfull =>
      dsimp only at h
      split at h
      · cases h
      · next t1 hmk =>
        split at h
        · cases h
        · next tmp t2 htemp =>
          split at h
          · cases h
          · split at h
            · cases h
            · split at h
              · cases h
              · next t3 hren =>
                cases h
                obtain ⟨hk, ht2⟩ := createTemp_fresh htemp
                obtain ⟨-, hdirs3, hnotdir⟩ := FileTree.rename_ok hren
                -- the target is no directory of `t1`, whose directories the rename saw
                have hnotdir1 : t1.kind full ≠ .directory := by
                  rw [Ne, FileTree.kind_eq_directory_iff] at hnotdir ⊢
                  rwa [FileTree.dirs_write, ht2, FileTree.dirs_write] at hnotdir
                -- moving the temporary file away leaves `t1`, then the data lands at the target
                have ht3 : t' = t1.write full src.data := by
                  rw [FileTree.rename_eq hren, FileTree.file?_write_self, Option.getD_some, ht2,
                    FileTree.remove_write, FileTree.remove_write,
                    FileTree.remove_of_file?_none (FileTree.file?_of_kind_missing hk)]
                unfold put
                rw [if_neg hb, hfull]
                dsimp only
                rw [hmk]
                dsimp only
                split
                · next hd => exact absurd hd hnotdir1
                · rw [ht3]

end LocalStore

end Harvest
