import Harvest.Proofs.Text.Cleaning
import Harvest.Store.Local
/-!
# Harvest.Proofs.Store.Containment

Where a local blob store writes, and what it refuses.

A store is opened on the clean form of its directory (`openAt_base`). Putting data refuses a
blank path and a path whose join with the base does not start with the base and a slash
(`put_blank`, `put_escapes`); past these checks it fails only while making the parents or when
the target is a directory, with messages of their own (`put_error_of_target`), and otherwise
writes the data at the join (`put_ok`), where a write changes no other file
(`FileTree.file?_write_other`).

Main statement (`put_inside_base`): on a base that ends in a name, the textual test is exactly
containment, so put refuses a path just when it is blank or its join does not lie strictly inside
the base, and a successful put leaves the data at the join, changes no other file and answers
`file://` and the join. On the bases that do not end in a name the test is wrong both ways: `.`
refuses every path and `..` lets through paths that climb out of it (`put_misjudges_dot_bases`).
-/

namespace Harvest

open SlashPath

/-! ## Blank paths -/

/-- A text trims to nothing exactly when it is blank. -/
theorem trimBlank_isEmpty (s : String) : (trimBlank s).isEmpty = isBlankText s := by
  rw [Bool.eq_iff_iff, String.isEmpty_iff, ← String.toList_inj, trimBlank, String.toList_ofList,
    String.toList_empty, List.reverse_eq_nil_iff, List.dropWhile_eq_nil_iff, isBlankText,
    List.all_eq_true]
  constructor
  · intro h c hc
    -- what is left after the leading blanks would start with a character that is not blank
    by_contra hnb
    have hne : s.toList.dropWhile isBlank ≠ [] := by
      rw [Ne, List.dropWhile_eq_nil_iff]
      exact fun hall => hnb (hall c hc)
    exact absurd (h _ (List.mem_reverse.2 (List.head_mem hne))) (by
      simpa using List.head_dropWhile_not isBlank hne)
  · intro h c hc
    exact h c ((List.dropWhile_suffix isBlank).subset (List.mem_reverse.1 hc))

/-! ## Files of a tree -/

namespace FileTree

/-- Writing a file puts its data at its path. -/
theorem file?_write_self (t : FileTree) (p : String) (data : Bytes) :
    (t.write p data).file? p = some data := by
  have hnone : t.files.find? (fun _ => false) = none := List.find?_eq_none.2 (by simp)
  simp [write, file?, List.find?_append, List.find?_filter, hnone]

/-- Dropping the entries at one path leaves the lookup of any other path as it was. -/
theorem find?_filter_ne (files : List (String × Bytes)) {p q : String} (h : q ≠ p) :
    (files.filter (·.1 != p)).find? (·.1 == q) = files.find? (·.1 == q) := by
  rw [List.find?_filter]
  -- an entry at `q` is never one at `p`
  congr 1
  funext a
  by_cases ha : a.1 = q
  · simp [ha, h]
  · simp [ha]

/-- Writing a file leaves every other path as it was. -/
theorem file?_write_other (t : FileTree) {p q : String} (data : Bytes) (h : q ≠ p) :
    (t.write p data).file? q = t.file? q := by
  simp only [write, file?, List.find?_append, find?_filter_ne _ h]
  -- `q` is not the new entry's path
  simp [Ne.symm h]

/-- Making directories leaves the files as they were. -/
theorem mkdirAll_files {t t' : FileTree} {d : String} (h : t.mkdirAll d = .ok t') :
    t'.files = t.files := by
  unfold mkdirAll at h
  dsimp only at h
  split at h
  · cases h
  · cases h
    rfl

end FileTree

/-! ## Opening a store and putting data -/

namespace LocalStore

/-- An opened store's base is the clean form of the directory it was opened on. -/
theorem openAt_base {t0 t : FileTree} {b : String} {s : LocalStore}
    (h : openAt t0 b = .ok (s, t)) : s.base = clean b := by
  unfold openAt at h
  split at h
  · cases h
  · dsimp only at h
    split at h
    · cases h
      rfl
    · cases h
    · cases h
    · split at h
      · cases h
        rfl
      · cases h

/-- A store opens on a directory that exists, leaving the tree as it is. -/
theorem openAt_directory {t : FileTree} {b : String} (hb : isBlankText b = false)
    (hk : t.kind (clean b) = .directory) : openAt t b = .ok (⟨clean b⟩, t) := by
  unfold openAt
  rw [trimBlank_isEmpty, hb, if_neg Bool.false_ne_true]
  dsimp only
  rw [hk]

/-- A store opens on a missing directory by making it and its parents. -/
theorem openAt_missing {t t' : FileTree} {b : String} (hb : isBlankText b = false)
    (hk : t.kind (clean b) = .missing) (hm : t.mkdirAll (clean b) = .ok t') :
    openAt t b = .ok (⟨clean b⟩, t') := by
  unfold openAt
  rw [trimBlank_isEmpty, hb, if_neg Bool.false_ne_true]
  dsimp only
  rw [hk]
  dsimp only
  rw [hm]

/-- A store opens on an existing directory already in clean form under that very name. -/
theorem openAt_clean_directory {t : FileTree} {b : String} (hb : isBlankText b = false)
    (hc : clean b = b) (hk : t.kind b = .directory) : openAt t b = .ok (⟨b⟩, t) := by
  have h := openAt_directory hb (by rw [hc]; exact hk)
  rwa [hc] at h

variable {s : LocalStore} {t : FileTree} {p : String} {data : Bytes}

theorem target?_eq : s.target? p =
    if (join [s.base, p]).startsWith (s.base ++ "/") then some (join [s.base, p]) else none :=
  rfl

/-- The only target a store gives a path is the path's join with the base. -/
theorem eq_join_of_target? {full : String} (h : s.target? p = some full) :
    full = join [s.base, p] := by
  rw [target?_eq] at h
  split at h
  · cases h
    rfl
  · cases h

/-- A blank path is refused. -/
theorem put_blank (h : isBlankText p = true) : s.put t p data = .error "path is required" := by
  unfold put
  rw [trimBlank_isEmpty, h, if_pos rfl]

/-- A path whose join is not below the base is refused. -/
theorem put_escapes (hp : isBlankText p = false) (h : s.target? p = none) :
    s.put t p data = .error ("path " ++ quoted p ++ " escapes base directory") := by
  unfold put
  rw [trimBlank_isEmpty, hp, if_neg Bool.false_ne_true, h]

/-- Once the path is accepted, put fails only in the file tree: making the parents, or moving the
data onto a directory. -/
theorem put_error_of_target {full e : String} (hp : isBlankText p = false)
    (h : s.target? p = some full) (he : s.put t p data = .error e) :
    e.toList.head? = some 'c' ∨ e.toList.head? = some 'r' := by
  unfold put at he
  rw [trimBlank_isEmpty, hp, if_neg Bool.false_ne_true, h] at he
  dsimp only at he
  split at he
  · cases he
    left
    simp
  · split at he
    · cases he
      right
      simp
    · cases he

/-- What an accepted put did: the path was not blank, its join lay below the base, the parents
were made, and the data was written at the join. -/
theorem put_ok {t' : FileTree} {uri : String} (h : s.put t p data = .ok (t', uri)) :
    ∃ full t1, isBlankText p = false ∧ s.target? p = some full ∧
      t.mkdirAll (dir full) = .ok t1 ∧ t' = t1.write full data ∧ uri = "file://" ++ full := by
  unfold put at h
  rw [trimBlank_isEmpty] at h
  cases hp : isBlankText p
  · rw [hp, if_neg Bool.false_ne_true] at h
    cases htarget : s.target? p with
    | none => rw [htarget] at h; cases h
    | some full =>
      rw [htarget] at h
      dsimp only at h
      split at h
      · cases h
      · next t1 hmk =>
        split at h
        · cases h
        · cases h
          exact ⟨full, t1, rfl, rfl, hmk, rfl, rfl⟩
  · rw [hp, if_pos rfl] at h
    cases h

/-! ## Refusals -/

/-- An answer that is one of the two refusals is an error whose message starts with `p`. -/
theorem refusal_head {α : Type} {r : Except String α}
    (hr : r = .error "path is required" ∨
      r = .error ("path " ++ quoted p ++ " escapes base directory")) :
    ∃ e, r = .error e ∧ e.toList.head? = some 'p' := by
  rcases hr with rfl | rfl
  · exact ⟨_, rfl, by simp⟩
  · exact ⟨_, rfl, by simp⟩

/-- A put, answering `Refused` on a blank path and on a join outside the base and not on a join
inside it, is refused exactly when the path is blank or its join lies outside. -/
theorem refused_iff {Refused : Prop} (hblank : isBlankText p = true → Refused)
    (hout : isBlankText p = false → ¬ StrictlyInside s.base (join [s.base, p]) → Refused)
    (hin : isBlankText p = false → StrictlyInside s.base (join [s.base, p]) → ¬ Refused) :
    Refused ↔ isBlankText p = true ∨ ¬ StrictlyInside s.base (join [s.base, p]) := by
  cases hp : isBlankText p
  · by_cases hi : StrictlyInside s.base (join [s.base, p])
    · simp only [hi, not_true, or_false, Bool.false_eq_true, iff_false]
      exact hin hp hi
    · simp only [hi, not_false_eq_true, or_true, iff_true]
      exact hout hp hi
  · simp only [true_or, iff_true]
    exact hblank hp

theorem ne_empty_of_not_blank (h : isBlankText p = false) : p ≠ "" := by
  rintro rfl
  cases h

/-- The store's own put refuses a blank path, the tree left as it was. -/
theorem putObject_blank {host : Host} {src : Source} (h : isBlankText p = true) :
    s.putObject host t p src = (t, .error "path is required") := by
  unfold putObject
  rw [trimBlank_isEmpty, h, if_pos rfl]

/-- The store's own put refuses a path whose join is not below the base, the tree left as it
was. -/
theorem putObject_escapes {host : Host} {src : Source} (hp : isBlankText p = false)
    (h : s.target? p = none) :
    s.putObject host t p src = (t, .error ("path " ++ quoted p ++ " escapes base directory")) := by
  unfold putObject
  rw [trimBlank_isEmpty, hp, if_neg Bool.false_ne_true, h]

/-- Once the path is accepted, the store's own put fails only past the checks: making the
parents, creating the temporary file, closing it (messages starting with `c`), writing it (`w`),
or renaming it (`r`). -/
theorem putObject_error_of_target {host : Host} {src : Source} {full e : String}
    (hp : isBlankText p = false) (h : s.target? p = some full)
    (he : (s.putObject host t p src).2 = .error e) :
    e.toList.head? = some 'c' ∨ e.toList.head? = some 'w' ∨ e.toList.head? = some 'r' := by
  unfold putObject at he
  rw [trimBlank_isEmpty, hp, if_neg Bool.false_ne_true, h] at he
  dsimp only at he
  split at he
  · cases he
    exact .inl (by simp)
  · split at he
    · cases he
      exact .inl (by simp)
    · split at he
      · cases he
        exact .inr (.inl (by simp))
      · split at he
        · cases he
          exact .inl (by simp)
        · split at he
          · cases he
            exact .inr (.inr (by simp))
          · cases he

/-- A path that is not blank and whose join lies below the base is not refused by the store's own
put. -/
theorem putObject_not_refused {host : Host} {src : Source} {full : String}
    (hp : isBlankText p = false) (h : s.target? p = some full) :
    ¬ ((s.putObject host t p src).2 = .error "path is required" ∨
      (s.putObject host t p src).2 = .error ("path " ++ quoted p ++ " escapes base directory")) := by
  intro hrefused
  obtain ⟨e, he, hhead⟩ := refusal_head hrefused
  -- the errors past the checks start with another letter than the refusals
  rcases putObject_error_of_target hp h he with hc | hc | hc <;> rw [hhead] at hc <;> cases hc

section EndsInName

variable {t0 t1 : FileTree} {b : String} (hopen : openAt t0 b = .ok (s, t1))
  (hname : EndsInName b) (hp : isBlankText p = false)
include hopen hname hp

/-- On a store opened on a base that ends in a name, the join of a path that is not blank starts
with the base and a slash exactly when it lies strictly inside the base. -/
theorem startsWith_base_iff :
    (join [s.base, p]).startsWith (s.base ++ "/") ↔ StrictlyInside s.base (join [s.base, p]) := by
  have hb : clean b ≠ "" := fun h => clean_toList_ne_nil b (by rw [h]; rfl)
  rw [openAt_base hopen, join_pair hb (ne_empty_of_not_blank hp)]
  exact startsWith_iff_strictlyInside hname

/-- A path whose join lies strictly inside the base is taken to its join. -/
theorem target?_of_inside (hin : StrictlyInside s.base (join [s.base, p])) :
    s.target? p = some (join [s.base, p]) := by
  rw [target?_eq, if_pos ((startsWith_base_iff hopen hname hp).2 hin)]

/-- A path whose join does not lie strictly inside the base is taken nowhere. -/
theorem target?_of_outside (hin : ¬ StrictlyInside s.base (join [s.base, p])) :
    s.target? p = none := by
  rw [target?_eq, if_neg (mt (startsWith_base_iff hopen hname hp).1 hin)]

end EndsInName

/-- A path that is not blank and whose join lies below the base is not refused. -/
theorem put_not_refused {full : String} (hp : isBlankText p = false)
    (h : s.target? p = some full) :
    ¬ (s.put t p data = .error "path is required" ∨
      s.put t p data = .error ("path " ++ quoted p ++ " escapes base directory")) := by
  intro hrefused
  obtain ⟨e, he, hhead⟩ := refusal_head hrefused
  -- the errors past the checks start with another letter than the refusals
  rcases put_error_of_target hp h he with hc | hc <;> rw [hhead] at hc <;> cases hc

/-- On a store opened on a directory that ends in a name, put refuses a path exactly when the path
is blank or its join with the base does not lie strictly inside the base, and so does the store's
own put, which then leaves the tree as it was; a put that succeeds leaves the data at the join,
changes no other file, and answers the join as a `file://` URI. -/
theorem put_inside_base {t0 t1 : FileTree} {b : String} {s : LocalStore}
    (hopen : openAt t0 b = .ok (s, t1)) (hname : EndsInName b) (t : FileTree) (p : String)
    (data : Bytes) :
    s.base = clean b ∧
    ((s.put t p data = .error "path is required" ∨
        s.put t p data = .error ("path " ++ quoted p ++ " escapes base directory")) ↔
      isBlankText p = true ∨ ¬ StrictlyInside s.base (join [s.base, p])) ∧
    (∀ (host : Host) (src : Source),
      (s.putObject host t p src = (t, .error "path is required") ∨
          s.putObject host t p src = (t, .error ("path " ++ quoted p ++ " escapes base directory"))) ↔
        isBlankText p = true ∨ ¬ StrictlyInside s.base (join [s.base, p])) ∧
    ∀ t' uri, s.put t p data = .ok (t', uri) →
      t'.file? (join [s.base, p]) = some data ∧
      (∀ q, q ≠ join [s.base, p] → t'.file? q = t.file? q) ∧
      uri = "file://" ++ join [s.base, p] := by
  refine ⟨openAt_base hopen,
    refused_iff (fun hp => .inl (put_blank hp))
      (fun hp hi => .inr (put_escapes hp (target?_of_outside hopen hname hp hi)))
      (fun hp hi => put_not_refused hp (target?_of_inside hopen hname hp hi)),
    fun host src => refused_iff (fun hp => .inl (putObject_blank hp))
      (fun hp hi => .inr (putObject_escapes hp (target?_of_outside hopen hname hp hi)))
      -- a refusal of the pair is a refusal of its answer
      (fun hp hi hr => putObject_not_refused hp (target?_of_inside hopen hname hp hi)
        (hr.imp (congrArg Prod.snd) (congrArg Prod.snd))), ?_⟩
  intro t' uri hput
  obtain ⟨full, t2, -, htarget, hmk, rfl, rfl⟩ := put_ok hput
  obtain rfl := eq_join_of_target? htarget
  refine ⟨FileTree.file?_write_self _ _ _, fun q hq => ?_, rfl⟩
  rw [FileTree.file?_write_other _ _ hq]
  -- making the parents touched no file
  unfold FileTree.file?
  rw [FileTree.mkdirAll_files hmk]

theorem put_inside_base_store :
    openAt ⟨["store"], []⟩ "store" = .ok (⟨"store"⟩, ⟨["store"], []⟩) ∧ EndsInName "store" ∧
      ¬ ((⟨"store"⟩ : LocalStore).put ⟨["store"], []⟩ "docs/a.txt" [104, 105] =
          .error "path is required" ∨
        (⟨"store"⟩ : LocalStore).put ⟨["store"], []⟩ "docs/a.txt" [104, 105] =
          .error ("path " ++ quoted "docs/a.txt" ++ " escapes base directory")) ∧
      ((⟨"store"⟩ : LocalStore).putObject ⟨fun _ => 7, none, none, none⟩ ⟨["store"], []⟩
          "../a.txt" ⟨[104, 105], none⟩ = (⟨["store"], []⟩, .error "path is required") ∨
        (⟨"store"⟩ : LocalStore).putObject ⟨fun _ => 7, none, none, none⟩ ⟨["store"], []⟩
          "../a.txt" ⟨[104, 105], none⟩ = (⟨["store"], []⟩,
            .error ("path " ++ quoted "../a.txt" ++ " escapes base directory"))) := by
  have hopen : openAt ⟨["store"], []⟩ "store" = .ok (⟨"store"⟩, ⟨["store"], []⟩) :=
    openAt_clean_directory (by decide) (by decide +kernel) (by decide)
  have hname : EndsInName "store" := ⟨['s', 't', 'o', 'r', 'e'], by decide +kernel, by decide⟩
  have hin : StrictlyInside "store" (join ["store", "docs/a.txt"]) :=
    ⟨by decide +kernel, [['d', 'o', 'c', 's'], ['a', '.', 't', 'x', 't']], by decide, by decide,
      by decide +kernel⟩
  -- `../a.txt` joins to `a.txt`, beside the base and not inside it
  have hout : ¬ StrictlyInside "store" (join ["store", "../a.txt"]) := by
    rintro ⟨-, rest, -, -, hparts⟩
    rw [show parts (join ["store", "../a.txt"]) = [['a', '.', 't', 'x', 't']] by decide +kernel,
      show parts "store" = [['s', 't', 'o', 'r', 'e']] by decide +kernel] at hparts
    simp at hparts
  refine ⟨hopen, hname, fun hrefused => ?_,
    ((put_inside_base hopen hname ⟨["store"], []⟩ "../a.txt" [104, 105]).2.2.1 _ _).2 (.inr hout)⟩
  rcases (put_inside_base hopen hname _ _ [104, 105]).2.1.1 hrefused with hblank | hout
  · exact absurd hblank (by decide)
  · exact hout hin

/-- On `.` the containment test refuses every path, although each lies inside; on `..` it lets
through a path that climbs out. -/
theorem put_misjudges_dot_bases :
    openAt {} "." = .ok (⟨"."⟩, {}) ∧ StrictlyInside "." (join [".", "a"]) ∧
      (⟨"."⟩ : LocalStore).put {} "a" [120] =
        .error ("path " ++ quoted "a" ++ " escapes base directory") ∧
    openAt {} ".." = .ok (⟨".."⟩, {}) ∧ ¬ StrictlyInside ".." (join ["..", "../x"]) ∧
      ¬ ((⟨".."⟩ : LocalStore).put {} "../x" [120] = .error "path is required" ∨
        (⟨".."⟩ : LocalStore).put {} "../x" [120] =
          .error ("path " ++ quoted "../x" ++ " escapes base directory")) := by
  have hdot : openAt {} "." = .ok (⟨"."⟩, {}) :=
    openAt_clean_directory (by decide) (by decide +kernel) (by decide +kernel)
  have hup : openAt {} ".." = .ok (⟨".."⟩, {}) :=
    openAt_clean_directory (by decide) (by decide +kernel) (by decide +kernel)
  -- the join of `a` on `.` is `a`, one name below `.`
  have hinside : StrictlyInside "." (join [".", "a"]) :=
    ⟨by decide +kernel, [['a']], by decide, by decide, by decide +kernel⟩
  have hrefused : (⟨"."⟩ : LocalStore).put {} "a" [120] =
      .error ("path " ++ quoted "a" ++ " escapes base directory") :=
    put_escapes (by decide) (by decide +kernel)
  -- the join of `../x` on `..` is `../../x`, which climbs one more level
  have houtside : ¬ StrictlyInside ".." (join ["..", "../x"]) := by
    rintro ⟨-, rest, -, hclimb, hparts⟩
    rw [show parts (join ["..", "../x"]) = [['.', '.'], ['.', '.'], ['x']] by decide +kernel,
      show parts ".." = [['.', '.']] by decide +kernel] at hparts
    simp only [List.singleton_append, List.cons.injEq, true_and] at hparts
    exact hclimb (by simp [← hparts])
  have htarget : (⟨".."⟩ : LocalStore).target? "../x" = some "../../x" := by decide +kernel
  exact ⟨hdot, hinside, hrefused, hup, houtside, put_not_refused (by decide) htarget⟩

end LocalStore

end Harvest
