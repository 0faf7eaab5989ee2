import Harvest.Proofs.Url.Remote
import Harvest.Proofs.Url.Query
/-!
# The key of a locator names its fetch task

`Locator.key` is the identity under which a fetch task is remembered. For a local locator it is
the cleaned path. For a remote locator that reads as a URL it is the reference written back with
the host in small letters, the default port dropped, no fragment and the query re-encoded in the
order of its names.

Main statement (`Locator.key_eq_iff`): two remote locators have one key exactly when their
references have the same scheme, user information, host, escaped path and bare-`?` flag and, under
every name, the same query values in the same order (`Url.Ref.SameTask`); two local locators have
one key exactly when their cleaned paths agree. Values under one name keep the order they were
read in, so `?a=2&a=1` and `?a=1&a=2` name two tasks (`key_keeps_value_order`).

The written reference is cut back into its parts at its separators: `:` after the scheme, `//`
before the authority, `/` or `?` after it, `@` after the user information, `:` inside it and `?`
before the query. No part before a separator holds it once escaped (`not_mem_escape`), and each
part is read back from its escaping (`escape_inj`, `canonicalQuery_eq_iff`).
-/

namespace Harvest

namespace Url

/-! ## Escaped paths -/

/-- The escaped spelling of a rooted path is empty with the path, and starts with `/` otherwise. -/
theorem Ref.RootedPath.escapedPath {r : Ref} (h : r.RootedPath) :
    (r.path = [] ∧ r.escapedPath = "") ∨
      (r.path ≠ [] ∧ r.escapedPath.toList.head? = some '/') := by
  rcases h with ⟨hp, hraw⟩ | ⟨hp, hraw⟩
  · left
    refine ⟨hp, ?_⟩
    simp [Ref.escapedPath, hp, hraw, escape]
  · right
    obtain ⟨p, hpath⟩ := List.head?_eq_some_iff.1 hp
    refine ⟨by simp [hpath], ?_⟩
    unfold Ref.escapedPath
    split
    · next hkept =>
      -- a kept spelling is not empty, so it is the one that starts with a slash
      have hraw' : r.rawPath.head? = some 0x2F := by
        rcases hraw with hraw | hraw
        · simp [hraw] at hkept
        · exact hraw
      obtain ⟨q, hq⟩ := List.head?_eq_some_iff.1 hraw'
      rw [hq, Bytes.toText, Utf8.toText, Utf8.decode_cons_of_lt (by decide), String.toList_ofList]
      rfl
    · split
      · next hstar => simp [hpath] at hstar
      · rw [hpath, toList_escape, List.flatMap_cons, show escapeByte .path 0x2F = ['/'] by decide]
        rfl

theorem Ref.RootedPath.path_eq_nil_iff {r : Ref} (h : r.RootedPath) :
    r.path = [] ↔ r.escapedPath = "" := by
  rcases h.escapedPath with ⟨hp, he⟩ | ⟨hp, he⟩
  · exact ⟨fun _ => he, fun _ => hp⟩
  · refine ⟨fun h' => absurd h' hp, fun h' => ?_⟩
    rw [h'] at he
    cases he

theorem Ref.RootedPath.isEmpty_path {r s : Ref} (hr : r.RootedPath) (hs : s.RootedPath)
    (h : r.escapedPath = s.escapedPath) : r.path.isEmpty = s.path.isEmpty := by
  rw [Bool.eq_iff_iff, List.isEmpty_iff, List.isEmpty_iff, hr.path_eq_nil_iff, hs.path_eq_nil_iff,
    h]

/-- No escaped path holds a `?`: a kept spelling is valid for a path, where `?` must be escaped. -/
theorem question_not_mem_escapedPath (r : Ref) : '?' ∉ r.escapedPath.toList := by
  unfold Ref.escapedPath
  split
  · next hkept =>
    intro hq
    rw [Bytes.toText, Utf8.toText, String.toList_ofList] at hq
    have hmem : (0x3F : UInt8) ∈ r.rawPath := Utf8.mem_of_mem_decode hq (by decide) (by decide)
    have hvalid : validEncoded r.rawPath .path = true := by
      simp only [Bool.and_eq_true] at hkept
      exact hkept.1.2
    exact absurd (List.all_eq_true.1 hvalid _ hmem) (by decide)
  · split
    · decide
    · exact not_mem_escape (d := 0x3F) (by decide) (by decide) (by decide) r.path

/-! ## The parts of a written reference -/

/-- The written password of user information, with its `:`. -/
def passwordText : Option Bytes → List Char
  | some p => ':' :: (escape p .userPassword).toList
  | none => []

/-- The written user information of an authority, with its `@`. -/
def userText : Option UserInfo → List Char
  | some u => (u.render ++ "@").toList
  | none => []

/-- The written authority of a reference with a scheme: `//`, the user information and the host,
or nothing when there is no host, no path and no user information. -/
def authorityText (n : Ref) : List Char :=
  if !n.host.isEmpty || !n.path.isEmpty || n.user.isSome then
    '/' :: '/' :: (userText n.user ++ (escape n.host .host).toList)
  else []

/-- The written query of a reference: `?` and the query, or nothing. -/
def queryText (n : Ref) : List Char :=
  if n.forceQuery || !n.rawQuery.isEmpty then '?' :: n.rawQuery.toList else []

theorem UserInfo.render_toList (u : UserInfo) :
    u.render.toList = (escape u.name .userPassword).toList ++ passwordText u.password := by
  unfold UserInfo.render
  cases u.password <;> simp [passwordText]

theorem userText_some (u : UserInfo) : userText (some u) = u.render.toList ++ ['@'] := by
  simp [userText]

theorem queryText_head (n : Ref) : ∀ c ∈ (queryText n).head?, c = '?' := by
  unfold queryText
  split <;> simp

/-- Written with a scheme, an authority and no fragment, a reference is its scheme, `:`, its
authority, its escaped path and its query. -/
theorem render_toList {n : Ref} (h : n.HasAuthority) (hfr : n.fragment = []) :
    n.render.toList =
      n.scheme.toList ++ ':' :: (authorityText n ++ n.escapedPath.toList ++ queryText n) := by
  have hs : n.scheme ≠ "" := by rcases h.scheme with h' | h' <;> rw [h'] <;> decide
  have hsE : n.scheme.isEmpty = false := String.isEmpty_eq_false_iff.2 hs
  -- the escaped path starts with `/` when it is not empty, so no slash is put before it
  have hslash : (!n.escapedPath.isEmpty && n.escapedPath.front != '/') = false := by
    rcases h.path.escapedPath with ⟨-, he⟩ | ⟨-, hc⟩
    · simp [he]
    · have hfront : n.escapedPath.front = '/' := by
        rw [String.front_eq, String.front?_eq, hc]
        rfl
      rw [hfront]
      simp
  have hsofar (X : String) : (n.scheme ++ X).isEmpty = false := by
    rw [String.isEmpty_eq_false_iff, ne_eq, String.ext_iff, String.toList_append]
    simp [hs]
  unfold Ref.render
  dsimp only
  rw [if_neg (by simp [hsE]), h.rootless, if_neg (by decide), if_pos (by simp [hsE]), h.omitHost]
  simp only [Bool.false_and, Bool.false_eq_true, if_false, hslash, hfr, List.isEmpty_nil,
    if_true, String.append_empty, String.append_assoc, hsofar]
  unfold authorityText queryText
  have hquery :
      (if (n.forceQuery || !n.rawQuery.isEmpty) = true then "?" ++ n.rawQuery else "").toList =
        if (n.forceQuery || !n.rawQuery.isEmpty) = true then '?' :: n.rawQuery.toList else [] := by
    split <;> simp
  by_cases hc : (!List.isEmpty n.host || !List.isEmpty n.path || n.user.isSome) = true
  · have hA (U : String) : ("//" ++ U).isEmpty = false := by
      rw [String.isEmpty_eq_false_iff, ne_eq, String.ext_iff]
      simp
    simp only [hc, if_true, hA, Bool.false_and, Bool.false_eq_true, if_false,
      String.toList_append, hquery]
    rcases hu : n.user with _ | u <;> simp [userText]
  · -- no host, no path and no user information: nothing is written between `:` and the query
    have hh : n.host = [] := by cases h : n.host <;> simp_all
    have hpth : n.path = [] := by cases h : n.path <;> simp_all
    have hu : n.user = none := by cases h : n.user <;> simp_all
    have he : n.escapedPath = "" := h.path.path_eq_nil_iff.1 hpth
    simp only [hh, hpth, hu, he, List.isEmpty_nil, Bool.not_true, Option.isSome_none,
      Bool.or_false, Bool.false_eq_true, if_false, String.empty_append,
      String.toList_append, hquery]
    simp

/-! ## Cutting a written reference at its separators -/

/-- The separators that end the user information and the host never stand in them once
escaped. -/
theorem sep_not_mem_escape {part : Part} (hpart : part = .host ∨ part = .userPassword) {c : Char}
    (hc : c = '/' ∨ c = '?' ∨ c = '@') (bs : Bytes) : c ∉ (escape bs part).toList := by
  -- all three are reserved bytes that neither part keeps
  rcases hc with rfl | rfl | rfl
  · exact not_mem_escape (d := 0x2F) (by rcases hpart with rfl | rfl <;> decide) (by decide)
      (by decide) bs
  · exact not_mem_escape (d := 0x3F) (by rcases hpart with rfl | rfl <;> decide) (by decide)
      (by decide) bs
  · exact not_mem_escape (d := 0x40) (by rcases hpart with rfl | rfl <;> decide) (by decide)
      (by decide) bs

theorem sep_not_mem_render {c : Char} (hc : c = '/' ∨ c = '?' ∨ c = '@') (u : UserInfo) :
    c ∉ u.render.toList := by
  have hne : c ≠ ':' := by rcases hc with rfl | rfl | rfl <;> decide
  rw [UserInfo.render_toList, List.mem_append]
  rintro (h | h)
  · exact sep_not_mem_escape (.inr rfl) hc _ h
  · unfold passwordText at h
    split at h
    · rcases List.mem_cons.1 h with h | h
      · exact hne h
      · exact sep_not_mem_escape (.inr rfl) hc _ h
    · simp at h

/-- Written user information is read back at its `:`. -/
theorem UserInfo.render_inj {u v : UserInfo} (h : u.render = v.render) : u = v := by
  obtain ⟨name, pw⟩ := u
  obtain ⟨name', pw'⟩ := v
  have h' := congrArg String.toList h
  rw [render_toList, render_toList] at h'
  dsimp only at h'
  have hcolon (bs : Bytes) : ∀ c ∈ (escape bs .userPassword).toList, ¬c = ':' :=
    fun c hc hc' => not_mem_escape (d := 0x3A) (by decide) (by decide) (by decide) bs (hc' ▸ hc)
  have hpass (w : Option Bytes) : ∀ c ∈ (passwordText w).head?, c = ':' := by
    cases w <;> simp [passwordText]
  obtain ⟨hname, hpw⟩ :=
    List.append_inj_of_stop (hcolon name) (hcolon name') (hpass _) (hpass _) h'
  rw [escape_inj (String.toList_inj.1 hname)]
  cases pw <;> cases pw' <;> simp only [passwordText, List.cons.injEq, true_and] at hpw
  · rfl
  · cases hpw
  · cases hpw
  · rw [escape_inj (String.toList_inj.1 hpw)]

/-- The user information and the host are read back at the `@` that ends the user
information. -/
theorem userHost_inj {u u' : Option UserInfo} {h h' : Bytes}
    (e : userText u ++ (escape h .host).toList = userText u' ++ (escape h' .host).toList) :
    u = u' ∧ h = h' := by
  have hat (bs : Bytes) : '@' ∉ (escape bs .host).toList :=
    sep_not_mem_escape (.inl rfl) (.inr (.inr rfl)) bs
  cases u with
  | none =>
    cases u' with
    | none => exact ⟨rfl, escape_inj (String.toList_inj.1 e)⟩
    | some v =>
      -- the `@` after the user information on one side would stand in the host on the other
      have hmem : '@' ∈ userText (some v) ++ (escape h' .host).toList := by simp [userText_some]
      rw [← e] at hmem
      exact (hat h (by simpa [userText] using hmem)).elim
  | some v =>
    cases u' with
    | none =>
      have hmem : '@' ∈ userText (some v) ++ (escape h .host).toList := by simp [userText_some]
      rw [e] at hmem
      exact (hat h' (by simpa [userText] using hmem)).elim
    | some v' =>
      simp only [userText_some, List.append_assoc, List.singleton_append] at e
      have hfree (w : UserInfo) : ∀ c ∈ w.render.toList, ¬c = '@' :=
        fun c hc hc' => sep_not_mem_render (.inr (.inr hc')) w hc
      obtain ⟨hr, he⟩ := List.append_inj_of_stop (hfree v) (hfree v') (by simp) (by simp) e
      rw [List.cons.injEq] at he
      exact ⟨congrArg some (UserInfo.render_inj (String.toList_inj.1 hr)),
        escape_inj (String.toList_inj.1 he.2)⟩

/-- The written authority is empty exactly when there is no host, no path and no user
information. -/
theorem authorityText_cases (n : Ref) :
    (authorityText n = [] ∧ n.host = [] ∧ n.path = [] ∧ n.user = none) ∨
      authorityText n = '/' :: '/' :: (userText n.user ++ (escape n.host .host).toList) := by
  unfold authorityText
  split
  · exact .inr rfl
  · next hc =>
    left
    refine ⟨rfl, ?_⟩
    simpa [and_assoc] using hc

theorem sep_not_mem_userHost {c : Char} (hc : c = '/' ∨ c = '?') (u : Option UserInfo)
    (h : Bytes) : c ∉ userText u ++ (escape h .host).toList := by
  have hc' : c = '/' ∨ c = '?' ∨ c = '@' := by rcases hc with hc | hc <;> simp [hc]
  rw [List.mem_append]
  rintro (hu | hh)
  · cases u with
    | none => simp [userText] at hu
    | some v =>
      rw [userText_some, List.mem_append] at hu
      rcases hu with hu | hu
      · exact sep_not_mem_render hc' v hu
      · rcases hc with rfl | rfl <;> simp at hu
  · exact sep_not_mem_escape (.inl rfl) hc' h hh

theorem authorityText_inj {n m : Ref} (h : authorityText n = authorityText m) :
    n.user = m.user ∧ n.host = m.host := by
  rcases authorityText_cases n with ⟨hA, hh, -, hu⟩ | hA <;>
    rcases authorityText_cases m with ⟨hA', hh', -, hu'⟩ | hA'
  · exact ⟨hu.trans hu'.symm, hh.trans hh'.symm⟩
  · rw [hA, hA'] at h
    cases h
  · rw [hA, hA'] at h
    cases h
  · rw [hA, hA', List.cons.injEq, List.cons.injEq] at h
    exact userHost_inj h.2.2

/-- What follows the authority starts with `/` or `?`, when it is not empty. -/
theorem pathQuery_head {n : Ref} (hn : n.RootedPath) :
    ∀ c ∈ (n.escapedPath.toList ++ queryText n).head?, c = '/' ∨ c = '?' := by
  intro c hc
  rcases hn.escapedPath with ⟨-, he⟩ | ⟨-, he⟩
  · rw [he, String.toList_empty, List.nil_append] at hc
    exact .inr (queryText_head n c hc)
  · rw [List.head?_append, he] at hc
    exact .inl (Option.some_inj.1 hc).symm

/-- The text after the scheme starts with `/` exactly when an authority is written: without one,
the escaped path is empty and a query starts with `?`. -/
theorem authorityText_eq_nil_iff {n : Ref} (hn : n.RootedPath) :
    authorityText n = [] ↔
      (authorityText n ++ (n.escapedPath.toList ++ queryText n)).head? ≠ some '/' := by
  rcases authorityText_cases n with ⟨hA, -, hp, -⟩ | hA
  · rw [hA, hn.path_eq_nil_iff.1 hp, String.toList_empty, List.nil_append, List.nil_append]
    exact iff_of_true rfl fun hh => absurd (queryText_head n '/' hh) (by decide)
  · rw [hA]
    simp

/-- The text after the scheme is read back as authority, escaped path and query. -/
theorem rest_inj {n m : Ref} (hn : n.RootedPath) (hm : m.RootedPath)
    (h : authorityText n ++ (n.escapedPath.toList ++ queryText n) =
      authorityText m ++ (m.escapedPath.toList ++ queryText m)) :
    authorityText n = authorityText m ∧ n.escapedPath = m.escapedPath ∧
      queryText n = queryText m := by
  have hboth : authorityText n = [] ↔ authorityText m = [] := by
    rw [authorityText_eq_nil_iff hn, authorityText_eq_nil_iff hm, h]
  -- the authorities are cut off at the first `/` or `?` after `//`
  have hcut : authorityText n = authorityText m ∧
      n.escapedPath.toList ++ queryText n = m.escapedPath.toList ++ queryText m := by
    rcases authorityText_cases n with ⟨hA, -⟩ | hA
    · rw [hA, hboth.1 hA] at h ⊢
      exact ⟨rfl, h⟩
    · rcases authorityText_cases m with ⟨hA', -⟩ | hA'
      · exact absurd (hboth.2 hA') (by rw [hA]; simp)
      · rw [hA, hA'] at h ⊢
        simp only [List.cons_append, List.cons.injEq, true_and] at h
        have hfree (u : Option UserInfo) (hb : Bytes) :
            ∀ c ∈ userText u ++ (escape hb .host).toList, ¬(c = '/' ∨ c = '?') :=
          fun c hc hc' => sep_not_mem_userHost hc' u hb hc
        obtain ⟨hX, hB⟩ := List.append_inj_of_stop (hfree _ _) (hfree _ _) (pathQuery_head hn)
          (pathQuery_head hm) h
        exact ⟨by rw [hX], hB⟩
  -- the escaped path is cut off at the `?` of the query
  obtain ⟨hA, hB⟩ := hcut
  have hfree (r : Ref) : ∀ c ∈ r.escapedPath.toList, ¬c = '?' :=
    fun c hc hc' => question_not_mem_escapedPath r (hc' ▸ hc)
  obtain ⟨hp, hq⟩ := List.append_inj_of_stop (hfree n) (hfree m) (queryText_head n)
    (queryText_head m) hB
  exact ⟨hA, String.toList_inj.1 hp, hq⟩

/-- The written query gives back the bare-`?` flag and the query, when a bare `?` comes with no
query. -/
theorem queryText_inj {n m : Ref} (hn : n.forceQuery = true → n.rawQuery = "")
    (hm : m.forceQuery = true → m.rawQuery = "") (h : queryText n = queryText m) :
    n.forceQuery = m.forceQuery ∧ n.rawQuery = m.rawQuery := by
  unfold queryText at h
  split at h <;> split at h
  · next hc hc' =>
    simp only [List.cons.injEq, true_and, String.toList_inj] at h
    refine ⟨?_, h⟩
    -- a flag set on one side only would leave an empty query under a written `?`
    have hflag {a b : Ref} (ha : a.forceQuery = true → a.rawQuery = "")
        (hb : (b.forceQuery || !b.rawQuery.isEmpty) = true) (hq : a.rawQuery = b.rawQuery) :
        a.forceQuery = true → b.forceQuery = true := fun hf => by
      have hempty : b.rawQuery = "" := hq ▸ ha hf
      simpa [hempty] using hb
    exact Bool.eq_iff_iff.2 ⟨hflag hn hc' h, hflag hm hc h.symm⟩
  · cases h
  · cases h
  · next hc hc' =>
    simp only [Bool.or_eq_true, Bool.not_eq_true', not_or, Bool.not_eq_true, Bool.not_eq_false,
      String.isEmpty_iff] at hc hc'
    exact ⟨hc.1.trans hc'.1.symm, hc.2.trans hc'.2.symm⟩

/-- A reference with an authority and no fragment is read back from its written form: its scheme,
user information, host, escaped path, bare-`?` flag and query. -/
theorem render_eq_iff {n m : Ref} (hn : n.HasAuthority) (hm : m.HasAuthority)
    (hfn : n.fragment = []) (hfm : m.fragment = []) :
    n.render = m.render ↔ n.scheme = m.scheme ∧ n.user = m.user ∧ n.host = m.host ∧
      n.escapedPath = m.escapedPath ∧ n.forceQuery = m.forceQuery ∧ n.rawQuery = m.rawQuery := by
  have hcolon {r : Ref} (hr : r.HasAuthority) : ∀ c ∈ r.scheme.toList, ¬c = ':' := by
    rcases hr.scheme with h | h <;> rw [h] <;> exact List.forall_mem_of_all (by decide)
  constructor
  · intro h
    have h' := congrArg String.toList h
    rw [render_toList hn hfn, render_toList hm hfm] at h'
    obtain ⟨hscheme, hrest⟩ := List.append_inj_of_stop (hcolon hn) (hcolon hm) (by simp)
      (by simp) h'
    simp only [List.cons.injEq, true_and, List.append_assoc] at hrest
    obtain ⟨hauth, hpath, hquery⟩ := rest_inj hn.path hm.path hrest
    obtain ⟨huser, hhost⟩ := authorityText_inj hauth
    obtain ⟨hfq, hrq⟩ := queryText_inj hn.bare hm.bare hquery
    exact ⟨String.toList_inj.1 hscheme, huser, hhost, hpath, hfq, hrq⟩
  · rintro ⟨hscheme, huser, hhost, hpath, hfq, hrq⟩
    rw [← String.toList_inj, render_toList hn hfn, render_toList hm hfm]
    have hauth : authorityText n = authorityText m := by
      unfold authorityText
      rw [huser, hhost, hn.path.isEmpty_path hm.path hpath]
    have hquery : queryText n = queryText m := by
      unfold queryText
      rw [hfq, hrq]
    rw [hscheme, hauth, hpath, hquery]

/-! ## Normalized references -/

/-- Normalizing keeps the shape of a reference with an authority: a bare `?` still has an empty
query, whose canonical form is empty. -/
theorem Ref.HasAuthority.normalizedRef {r : Ref} (h : r.HasAuthority) :
    (Locator.normalizedRef r).HasAuthority where
  scheme := h.scheme
  rootless := h.rootless
  omitHost := h.omitHost
  path := h.path
  bare := fun hf => by
    show canonicalQuery (Bytes.ofString r.rawQuery) = ""
    rw [h.bare hf]
    exact canonicalQuery_eq_empty.2 (by simp [Bytes.ofString_eq])

/-- Two references name one fetch task: the same scheme, user information, host in small letters
without its default port, escaped path and bare-`?` flag, and under every name the same query
values in the same order. -/
structure Ref.SameTask (r s : Ref) : Prop where
  scheme : r.scheme = s.scheme
  user : r.user = s.user
  host : (Locator.normalizedRef r).host = (Locator.normalizedRef s).host
  path : r.escapedPath = s.escapedPath
  bare : r.forceQuery = s.forceQuery
  values : ∀ k, valuesOf k (queryPairs (Bytes.ofString r.rawQuery)) =
    valuesOf k (queryPairs (Bytes.ofString s.rawQuery))

/-- Two references with an authority are written alike once normalized exactly when they name one
fetch task. -/
theorem render_normalizedRef_eq_iff {r s : Ref} (hr : r.HasAuthority) (hs : s.HasAuthority) :
    (Locator.normalizedRef r).render = (Locator.normalizedRef s).render ↔ r.SameTask s := by
  rw [render_eq_iff hr.normalizedRef hs.normalizedRef rfl rfl]
  constructor
  · rintro ⟨h1, h2, h3, h4, h5, h6⟩
    exact ⟨h1, h2, h3, h4, h5, canonicalQuery_eq_iff.1 h6⟩
  · rintro ⟨h1, h2, h3, h4, h5, h6⟩
    exact ⟨h1, h2, h3, h4, h5, canonicalQuery_eq_iff.2 h6⟩

end Url

/-! ## Keys -/

namespace Locator

theorem isLocal_trimBlank (u : String) : isLocal (trimBlank u) = isLocal u := by
  unfold isLocal
  rw [trimBlank_trimBlank]

theorem localPath_trimBlank (u : String) : localPath (trimBlank u) = localPath u := by
  unfold localPath
  rw [trimBlank_trimBlank]

/-- The key of a local locator is its cleaned path. -/
theorem key_of_isLocal {u : String} (h : isLocal u = true) :
    key u = SlashPath.clean (localPath u) := by
  unfold key
  dsimp only
  rw [isLocal_trimBlank, h, if_pos rfl, localPath_trimBlank]

/-- The key of a remote locator that reads as a URL is the normalized reference, written. -/
theorem key_of_parse {u : String} {r : Url.Ref} (hu : isLocal u = false)
    (hr : Url.parse (trimBlank u) = .ok r) : key u = (normalizedRef r).render := by
  unfold key normalize
  dsimp only
  rw [isLocal_trimBlank, hu, trimBlank_trimBlank, hr]
  rfl

/-- Two remote locators that read as URLs have one key exactly when their references name one
fetch task; two local locators have one key exactly when their cleaned paths agree. -/
theorem key_eq_iff :
    (∀ {u v : String} {r s : Url.Ref}, isLocal u = false → isLocal v = false →
      Url.parse (trimBlank u) = .ok r → Url.parse (trimBlank v) = .ok s →
      (key u = key v ↔ r.SameTask s)) ∧
    (∀ {u v : String}, isLocal u = true → isLocal v = true →
      (key u = key v ↔ SlashPath.clean (localPath u) = SlashPath.clean (localPath v))) := by
  constructor
  · intro u v r s hu hv hr hs
    rw [key_of_parse hu hr, key_of_parse hv hs]
    exact Url.render_normalizedRef_eq_iff (parse_remote hu hr) (parse_remote hv hs)
  · intro u v hu hv
    rw [key_of_isLocal hu, key_of_isLocal hv]

/-- Locators that differ in case, default port, fragment, blanks and the order of query names
name one task, and so do a `file://` path and the path it names. -/
theorem key_eq_iff_cases :
    (∃ r s, Url.parse (trimBlank " HTTP://Example.COM:80/a?b=2&a=1#top") = .ok r ∧
      Url.parse (trimBlank "http://example.com/a?a=1&b=2") = .ok s ∧ r.SameTask s) ∧
    key "file://docs/b.txt" = key "docs/b.txt" := by
  have hok : (Url.parse (trimBlank " HTTP://Example.COM:80/a?b=2&a=1#top")).isOk = true ∧
      (Url.parse (trimBlank "http://example.com/a?a=1&b=2")).isOk = true := by
    decide +kernel
  -- each key is evaluated on its own: comparing two unevaluated keys is much slower
  have hkey : key " HTTP://Example.COM:80/a?b=2&a=1#top" = key "http://example.com/a?a=1&b=2" := by
    rw [show key " HTTP://Example.COM:80/a?b=2&a=1#top" = "http://example.com/a?a=1&b=2" by
      decide +kernel, show key "http://example.com/a?a=1&b=2" = "http://example.com/a?a=1&b=2" by
      decide +kernel]
  have hlocal : key "file://docs/b.txt" = key "docs/b.txt" :=
    (key_eq_iff.2 (u := "file://docs/b.txt") (v := "docs/b.txt") (by decide +kernel)
      (by decide +kernel)).2 (congrArg SlashPath.clean (by decide +kernel))
  cases hr : Url.parse (trimBlank " HTTP://Example.COM:80/a?b=2&a=1#top") with
  | error e => simp [hr, Except.isOk, Except.toBool] at hok
  | ok r =>
    cases hs : Url.parse (trimBlank "http://example.com/a?a=1&b=2") with
    | error e => simp [hs, Except.isOk, Except.toBool] at hok
    | ok s =>
      exact ⟨⟨r, s, rfl, rfl,
        (key_eq_iff.1 (by decide +kernel) (by decide +kernel) hr hs).1 hkey⟩, hlocal⟩

/-- Values under one name keep the order they were read in: swapping them makes another task. -/
theorem key_keeps_value_order :
    key "http://x.com/?a=2&a=1" ≠ key "http://x.com/?a=1&a=2" := by
  rw [show key "http://x.com/?a=2&a=1" = "http://x.com/?a=2&a=1" by decide +kernel,
    show key "http://x.com/?a=1&a=2" = "http://x.com/?a=1&a=2" by decide +kernel]
  decide

end Locator

end Harvest
