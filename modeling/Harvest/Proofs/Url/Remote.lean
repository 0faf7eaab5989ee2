import Mathlib
import Harvest.Locator
import Harvest.Proofs.Text.Ascii
/-!
# Remote locators are read with an authority

A locator is remote when its trimmed text, in small letters, begins with `http://` or
`https://`. Main statement (`Locator.parse_remote`): when such a text is read as a URL, the
reference has the scheme `http` or `https` in small letters, an authority after it, a path that is
empty or starts with `/` (and so does its spelling when it is kept), and no query behind a bare
`?` (`Url.Ref.HasAuthority`).

The small form of a character is ASCII only when the character is (the dotted capital I and the
Kelvin sign apart, which become `i` and `k`), so the first characters of a remote text are ASCII
letters, `:` and two slashes, and they are the first bytes the URL reader sees
(`remote_bytes`). The reading is then followed step by step: the fragment is cut off first and
set last, changing nothing else (`Url.parse_eq_ok`); in between come the scheme, the query, the
authority and the path.
-/

namespace Harvest

namespace Url

/-! ## Cutting bytes -/

theorem cutAt_cons_of_ne {c b : UInt8} (h : b ≠ c) (l : Bytes) :
    cutAt c (b :: l) = (b :: (cutAt c l).1, (cutAt c l).2) := by
  simp [cutAt, h]

/-- Cutting at a byte that a prefix does not hold cuts the rest. -/
theorem cutAt_append_of_not_mem {c : UInt8} {p : Bytes} (h : c ∉ p) (l : Bytes) :
    cutAt c (p ++ l) = (p ++ (cutAt c l).1, (cutAt c l).2) := by
  induction p with
  | nil => rfl
  | cons b p ih =>
    rw [List.cons_append, cutAt_cons_of_ne (fun hb => h (by simp [hb])),
      ih (fun hp => h (by simp [hp]))]
    rfl

@[simp] theorem toText_nil : Bytes.toText [] = "" := by
  simp [Bytes.toText, Utf8.toText, Utf8.decode, Utf8.glyphs.eq_def]

/-! ## The steps of reading a reference -/

/-- A byte is an ASCII letter. -/
def IsLetter (b : UInt8) : Prop := (0x61 ≤ b ∧ b ≤ 0x7A) ∨ (0x41 ≤ b ∧ b ≤ 0x5A)

theorem splitScheme_go_letters (bs rest : Bytes) :
    ∀ (sb acc : Bytes), (∀ b ∈ sb, IsLetter b) → sb ++ acc ≠ [] →
      splitScheme.go bs (sb ++ 0x3A :: rest) acc = .ok (acc.reverse ++ sb, rest)
  | [], acc, _, hne => by
    simp only [List.nil_append] at hne ⊢
    simp [splitScheme.go, hne]
  | b :: sb, acc, hl, _ => by
    have hb : IsLetter b := hl b (by simp)
    have ih := splitScheme_go_letters bs rest sb (b :: acc)
      (fun x hx => hl x (by simp [hx])) (by simp)
    have hcond : ((0x61 ≤ b && b ≤ 0x7A) || (0x41 ≤ b && b ≤ 0x5A)) = true := by
      simpa [IsLetter] using hb
    rw [List.cons_append, splitScheme.go, if_pos hcond, ih]
    simp

/-- A scheme of letters is split off at its colon. -/
theorem splitScheme_letters {sb : Bytes} (hl : ∀ b ∈ sb, IsLetter b) (hne : sb ≠ [])
    (rest : Bytes) : splitScheme (sb ++ 0x3A :: rest) = .ok (sb, rest) := by
  unfold splitScheme
  rw [splitScheme_go_letters _ rest sb [] hl (by simpa using hne)]
  simp

/-- A lone `?` at the end is a present but empty query. -/
theorem splitQuery_force {rest : Bytes} (h : (splitQuery rest).2.1 = true) :
    (splitQuery rest).2.2 = [] := by
  unfold splitQuery at *
  split
  · rfl
  · next hc =>
    rw [if_neg hc] at h
    split at h <;> simp at h

/-- Cutting the query off a text that starts with `//` leaves the two slashes in front. -/
theorem splitQuery_slashes (X : Bytes) :
    ∃ X', (splitQuery (0x2F :: 0x2F :: X)).1 = 0x2F :: 0x2F :: X' := by
  unfold splitQuery
  split
  · next hc =>
    cases X with
    | nil => simp at hc
    | cons x X => exact ⟨(x :: X).dropLast, by simp⟩
  · rw [cutAt_cons_of_ne (by decide), cutAt_cons_of_ne (by decide)]
    rcases cutAt 0x3F X with ⟨before, _ | q⟩ <;> exact ⟨before, rfl⟩

theorem unescape_nil (part : Part) : unescape [] part = .ok [] := rfl

theorem unescape_slash (p : Bytes) :
    unescape (0x2F :: p) .path = (unescape p .path).map (0x2F :: ·) := by
  simp [unescape, unescapeBytes]

/-- A path is read by decoding it and remembering its spelling when that is not the default. -/
theorem withPath_eq_ok {r0 r : Ref} {p : Bytes} (h : withPath r0 p = .ok r) :
    ∃ path, unescape p .path = .ok path ∧
      r = { r0 with path := path,
                    rawPath := if Bytes.ofString (escape path .path) == p then [] else p } := by
  unfold withPath at h
  cases hu : unescape p .path with
  | error e => simp [hu, Except.mapError, bind, Except.bind] at h
  | ok path =>
    simp only [hu, Except.mapError, bind, Except.bind, pure, Except.pure, Except.ok.injEq] at h
    exact ⟨path, rfl, h.symm⟩

/-- A path that is empty, or that starts with a slash, as its spelling does when it is kept. -/
def Ref.RootedPath (r : Ref) : Prop :=
  (r.path = [] ∧ r.rawPath = []) ∨
    (r.path.head? = some 0x2F ∧ (r.rawPath = [] ∨ r.rawPath.head? = some 0x2F))

/-- A path written empty or after a slash is read as a rooted path. -/
theorem withPath_rooted {r0 r : Ref} {p : Bytes} (h : withPath r0 p = .ok r)
    (hp : p = [] ∨ p.head? = some 0x2F) : r.RootedPath := by
  obtain ⟨path, hu, rfl⟩ := withPath_eq_ok h
  rcases hp with rfl | hp
  · rw [unescape_nil, Except.ok.injEq] at hu
    subst hu
    left
    simp
  · obtain ⟨p', rfl⟩ : ∃ p', p = 0x2F :: p' := by
      cases p with
      | nil => simp at hp
      | cons b p' => simp at hp; exact ⟨p', by rw [hp]⟩
    rw [unescape_slash] at hu
    cases hu' : unescape p' .path with
    | error e => simp [hu', Except.map] at hu
    | ok d =>
      simp only [hu', Except.map, Except.ok.injEq] at hu
      subst hu
      right
      refine ⟨rfl, ?_⟩
      split <;> simp

theorem splitAuthority_path (X : Bytes) :
    (splitAuthority X).2 = [] ∨ (splitAuthority X).2.head? = some 0x2F := by
  unfold splitAuthority
  rcases cutAt 0x2F X with ⟨a, _ | p⟩ <;> simp

/-- Reading an authority and a path keeps what was read before and gives a rooted path. -/
theorem parseAuthorityPath_shape {base r : Ref} {X : Bytes}
    (h : parseAuthorityPath base X = .ok r) :
    r.scheme = base.scheme ∧ r.rootless = base.rootless ∧ r.omitHost = base.omitHost ∧
      r.forceQuery = base.forceQuery ∧ r.rawQuery = base.rawQuery ∧ r.RootedPath := by
  unfold parseAuthorityPath at h
  have hp := splitAuthority_path X
  rcases hsa : splitAuthority X with ⟨auth, path⟩
  rw [hsa] at h hp
  cases hpa : parseAuthority auth with
  | error e => simp [hpa, bind, Except.bind] at h
  | ok uh =>
    obtain ⟨user, host⟩ := uh
    simp only [hpa, bind, Except.bind] at h
    obtain ⟨path', -, rfl⟩ := withPath_eq_ok h
    exact ⟨rfl, rfl, rfl, rfl, rfl, withPath_rooted h hp⟩

/-- After a scheme, a text that starts with `//` is an authority and a path. -/
theorem parseHierarchy_slashes {base : Ref} (hs : base.scheme ≠ "") (X : Bytes) :
    parseHierarchy base (0x2F :: 0x2F :: X) = parseAuthorityPath base X := by
  have hs' : base.scheme.isEmpty = false := String.isEmpty_eq_false_iff.2 hs
  unfold parseHierarchy
  simp [startsWith, hs']

/-! ## References with an authority -/

/-- The shape of a reference read from an `http://` or `https://` text: an authority follows the
scheme, the path is rooted, and a bare `?` comes with no query. -/
structure Ref.HasAuthority (r : Ref) : Prop where
  scheme : r.scheme = "http" ∨ r.scheme = "https"
  rootless : r.rootless = ""
  omitHost : r.omitHost = false
  path : r.RootedPath
  bare : r.forceQuery = true → r.rawQuery = ""

/-- Reading a reference reads the text before its first `#`, then sets the fragment only. -/
theorem parse_eq_ok {s : String} {r : Ref} (h : parse s = .ok r) :
    ∃ r0, parseMain (cutAt 0x23 (Bytes.ofString s)).1 = .ok r0 ∧
      (r = r0 ∨ ∃ f raw, r = { r0 with fragment := f, rawFragment := raw }) := by
  unfold parse at h
  dsimp only at h
  rcases hc : cutAt 0x23 (Bytes.ofString s) with ⟨main, frag⟩
  rw [hc] at h
  dsimp only at h
  split at h
  · cases h
  · next r0 hr0 =>
    refine ⟨r0, hr0, ?_⟩
    split at h
    · cases h
      exact .inl rfl
    · split at h
      · cases h
      · cases h
        exact .inr ⟨_, _, rfl⟩

/-- The shape of a reference does not depend on its fragment. -/
theorem Ref.HasAuthority.withFragment {r : Ref} (h : r.HasAuthority) (f raw : Bytes) :
    ({ r with fragment := f, rawFragment := raw } : Ref).HasAuthority :=
  ⟨h.scheme, h.rootless, h.omitHost, h.path, h.bare⟩

/-- A text made of a scheme of letters and `://` is read into a reference with an authority. -/
theorem parse_hasAuthority {s : String} {sb M : Bytes} {r : Ref}
    (hs : Bytes.ofString s = sb ++ 0x3A :: 0x2F :: 0x2F :: M) (hl : ∀ b ∈ sb, IsLetter b)
    (hne : sb ≠ [])
    (hscheme : (Bytes.toText sb).toLower = "http" ∨ (Bytes.toText sb).toLower = "https")
    (h : parse s = .ok r) : r.HasAuthority := by
  have hnot : (0x23 : UInt8) ∉ sb ++ [0x3A, 0x2F, 0x2F] := fun hm => by
    rcases List.mem_append.1 hm with hm | hm
    · rcases hl _ hm with h' | h' <;> exact absurd h' (by decide)
    · simp at hm
  have hcut : (cutAt 0x23 (Bytes.ofString s)).1 = sb ++ 0x3A :: 0x2F :: 0x2F :: (cutAt 0x23 M).1 := by
    rw [hs, show sb ++ 0x3A :: 0x2F :: 0x2F :: M = (sb ++ [0x3A, 0x2F, 0x2F]) ++ M by simp,
      cutAt_append_of_not_mem hnot]
    simp
  obtain ⟨r0, hmain, hr⟩ := parse_eq_ok h
  rw [hcut] at hmain
  -- the reference before its fragment: scheme, query, then authority and path
  have h0 : r0.HasAuthority := by
    unfold parseMain at hmain
    split at hmain
    · cases hmain
    · split at hmain
      · next h42 =>
        have := congrArg List.length (beq_iff_eq.1 h42)
        simp at this
        omega
      · rw [splitScheme_letters hl hne] at hmain
        simp only [bind, Except.bind] at hmain
        obtain ⟨X', hX'⟩ := splitQuery_slashes (cutAt 0x23 M).1
        have hforce := @splitQuery_force (0x2F :: 0x2F :: (cutAt 0x23 M).1)
        rcases hq : splitQuery (0x2F :: 0x2F :: (cutAt 0x23 M).1) with ⟨rest', fq, rq⟩
        rw [hq] at hmain hX' hforce
        dsimp only at hmain hX' hforce
        subst hX'
        rw [parseHierarchy_slashes (by rcases hscheme with h' | h' <;> simp [h'])] at hmain
        obtain ⟨h1, h2, h3, h4, h5, h6⟩ := parseAuthorityPath_shape hmain
        refine ⟨?_, h2, h3, h6, ?_⟩
        · rw [h1]
          exact hscheme
        · intro hf
          rw [h4] at hf
          rw [h5, hforce hf]
          simp
  -- the fragment changes none of the fields that make the shape
  rcases hr with rfl | ⟨f, raw, rfl⟩
  · exact h0
  · exact h0.withFragment f raw

end Url

/-! ## The first characters of a remote locator -/

/-- Facts about the ASCII characters that may begin a remote locator, checked on every ASCII
code. -/
theorem scheme_chars : ∀ n < 0x80,
    (Char.lowerCase (Char.ofNat n) ∈ "https".toList →
      ((0x61 ≤ n ∧ n ≤ 0x7A) ∨ (0x41 ≤ n ∧ n ≤ 0x5A)) ∧
        (Char.ofNat n).toLower = Char.lowerCase (Char.ofNat n)) ∧
    (Char.lowerCase (Char.ofNat n) = ':' → n = 0x3A) ∧
    (Char.lowerCase (Char.ofNat n) = '/' → n = 0x2F) := by
  decide

/-- A character whose small form is one of the characters of `https://` is ASCII. -/
theorem lt_of_lowerCase_scheme {c : Char} (h : Char.lowerCase c ∈ "https:/".toList) :
    c.toNat < 0x80 := by
  have hscheme : ∀ d ∈ "https:/".toList, d.toNat < 0x80 ∧ 0 < d.toNat ∧ d ≠ 'i' ∧ d ≠ 'k' :=
    List.forall_mem_of_all (by decide)
  have hd := hscheme _ h
  rcases Char.lowerCase_of_ascii hd.1 hd.2.1 hd.2.2.1 hd.2.2.2 with h' | h'
  · rw [← h']; exact hd.1
  · omega

/-- A character whose small form is `:` or `/` is that character. -/
theorem eq_of_lowerCase_sep {c d : Char} (h : Char.lowerCase c = d) (hd : d = ':' ∨ d = '/') :
    c = d := by
  have hc : c.toNat < 0x80 :=
    lt_of_lowerCase_scheme (by rcases hd with rfl | rfl <;> rw [h] <;> decide)
  have hfacts := scheme_chars c.toNat hc
  rw [Char.ofNat_toNat] at hfacts
  rcases hd with rfl | rfl
  · rw [← Char.ofNat_toNat c, hfacts.2.1 h]
  · rw [← Char.ofNat_toNat c, hfacts.2.2 h]

/-- The text of a remote locator, trimmed, is an ASCII scheme spelling `http` or `https` in any
case, `://`, and the rest. -/
theorem remote_chars {u : String} (h : Locator.isLocal u = false) :
    ∃ sc rest, (trimBlank u).toList = sc ++ ':' :: '/' :: '/' :: rest ∧
      (∀ c ∈ sc, c.toNat < 0x80 ∧
        ((0x61 ≤ c.toNat ∧ c.toNat ≤ 0x7A) ∨ (0x41 ≤ c.toNat ∧ c.toNat ≤ 0x5A))) ∧
      (sc.map Char.toLower = "http".toList ∨ sc.map Char.toLower = "https".toList) := by
  have hpre : ∃ w, (w = "http" ∨ w = "https") ∧
      (w ++ "://").toList <+: (trimBlank u).toList.map Char.lowerCase := by
    unfold Locator.isLocal Locator.hasPrefix at h
    simp only [Bool.and_eq_false_iff, Bool.not_eq_false', String.startsWith_string_iff,
      lowerText, String.toList_ofList] at h
    rcases h with h | h
    · exact ⟨"http", .inl rfl, h⟩
    · exact ⟨"https", .inr rfl, h⟩
  obtain ⟨w, hw, t, ht⟩ := hpre
  obtain ⟨cs, rest, hL, hcs, -⟩ := List.map_eq_append_iff.1 ht.symm
  rw [String.toList_append] at hcs
  obtain ⟨sc, tl, rfl, hsc, htl⟩ := List.map_eq_append_iff.1 hcs
  -- the separator `://` stands as written
  have htl' : tl = [':', '/', '/'] := by
    rw [show "://".toList = [':', '/', '/'] by decide] at htl
    obtain ⟨c1, l1, rfl, h1, htl⟩ := List.map_eq_cons_iff.1 htl
    obtain ⟨c2, l2, rfl, h2, htl⟩ := List.map_eq_cons_iff.1 htl
    obtain ⟨c3, l3, rfl, h3, htl⟩ := List.map_eq_cons_iff.1 htl
    rw [List.map_eq_nil_iff.1 htl, eq_of_lowerCase_sep h1 (.inl rfl),
      eq_of_lowerCase_sep h2 (.inr rfl), eq_of_lowerCase_sep h3 (.inr rfl)]
  subst htl'
  -- the scheme is made of ASCII letters, whose small forms the two case mappings agree on
  have hsub : ∀ d ∈ "http".toList, d ∈ "https".toList := List.forall_mem_of_all (by decide)
  have hsub' : ∀ d ∈ "https".toList, d ∈ "https:/".toList := List.forall_mem_of_all (by decide)
  have hletter : ∀ c ∈ sc, Char.lowerCase c ∈ "https".toList := fun c hc => by
    have : Char.lowerCase c ∈ w.toList := hsc ▸ List.mem_map_of_mem hc
    rcases hw with rfl | rfl
    · exact hsub _ this
    · exact this
  have hascii : ∀ c ∈ sc, c.toNat < 0x80 := fun c hc =>
    lt_of_lowerCase_scheme (hsub' _ (hletter c hc))
  have hfacts : ∀ c ∈ sc, ((0x61 ≤ c.toNat ∧ c.toNat ≤ 0x7A) ∨ (0x41 ≤ c.toNat ∧ c.toNat ≤ 0x5A)) ∧
      c.toLower = Char.lowerCase c := fun c hc => by
    have := (scheme_chars c.toNat (hascii c hc)).1
    rw [Char.ofNat_toNat] at this
    exact this (hletter c hc)
  refine ⟨sc, rest, by rw [hL]; simp, fun c hc => ⟨hascii c hc, (hfacts c hc).1⟩, ?_⟩
  rw [List.map_congr_left fun c hc => (hfacts c hc).2, hsc]
  rcases hw with rfl | rfl
  · exact .inl rfl
  · exact .inr rfl

/-- The bytes of a remote locator, trimmed: a scheme of letters reading `http` or `https` in
small letters, `://`, and the rest. -/
theorem remote_bytes {u : String} (h : Locator.isLocal u = false) :
    ∃ sb M, Bytes.ofString (trimBlank u) = sb ++ 0x3A :: 0x2F :: 0x2F :: M ∧
      (∀ b ∈ sb, Url.IsLetter b) ∧ sb ≠ [] ∧
      ((Bytes.toText sb).toLower = "http" ∨ (Bytes.toText sb).toLower = "https") := by
  obtain ⟨sc, rest, hL, hsc, hlow⟩ := remote_chars h
  have hbyte : ∀ c ∈ sc, (c.toNat.toUInt8).toNat = c.toNat := fun c hc => by
    have := (hsc c hc).1
    simp
    omega
  refine ⟨sc.map (·.toNat.toUInt8), rest.flatMap String.utf8EncodeChar, ?_, ?_, ?_, ?_⟩
  · rw [Bytes.ofString_eq, hL, List.flatMap_append,
      flatMap_utf8EncodeChar_of_ascii (fun c hc => (hsc c hc).1)]
    rfl
  · intro b hb
    obtain ⟨c, hc, rfl⟩ := List.mem_map.1 hb
    unfold Url.IsLetter
    simp only [UInt8.le_iff_toNat_le, hbyte c hc]
    simpa using (hsc c hc).2
  · intro hnil
    rw [List.map_eq_nil_iff.1 hnil] at hlow
    rcases hlow with h' | h' <;> exact absurd h' (by decide)
  · -- the scheme bytes read back as the scheme characters
    have hmap : (sc.map (·.toNat.toUInt8)).map (fun b => Char.ofNat b.toNat) = sc := by
      rw [List.map_map]
      refine (List.map_congr_left fun c hc => ?_).trans (List.map_id sc)
      simp only [Function.comp_apply, hbyte c hc, Char.ofNat_toNat, id]
    have htext : Bytes.toText (sc.map (·.toNat.toUInt8)) = String.ofList sc := by
      rw [Bytes.toText, Utf8.toText, Utf8.decode_of_ascii (fun b hb => by
        obtain ⟨c, hc, rfl⟩ := List.mem_map.1 hb
        rw [UInt8.lt_iff_toNat_lt, hbyte c hc]
        exact (hsc c hc).1), hmap]
    rw [htext, String.toLower, String.map_eq_internal, String.toList_ofList]
    rcases hlow with h' | h'
    · exact .inl (by rw [h', String.ofList_toList])
    · exact .inr (by rw [h', String.ofList_toList])

/-- A remote locator that can be read as a URL is read into a reference with an authority. -/
theorem Locator.parse_remote {u : String} {r : Url.Ref} (hu : Locator.isLocal u = false)
    (hr : Url.parse (trimBlank u) = .ok r) : r.HasAuthority := by
  obtain ⟨sb, M, hs, hl, hne, hscheme⟩ := remote_bytes hu
  exact Url.parse_hasAuthority hs hl hne hscheme hr

end Harvest
