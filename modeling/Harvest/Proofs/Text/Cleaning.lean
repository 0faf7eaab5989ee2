import Mathlib
import Harvest.Text.SlashPath
/-!
# Harvest.Proofs.Text.Cleaning

What cleaning a slash path keeps and what it forgets.

A path is cut at its slashes into elements (`elements`); resolving applies `.` and `..` to them
(`resolve`), and the clean form writes the result back, after a slash when the path is rooted
(`clean_toList`). The resolved elements of a path are `Resolved`: none is empty, holds a slash or
is `.`, a `..` comes only after other `..` elements, and a rooted path has none. Resolving leaves
such a list as it is (`resolve_self`), so cleaning keeps both rootedness and the resolved
elements (`rooted_clean`, `parts_clean`), and two paths clean alike exactly when they agree on
both (`clean_eq_clean_iff`).

Below a directory that ends in a name, a clean path starts with the directory and a slash exactly
when it lies strictly inside it (`startsWith_iff_strictlyInside`).

A plain element, neither `.` nor `..`, that ends a path ends its clean form too (`clean_endsIn`),
and the base of a path is its last element (`base_of_endsIn`), so a join ends in its last part
(`base_join`). A path that is not only slashes is cut around its last element (`LastElement`);
its base depends on that piece alone (`base_append`), and a plain last element is still the last
one after resolving (`getLast?_parts`).
-/

namespace Harvest

theorem List.intercalate_append_singleton {α : Type} (sep l : List α) :
    ∀ {zs : List (List α)}, zs ≠ [] →
      sep.intercalate (zs ++ [l]) = sep.intercalate zs ++ sep ++ l
  | [z], _ => by simp
  | z :: z' :: zs, _ => by
    rw [List.cons_append, @List.intercalate_cons_of_ne_nil _ sep z (z' :: zs ++ [l]) (by simp),
      List.intercalate_append_singleton sep l (by simp),
      @List.intercalate_cons_of_ne_nil _ sep z (z' :: zs) (by simp)]
    simp

namespace SlashPath

/-! ## Elements -/

/-- Cutting a path at a slash: the elements before it, then the elements after it. -/
theorem elements_append_slash (xs ys : List Char) :
    elements (xs ++ '/' :: ys) = elements xs ++ elements ys := by
  simp [elements, List.splitOn_append_cons_self, List.filter_append]

theorem elements_of_slashFree {e : List Char} (hne : e ≠ []) (hs : '/' ∉ e) :
    elements e = [e] := by
  simp [elements, List.splitOn_eq_singleton hs, hne]


theorem elements_slash_cons (ys : List Char) : elements ('/' :: ys) = elements ys :=
  elements_append_slash [] ys

/-- Elements that are not empty and hold no slash, joined by slashes, are read back as they are. -/
theorem elements_intercalate {es : List (List Char)} (h : ∀ e ∈ es, e ≠ [] ∧ '/' ∉ e) :
    elements (['/'].intercalate es) = es := by
  cases es with
  | nil => rfl
  | cons e rest =>
    unfold elements
    rw [List.splitOn_intercalate '/' (fun l hl => (h l hl).2) (List.cons_ne_nil _ _)]
    exact List.filter_eq_self.2 fun l hl => by simpa using (h l hl).1

/-- A piece of a path cut at its slashes holds no slash. -/
theorem slash_not_mem_of_mem_splitOn {p l : List Char} (hl : l ∈ p.splitOn '/') : '/' ∉ l := by
  induction p generalizing l with
  | nil => simp_all [List.splitOn_nil]
  | cons x xs ih =>
    rw [List.splitOn_cons_eq_if_modifyHead] at hl
    split at hl
    · rcases List.mem_cons.1 hl with rfl | hl
      · simp
      · exact ih hl
    · next hx =>
      obtain ⟨h, t, ht⟩ := List.exists_cons_of_ne_nil (List.splitOn_ne_nil '/' xs)
      rw [ht] at hl
      simp only [List.modifyHead_cons, List.mem_cons] at hl
      rcases hl with rfl | hl
      · have hh : '/' ∉ h := ih (ht ▸ List.mem_cons_self)
        simp only [List.mem_cons, not_or]
        exact ⟨fun e => hx (by simp [← e]), hh⟩
      · exact ih (ht ▸ List.mem_cons_of_mem _ hl)

/-- The elements of a path are never empty and hold no slash. -/
theorem elements_plain (p : List Char) : ∀ e ∈ elements p, e ≠ [] ∧ '/' ∉ e := by
  intro e he
  simp only [elements, List.mem_filter] at he
  exact ⟨by simpa using he.2, slash_not_mem_of_mem_splitOn he.1⟩

/-! ## Resolving -/

/-- An element that cleaning keeps as written: neither `.` nor `..`. -/
def Plain (e : List Char) : Prop := e ≠ ['.'] ∧ e ≠ ['.', '.']

theorem Plain.of_head {e : List Char} (h : ∀ c ∈ e.head?, c ≠ '.') : Plain e :=
  ⟨fun he => h '.' (by simp [he]) rfl, fun he => h '.' (by simp [he]) rfl⟩

/-- Resolving a path pushes a plain last element onto what the elements before it resolve to. -/
theorem resolve_append_plain (rooted : Bool) {e : List Char} (he : Plain e)
    (xs acc : List (List Char)) :
    resolve rooted (xs ++ [e]) acc = resolve rooted xs acc ++ [e] := by
  fun_induction resolve rooted xs acc with
  | case1 acc => simp [resolve, he.1, he.2]
  | _ => simp_all [resolve]


/-- The elements a resolved path is made of: none empty, none holding a slash, none `.`; a `..`
stands only after other `..` elements, and never in a rooted path. -/
structure Resolved (r : Bool) (es : List (List Char)) : Prop where
  plain : ∀ e ∈ es, e ≠ [] ∧ '/' ∉ e ∧ e ≠ ['.']
  climbs_first : es.Pairwise fun a b => b = ['.', '.'] → a = ['.', '.']
  rooted_no_climb : r = true → ['.', '.'] ∉ es

theorem Resolved.sublist {r : Bool} {es es' : List (List Char)} (h : Resolved r es)
    (hs : es'.Sublist es) : Resolved r es' where
  plain e he := h.plain e (hs.subset he)
  climbs_first := h.climbs_first.sublist hs
  rooted_no_climb hr hm := h.rooted_no_climb hr (hs.subset hm)

/-- A plain element may follow a resolved list; a `..` only a relative list of `..` elements. -/
theorem Resolved.push {r : Bool} {es : List (List Char)} {e : List Char} (h : Resolved r es)
    (he : e ≠ [] ∧ '/' ∉ e ∧ e ≠ ['.'])
    (hclimb : e = ['.', '.'] → (r = false ∧ ∀ a ∈ es, a = ['.', '.'])) :
    Resolved r (es ++ [e]) where
  plain x hx := by
    rcases List.mem_append.1 hx with hx | hx
    · exact h.plain x hx
    · rw [List.mem_singleton.1 hx]
      exact he
  climbs_first := List.pairwise_append.2 ⟨h.climbs_first, List.pairwise_singleton _ _,
    fun a ha b hb hbe => (hclimb ((List.mem_singleton.1 hb) ▸ hbe)).2 a ha⟩
  rooted_no_climb hr hm := by
    rcases List.mem_append.1 hm with hm | hm
    · exact h.rooted_no_climb hr hm
    · have := (hclimb (List.mem_singleton.1 hm).symm).1
      simp_all

theorem Resolved.nil (r : Bool) : Resolved r [] :=
  ⟨by simp, List.Pairwise.nil, by simp⟩

/-- `..` is a plain element. -/
theorem climb_plain : ['.', '.'] ≠ [] ∧ '/' ∉ ['.', '.'] ∧ ['.', '.'] ≠ ['.'] := by decide

/-- Resolving elements without slashes onto a resolved stack gives a resolved list. -/
theorem resolve_resolved (r : Bool) (xs acc : List (List Char))
    (hx : ∀ e ∈ xs, e ≠ [] ∧ '/' ∉ e) (hacc : Resolved r acc.reverse) :
    Resolved r (resolve r xs acc) := by
  fun_induction resolve r xs acc with
  | case1 acc => exact hacc
  | case2 e rest acc hdot ih => exact ih (List.forall_mem_cons.1 hx).2 hacc
  | case3 e rest hdot hup top below htop ih =>
    -- a `..` after a `..` is kept: the path is relative and climbs all the way so far
    have he : e = ['.', '.'] := by simpa using hup
    have htop' : top = ['.', '.'] := by simpa using htop
    have hrel : r = false := by
      cases r
      · rfl
      · exact absurd (by simp [htop']) (hacc.rooted_no_climb rfl)
    have hall : ∀ a ∈ (top :: below).reverse, a = ['.', '.'] := by
      have hpair := hacc.climbs_first
      rw [List.reverse_cons] at hpair ⊢
      intro a ha
      rcases List.mem_append.1 ha with ha | ha
      · exact (List.pairwise_append.1 hpair).2.2 a ha top (List.mem_singleton_self top) htop'
      · rw [List.mem_singleton.1 ha, htop']
    refine ih (List.forall_mem_cons.1 hx).2 ?_
    rw [List.reverse_cons]
    exact hacc.push (he ▸ climb_plain) fun _ => ⟨hrel, hall⟩
  | case4 e rest hdot hup top below htop ih =>
    -- a `..` after a name removes the name
    refine ih (List.forall_mem_cons.1 hx).2 (hacc.sublist ?_)
    rw [List.reverse_cons]
    exact List.sublist_append_left _ _
  | case5 e rest hdot hup hr ih => exact ih (List.forall_mem_cons.1 hx).2 hacc
  | case6 e rest hdot hup hr ih =>
    have he : e = ['.', '.'] := by simpa using hup
    refine ih (List.forall_mem_cons.1 hx).2 ?_
    exact (Resolved.nil r).push (he ▸ climb_plain) fun _ => ⟨by simpa using hr, by simp⟩
  | case7 e rest acc hdot hup ih =>
    have hplain := hx e List.mem_cons_self
    refine ih (List.forall_mem_cons.1 hx).2 ?_
    rw [List.reverse_cons]
    exact hacc.push ⟨hplain.1, hplain.2, by simpa using hdot⟩
      fun h => absurd h (by simpa using hup)

/-- Resolving elements that are resolved already, after a stack that they continue, only
reverses the stack back. -/
theorem resolve_of_resolved {r : Bool} {xs acc : List (List Char)}
    (h : Resolved r (acc.reverse ++ xs)) : resolve r xs acc = acc.reverse ++ xs := by
  induction xs generalizing acc with
  | nil => simp [resolve]
  | cons e rest ih =>
    have he := h.plain e (by simp)
    have hpush : resolve r rest (e :: acc) = acc.reverse ++ e :: rest := by
      rw [ih (by simpa using h)]
      simp
    unfold resolve
    rw [if_neg (by simpa using he.2.2)]
    split
    · next hup =>
      have hclimb : e = ['.', '.'] := by simpa using hup
      -- a `..` in a resolved list comes after `..` elements only, and never at the root
      have hall : ∀ a ∈ acc, a = ['.', '.'] := fun a ha =>
        (List.pairwise_append.1 h.climbs_first).2.2 a (List.mem_reverse.2 ha) e
          List.mem_cons_self hclimb
      cases acc with
      | cons top below =>
        dsimp only
        rw [if_pos (by simp [hall top List.mem_cons_self])]
        exact hpush
      | nil =>
        have hrel : r = false := by
          cases r
          · rfl
          · exact absurd (by simp [hclimb]) (h.rooted_no_climb rfl)
        dsimp only
        rw [if_neg (by simp [hrel])]
        exact hpush
    · exact hpush

/-- A resolved list resolves to itself. -/
theorem resolve_self {r : Bool} {es : List (List Char)} (h : Resolved r es) :
    resolve r es [] = es :=
  resolve_of_resolved (by simpa using h)

/-! ## The clean form -/

/-- Whether a path starts at the root. -/
def rooted (s : String) : Bool := s.toList.head? == some '/'

/-- The resolved elements of a path, the ones its clean form is written with. -/
def parts (s : String) : List (List Char) := resolve (rooted s) (elements s.toList) []

theorem parts_resolved (s : String) : Resolved (rooted s) (parts s) :=
  resolve_resolved _ _ [] (elements_plain _) (Resolved.nil _)

/-- Joining elements that are not empty gives the empty path only when there are none. -/
theorem intercalate_eq_nil_iff {es : List (List Char)} (h : ∀ e ∈ es, e ≠ []) :
    ['/'].intercalate es = [] ↔ es = [] := by
  cases es with
  | nil => simp
  | cons e rest =>
    have he := h e List.mem_cons_self
    cases rest with
    | nil => simpa using he
    | cons e' rest => simp [List.intercalate_cons_cons, he]

/-- Joining two non-empty lists of elements puts one slash between them. -/
theorem intercalate_append {xs ys : List (List Char)} (hxs : xs ≠ []) (hys : ys ≠ []) :
    ['/'].intercalate (xs ++ ys) = ['/'].intercalate xs ++ '/' :: ['/'].intercalate ys := by
  induction xs with
  | nil => exact absurd rfl hxs
  | cons x rest ih =>
    cases rest with
    | nil =>
      obtain ⟨y, ys', rfl⟩ := List.exists_cons_of_ne_nil hys
      simp [List.intercalate_cons_cons]
    | cons x' rest =>
      rw [List.cons_append, List.cons_append, List.intercalate_cons_cons, ← List.cons_append,
        ih (List.cons_ne_nil _ _), List.intercalate_cons_cons]
      simp

/-- Cleaning, with the resolved elements named. -/
theorem clean_eq (s : String) : clean s =
    let body := "/".intercalate ((parts s).map String.ofList)
    if rooted s then "/" ++ body else if body.isEmpty then "." else body := rfl

/-- The clean form of a path, character by character: a slash for a rooted path, then its
resolved elements with a slash between each two; `.` for a relative path with none. -/
theorem clean_toList (s : String) : (clean s).toList =
    if rooted s then '/' :: ['/'].intercalate (parts s)
    else if parts s = [] then ['.'] else ['/'].intercalate (parts s) := by
  have hbody : ("/".intercalate ((parts s).map String.ofList)).toList =
      ['/'].intercalate (parts s) := by
    simp [String.toList_intercalate, List.map_map, Function.comp_def]
  have hempty :
      ("/".intercalate ((parts s).map String.ofList)).isEmpty = decide (parts s = []) := by
    rw [Bool.eq_iff_iff, String.isEmpty_iff, ← String.toList_inj, hbody, decide_eq_true_iff]
    exact intercalate_eq_nil_iff fun e he => ((parts_resolved s).plain e he).1
  rw [clean_eq]
  dsimp only
  rw [hempty]
  by_cases hr : rooted s
  · simp [hr, hbody]
  · by_cases hp : parts s = []
    · simp [hr, hp]
    · simp [hr, hp, hbody]

/-- Joined elements that are not empty and hold no slash do not start with a slash. -/
theorem head?_intercalate_ne_slash {es : List (List Char)}
    (h : ∀ e ∈ es, e ≠ [] ∧ '/' ∉ e) :
    (['/'].intercalate es).head? ≠ some '/' := by
  cases es with
  | nil => simp
  | cons e rest =>
    obtain ⟨hne, hslash⟩ := h e List.mem_cons_self
    obtain ⟨c, e', rfl⟩ := List.exists_cons_of_ne_nil hne
    have hc : c ≠ '/' := fun hc => hslash (hc ▸ List.mem_cons_self)
    cases rest with
    | nil => simpa using hc
    | cons e'' rest => simpa [List.intercalate_cons_cons] using hc

theorem plain_of_mem_parts {s : String} {e : List Char} (he : e ∈ parts s) :
    e ≠ [] ∧ '/' ∉ e :=
  ⟨((parts_resolved s).plain e he).1, ((parts_resolved s).plain e he).2.1⟩

/-- Cleaning keeps whether a path is rooted. -/
theorem rooted_clean (s : String) : rooted (clean s) = rooted s := by
  show ((clean s).toList.head? == some '/') = rooted s
  rw [clean_toList]
  by_cases hr : rooted s
  · simp [hr]
  · have hhead := head?_intercalate_ne_slash fun e he => plain_of_mem_parts (s := s) he
    by_cases hp : parts s = []
    · simp [hr, hp]
    · simpa [hr, hp] using hhead

/-- The elements of a clean path other than `.` and `/` are its resolved elements. -/
theorem elements_clean {s : String} (h : parts s ≠ []) : elements (clean s).toList = parts s := by
  have hplain : ∀ e ∈ parts s, e ≠ [] ∧ '/' ∉ e := fun e he => plain_of_mem_parts he
  rw [clean_toList]
  by_cases hr : rooted s
  · rw [if_pos hr, elements_slash_cons, elements_intercalate hplain]
  · rw [if_neg hr, if_neg h, elements_intercalate hplain]

/-- Cleaning a path keeps its resolved elements. -/
theorem parts_clean (s : String) : parts (clean s) = parts s := by
  show resolve (rooted (clean s)) (elements (clean s).toList) [] = parts s
  rw [rooted_clean]
  by_cases hp : parts s = []
  · -- the clean form is `/` or `.`, neither of which names an element
    rw [clean_toList, hp]
    cases rooted s <;> decide
  · rw [elements_clean hp]
    exact resolve_self (parts_resolved s)

/-- Two paths have one clean form exactly when both or neither are rooted and they have the
same resolved elements. -/
theorem clean_eq_clean_iff {s t : String} :
    clean s = clean t ↔ rooted s = rooted t ∧ parts s = parts t := by
  constructor
  · intro h
    rw [← rooted_clean s, ← parts_clean s, h, rooted_clean, parts_clean]
    exact ⟨rfl, rfl⟩
  · rintro ⟨hr, hp⟩
    rw [← String.toList_inj, clean_toList, clean_toList, hr, hp]

/-- Cleaning always answers a path. -/
theorem clean_toList_ne_nil (s : String) : (clean s).toList ≠ [] := by
  rw [clean_toList]
  by_cases hr : rooted s
  · simp [hr]
  · by_cases hp : parts s = []
    · simp [hr, hp]
    · rw [if_neg hr, if_neg hp]
      exact (intercalate_eq_nil_iff fun e he => (plain_of_mem_parts he).1).not.2 hp

/-- The clean form of a path with resolved elements: a slash when rooted, then the elements. -/
theorem clean_toList_of_ne_nil {s : String} (h : parts s ≠ []) :
    (clean s).toList = (if rooted s then ['/'] else []) ++ ['/'].intercalate (parts s) := by
  rw [clean_toList]
  by_cases hr : rooted s <;> simp [hr, h]

/-! ## Lying inside a directory -/

/-- A path lies strictly inside a directory: both or neither are rooted, and the path's resolved
elements continue the directory's by one or more elements, none of them `..`. -/
def StrictlyInside (dir path : String) : Prop :=
  rooted path = rooted dir ∧
    ∃ rest, rest ≠ [] ∧ ['.', '.'] ∉ rest ∧ parts path = parts dir ++ rest

/-- A path ends in a name: its last resolved element is not `..`. Its clean form is then neither
`.` nor `/` nor made of `..` elements only. -/
def EndsInName (s : String) : Prop := ∃ L ∈ (parts s).getLast?, L ≠ ['.', '.']

theorem strictlyInside_clean {dir path : String} :
    StrictlyInside (clean dir) (clean path) ↔ StrictlyInside dir path := by
  simp only [StrictlyInside, rooted_clean, parts_clean]

/-- Below a directory that ends in a name, a clean path starts with the directory and a slash
exactly when it lies strictly inside it. -/
theorem startsWith_iff_strictlyInside {dir path : String} (hdir : EndsInName dir) :
    (clean path).startsWith (clean dir ++ "/") ↔ StrictlyInside (clean dir) (clean path) := by
  obtain ⟨L, hL, hLname⟩ := hdir
  have hpd : parts dir ≠ [] := fun h => by simp [h] at hL
  rw [String.startsWith_string_iff, strictlyInside_clean, String.toList_append,
    show "/".toList = ['/'] by decide]
  constructor
  · rintro ⟨w, hw⟩
    rw [List.append_assoc, List.singleton_append] at hw
    have hlen := congrArg List.length hw
    have hdir0 := List.length_pos_iff.2 (clean_toList_ne_nil dir)
    -- the path is longer than the directory, so it has resolved elements of its own
    have hpp : parts path ≠ [] := fun h => by
      rw [clean_toList path, h] at hlen
      simp only [List.length_append, List.length_cons] at hlen
      cases hr : rooted path <;> simp [hr] at hlen <;> omega
    have hr : rooted path = rooted dir := by
      rw [← rooted_clean path, ← rooted_clean dir]
      simp only [rooted, ← hw, List.head?_append]
      obtain ⟨c, cs, hc⟩ := List.exists_cons_of_ne_nil (clean_toList_ne_nil dir)
      simp [hc]
    have hparts : parts path = parts dir ++ elements w := by
      rw [← elements_clean hpp, ← hw, elements_append_slash, elements_clean hpd]
    refine ⟨hr, elements w, fun hnil => ?_, fun hclimb => ?_, hparts⟩
    · -- no further element would make the path the directory itself
      rw [hnil, List.append_nil] at hparts
      have := clean_eq_clean_iff.2 ⟨hr, hparts⟩
      rw [this] at hlen
      simp at hlen
    · -- a `..` after the directory's last name would break the resolved order
      have hres := (parts_resolved path).climbs_first
      rw [hparts] at hres
      exact hLname ((List.pairwise_append.1 hres).2.2 L (List.mem_of_getLast? hL) _ hclimb rfl)
  · rintro ⟨hr, rest, hne, -, hp⟩
    have hpp : parts path ≠ [] := by simp [hp, hpd]
    refine ⟨['/'].intercalate rest, ?_⟩
    rw [clean_toList_of_ne_nil hpd, clean_toList_of_ne_nil hpp, hr, hp, intercalate_append hpd hne]
    simp

/-! ## The last element -/

/-- A path whose last element is `b`: `b` alone, or `b` after a slash. -/
def EndsIn (p b : List Char) : Prop := p = b ∨ ∃ d, p = d ++ '/' :: b

theorem EndsIn.slash_cons {p b : List Char} : EndsIn p b → EndsIn ('/' :: p) b
  | .inl h => .inr ⟨[], by simp [h]⟩
  | .inr ⟨d, h⟩ => .inr ⟨'/' :: d, by simp [h]⟩

theorem EndsIn.ne_nil {p b : List Char} (h : EndsIn p b) (hne : b ≠ []) : p ≠ [] := by
  rcases h with rfl | ⟨d, rfl⟩ <;> simp [hne]

theorem endsIn_intercalate {b : List Char} (R : List (List Char)) :
    EndsIn (['/'].intercalate (R ++ [b])) b := by
  by_cases hR : R = []
  · exact .inl (by simp [hR])
  · exact .inr ⟨['/'].intercalate R, by simp [List.intercalate_append_singleton _ _ hR]⟩

theorem elements_of_endsIn {p b : List Char} (hne : b ≠ []) (hs : '/' ∉ b) (h : EndsIn p b) :
    ∃ E, elements p = E ++ [b] := by
  rcases h with rfl | ⟨d, rfl⟩
  · exact ⟨[], by simp [elements_of_slashFree hne hs]⟩
  · exact ⟨elements d, by rw [elements_append_slash, elements_of_slashFree hne hs]⟩

/-- Cleaning keeps the last element of a path when it is a plain one. -/
theorem clean_endsIn {s : String} {b : List Char} (hne : b ≠ []) (hs : '/' ∉ b) (hp : Plain b)
    (h : EndsIn s.toList b) : EndsIn (clean s).toList b := by
  obtain ⟨E, hE⟩ := elements_of_endsIn hne hs h
  -- the resolved elements end in `b`, and so do the slash-joined ones
  have hbody : EndsIn ("/".intercalate ((resolve (s.toList.head? == some '/')
      (elements s.toList) []).map String.ofList)).toList b := by
    rw [hE, resolve_append_plain _ hp]
    simpa [Function.comp_def] using endsIn_intercalate _
  unfold clean
  dsimp only
  generalize "/".intercalate ((resolve (s.toList.head? == some '/')
      (elements s.toList) []).map String.ofList) = body at hbody ⊢
  have hbody_ne : body.isEmpty = false := by
    have := hbody.ne_nil hne
    simp_all
  split
  · simpa using hbody.slash_cons
  · simpa [hbody_ne] using hbody

theorem join_endsIn (ps : List String) {b : String} (hne : b.toList ≠ []) (hs : '/' ∉ b.toList)
    (hp : Plain b.toList) : EndsIn (join (ps ++ [b])).toList b.toList := by
  have hb : b.isEmpty = false := by simp_all
  have hkept : (ps ++ [b]).filter (!·.isEmpty) = ps.filter (!·.isEmpty) ++ [b] := by
    simp [List.filter_append, hb]
  unfold join
  rw [hkept, if_neg (by simp)]
  apply clean_endsIn hne hs hp
  simpa using endsIn_intercalate ((ps.filter (!·.isEmpty)).map String.toList)

/-- The base of a path is its last element. -/
theorem base_of_endsIn {s : String} {b : List Char} (hne : b ≠ []) (hs : '/' ∉ b)
    (h : EndsIn s.toList b) : base s = String.ofList b := by
  -- what stands before `b` ends with a slash, if anything stands there
  obtain ⟨pre, hpre, hcut⟩ : ∃ pre, s.toList = pre ++ b ∧
      pre.reverse.takeWhile (· != '/') = [] := by
    rcases h with h | ⟨d, h⟩
    · exact ⟨[], by simp [h], rfl⟩
    · exact ⟨d ++ ['/'], by simp [h], by simp⟩
  obtain ⟨c, r, hcr⟩ := List.exists_cons_of_ne_nil (List.reverse_ne_nil_iff.2 hne)
  have hall : ∀ x ∈ c :: r, (x != '/') = true := fun x hx => by
    rw [← hcr, List.mem_reverse] at hx
    simp only [bne_iff_ne, ne_eq]
    rintro rfl
    exact hs hx
  have hrev : s.toList.reverse = c :: r ++ pre.reverse := by simp [hpre, hcr]
  have hc : (c == '/') = false := by simpa using hall c (by simp)
  -- no slash to trim at the end, and the last element is all of `b`
  have htrim : (s.toList.reverse.dropWhile (· == '/')).reverse = s.toList := by
    rw [hrev, List.cons_append, List.dropWhile_cons_of_neg (by simp [hc]), ← List.cons_append,
      ← hrev, List.reverse_reverse]
  have hlast : (s.toList.reverse.takeWhile (· != '/')).reverse = b := by
    rw [hrev, List.takeWhile_append_of_pos hall, hcut, List.append_nil, ← hcr,
      List.reverse_reverse]
  have hsne : s.toList ≠ [] := by simp [hpre, hne]
  simp only [base, htrim, hlast]
  simp [String.isEmpty_iff, ← String.toList_inj, hsne]

/-- A joined path ends in its last part, when that part is a plain element. -/
theorem base_join (ps : List String) {b : String} (hne : b.toList ≠ []) (hs : '/' ∉ b.toList)
    (hp : Plain b.toList) : base (join (ps ++ [b])) = b := by
  rw [base_of_endsIn hne hs (join_endsIn ps hne hs hp), String.ofList_toList]

/-- A base is the root or holds no slash. -/
theorem base_slash (s : String) : base s = "/" ∨ '/' ∉ (base s).toList := by
  unfold base
  split
  · simp
  · dsimp only
    split
    · simp
    · right
      simp only [String.toList_ofList, List.mem_reverse]
      intro h
      simpa using List.all_eq_true.1 List.all_takeWhile _ h

/-- What follows the last dot of a base holds no slash. -/
theorem slash_not_mem_afterDot {b : String} (hb : b = "/" ∨ '/' ∉ b.toList)
    (hrest : b.toList.reverse.dropWhile (· != '.') ≠ []) :
    '/' ∉ b.toList.reverse.takeWhile (· != '.') := by
  rcases hb with rfl | hb
  · simp at hrest
  · exact fun h => hb (List.mem_reverse.1 (List.takeWhile_subset _ h))

theorem EndsIn.map {p b : List Char} {f : Char → Char} (hf : f '/' = '/') (h : EndsIn p b) :
    EndsIn (p.map f) (b.map f) := by
  rcases h with rfl | ⟨d, rfl⟩
  · exact .inl rfl
  · exact .inr ⟨d.map f, by simp [hf]⟩

/-- A run of slashes has no elements. -/
theorem elements_slashes {S : List Char} (hS : ∀ c ∈ S, c = '/') : elements S = [] := by
  induction S with
  | nil => rfl
  | cons c S ih =>
    rw [hS c List.mem_cons_self, elements_slash_cons]
    exact ih fun d hd => hS d (List.mem_cons_of_mem _ hd)

/-- A path cut around its last element: a piece ending in the element, then slashes only. -/
structure LastElement (p L : List Char) : Prop where
  split : ∃ q S, p = q ++ S ∧ EndsIn q L ∧ ∀ c ∈ S, c = '/'
  ne_nil : L ≠ []
  no_slash : '/' ∉ L

/-- The element a path is cut around is the last of its elements. -/
theorem LastElement.getLast?_elements {p L : List Char} (h : LastElement p L) :
    (elements p).getLast? = some L := by
  obtain ⟨q, S, rfl, hq, hS⟩ := h.split
  obtain ⟨E, hE⟩ := elements_of_endsIn h.ne_nil h.no_slash hq
  -- the trailing slashes add no element
  have htail : elements (q ++ S) = elements q := by
    cases S with
    | nil => rw [List.append_nil]
    | cons c S =>
      rw [hS c List.mem_cons_self, elements_append_slash,
        elements_slashes fun d hd => hS d (List.mem_cons_of_mem _ hd), List.append_nil]
  rw [htail, hE, List.getLast?_concat]

/-- A path with a character other than a slash has a last element. -/
theorem exists_lastElement {p : List Char} (h : ∃ c ∈ p, c ≠ '/') :
    ∃ L, LastElement p L := by
  induction p with
  | nil => simp at h
  | cons c p ih =>
    by_cases hp : ∃ d ∈ p, d ≠ '/'
    · obtain ⟨L, ⟨q, S, rfl, hq, hS⟩, hne, hL⟩ := ih hp
      by_cases hc : c = '/'
      · exact ⟨L, ⟨'/' :: q, S, by rw [hc]; rfl, hq.slash_cons, hS⟩, hne, hL⟩
      · rcases hq with rfl | ⟨d, rfl⟩
        · -- the first character joins the element
          exact ⟨c :: q, ⟨c :: q, S, rfl, .inl rfl, hS⟩, List.cons_ne_nil _ _,
            by simpa [Ne.symm hc] using hL⟩
        · exact ⟨L, ⟨c :: d ++ '/' :: L, S, by simp, .inr ⟨c :: d, rfl⟩, hS⟩, hne, hL⟩
    · -- only slashes follow the first character, which is then no slash
      simp only [not_exists, not_and, not_not] at hp
      have hc : c ≠ '/' := by
        obtain ⟨d, hd, hne⟩ := h
        rcases List.mem_cons.1 hd with rfl | hd
        · exact hne
        · exact absurd (hp d hd) hne
      exact ⟨[c], ⟨[c], p, rfl, .inl rfl, hp⟩, List.cons_ne_nil _ _,
        by simpa using Ne.symm hc⟩

/-- The last element a path is cut around is the last of its elements. -/
theorem lastElement_of_getLast? {p L : List Char} (h : (elements p).getLast? = some L) :
    LastElement p L := by
  have hne : ∃ c ∈ p, c ≠ '/' := by
    by_contra hall
    simp only [not_exists, not_and, not_not] at hall
    rw [elements_slashes hall] at h
    cases h
  obtain ⟨L', hL'⟩ := exists_lastElement hne
  rw [hL'.getLast?_elements, Option.some.injEq] at h
  exact h ▸ hL'

/-- A plain last element is also the last resolved element. -/
theorem getLast?_parts {s : String} {L : List Char} (h : (elements s.toList).getLast? = some L)
    (hL : Plain L) : (parts s).getLast? = some L := by
  obtain ⟨xs, hxs⟩ := List.getLast?_eq_some_iff.1 h
  rw [parts, hxs, resolve_append_plain _ hL, List.getLast?_concat]

/-- The base of a path that is not only slashes: the characters after the last slash, once the
trailing slashes are gone. -/
theorem base_ofList {l : List Char} (h : l.reverse.dropWhile (· == '/') ≠ []) :
    base (String.ofList l) =
      String.ofList ((l.reverse.dropWhile (· == '/')).takeWhile (· != '/')).reverse := by
  have hl : l ≠ [] := by rintro rfl; exact h rfl
  unfold base
  simp [hl, h]

/-- The base of a path depends only on its last piece holding a character other than a slash:
what stands before a slash in front of it and the slashes after it do not count. -/
theorem base_append {q M S : List Char} (hq : EndsIn q M) (hM : ∃ c ∈ M, c ≠ '/')
    (hS : ∀ c ∈ S, c = '/') : base (String.ofList (q ++ S)) = base (String.ofList M) := by
  obtain ⟨A, rfl, hA⟩ : ∃ A, q = A ++ M ∧ A.reverse.takeWhile (· != '/') = [] := by
    rcases hq with rfl | ⟨d, rfl⟩
    · exact ⟨[], by simp, rfl⟩
    · exact ⟨d ++ ['/'], by simp, by simp⟩
  have hdrop : M.reverse.dropWhile (· == '/') ≠ [] := by
    rw [Ne, List.dropWhile_eq_nil_iff]
    obtain ⟨c, hc, hne⟩ := hM
    exact fun hall => hne (by simpa using hall c (List.mem_reverse.2 hc))
  -- the trailing slashes go, and the piece stops the dropping before the text in front
  have hrev : (A ++ M ++ S).reverse.dropWhile (· == '/') =
      M.reverse.dropWhile (· == '/') ++ A.reverse := by
    rw [List.reverse_append, List.reverse_append, List.dropWhile_append,
      if_pos (by simpa [List.dropWhile_eq_nil_iff] using hS), List.dropWhile_append,
      if_neg (by simpa using hdrop)]
  -- the text in front, when there is any, ends with a slash and so adds nothing
  have htake : (M.reverse.dropWhile (· == '/') ++ A.reverse).takeWhile (· != '/') =
      (M.reverse.dropWhile (· == '/')).takeWhile (· != '/') := by
    rw [List.takeWhile_append]
    split
    · next hlen =>
      rw [hA, List.append_nil, (List.takeWhile_prefix _).eq_of_length hlen]
    · rfl
  rw [base_ofList (by rw [hrev]; simp [hdrop]), base_ofList hdrop, hrev, htake]

/-- Joining two paths that are not empty cleans them with a slash between. -/
theorem join_pair {a b : String} (ha : a ≠ "") (hb : b ≠ "") :
    join [a, b] = clean (a ++ "/" ++ b) := by
  simp [join, ha, hb]

end SlashPath

end Harvest
